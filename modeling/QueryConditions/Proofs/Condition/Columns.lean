import QueryConditions.Proofs.Text.Names

/-!
The forms of columns. The column of an expression is a name, or two names with a dot
between, or a text without a word character. In a text that begins with a column of the first
two forms the column is read, with as much of the text behind it as goes on with it.
-/

namespace QueryConditions

variable {s t rest name table column gap : Text}

inductive IsColumn : Text → Prop
  | bare {name : Text} : IsName name → IsColumn name
  | dotted {table name : Text} : IsName table → IsName name → IsColumn (table ++ '.' :: name)

section Forms

theorem isColumn_of_columnRef? (found : columnRef? s = some column) : IsColumn column := by
  simp only [columnRef?, Option.bind_eq_bind, Option.bind_eq_some_iff] at found
  obtain ⟨⟨first, rest⟩, read, found⟩ := found
  have isName := isName_of_word? read
  split at found
  · split at found
    · next second _ read' =>
        cases found
        exact .dotted isName (isName_of_word? read')
    · cases found
      exact .bare isName
  · cases found
    exact .bare isName

theorem columnRef?_eq_none (absent : columnRef? s = none) : s.all (!isWord ·) = true := by
  rw [← word?_eq_none_iff]
  cases read : word? (s.dropWhile (!isWord ·)) with
  | none => rfl
  | some found =>
      obtain ⟨first, rest⟩ := found
      simp only [columnRef?, read, Option.bind_eq_bind, Option.bind_some] at absent
      split at absent
      · split at absent <;> simp at absent
      · simp at absent

/-- A character of no name and no parenthesis: all that a column without a name is made of. -/
def isFiller (c : Char) : Bool := !isWord c && c != '(' && c != ')'

theorem normalizeColumn_forms (expr : Text) :
    IsColumn (normalizeColumn expr) ∨ (normalizeColumn expr).all isFiller = true := by
  unfold normalizeColumn
  generalize typeCast.erase (eraseCalls (Text.trim expr)) = erased
  simp only
  cases found : columnRef? (erased.filter fun c => c != '(' && c != ')') with
  | some column => exact .inl (isColumn_of_columnRef? found)
  | none =>
      -- Without a word the whole text is left, and its parentheses are gone by then.
      have wordless := columnRef?_eq_none found
      have filler : (erased.filter fun c => c != '(' && c != ')').all isFiller = true := by
        refine List.all_eq_true.2 fun c member => ?_
        have word := List.all_eq_true.1 wordless c member
        have parenthesis := (List.mem_filter.1 member).2
        simp only [isFiller, Bool.and_assoc, Bool.and_eq_true] at parenthesis ⊢
        exact ⟨word, parenthesis⟩
      obtain ⟨left, right, _, _, between⟩ :=
        strip_between isBlank (erased.filter fun c => c != '(' && c != ')')
      rw [between, List.all_append, List.all_append, Bool.and_eq_true, Bool.and_eq_true] at filler
      exact .inr filler.2.1

theorem splitQualified_name (isName : IsName name) : splitQualified name = (none, name) := by
  have dotless : name.dropWhile (· != '.') = [] := by
    refine List.dropWhile_eq_nil_iff.2 fun c member => ?_
    have dot : '.' ∉ name := not_mem_of_all isName.2 (by decide)
    exact bne_iff_ne.2 fun same => dot (same ▸ member)
  simp [splitQualified, dotless]

theorem splitQualified_dotted (isName : IsName table) (name : Text) :
    splitQualified (table ++ '.' :: name) = (some table, name) := by
  have dotless : ∀ c ∈ table, (c != '.') = true := by
    intro c member
    have dot : '.' ∉ table := not_mem_of_all isName.2 (by decide)
    exact bne_iff_ne.2 fun same => dot (same ▸ member)
  simp [splitQualified, List.dropWhile_append_of_pos dotless, List.takeWhile_append_of_pos dotless]

theorem splitQualified_all {p : Char → Bool} (all : s.all p = true) :
    (splitQualified s).2.all p = true ∧ ∀ qualifier ∈ (splitQualified s).1, qualifier.all p = true := by
  unfold splitQualified
  split
  · exact ⟨all, by simp⟩
  · next c name shape =>
      have whole := List.takeWhile_append_dropWhile (p := (· != '.')) (l := s)
      rw [← whole, shape, List.all_append, List.all_cons, Bool.and_eq_true, Bool.and_eq_true] at all
      refine ⟨all.2.2, fun qualifier member => ?_⟩
      cases member
      exact all.1

end Forms

section Columns

theorem IsColumn.all {p : Char → Bool} (words : ∀ c, isWord c = true → p c = true)
    (dot : p '.' = true) (isColumn : IsColumn s) : s.all p = true := by
  have letters {name : Text} (isName : IsName name) : name.all p = true :=
    List.all_eq_true.2 fun c member => words c (List.all_eq_true.1 isName.2 c member)
  cases isColumn with
  | bare isName => exact letters isName
  | dotted isTable isName => simp [letters isTable, letters isName, dot]

theorem IsColumn.not_mem {c : Char} (wordless : isWord c = false) (other : c ≠ '.')
    (isColumn : IsColumn column) : c ∉ column := by
  have others : column.all (· != c) = true := by
    refine isColumn.all (fun d word => ?_) (bne_iff_ne.2 other.symm)
    rw [bne_iff_ne]
    rintro rfl
    rw [wordless] at word
    contradiction
  exact not_mem_of_all others (bne_self_eq_false c)

theorem IsColumn.solid (isColumn : IsColumn s) : s.all (!isBlank ·) = true := by
  refine isColumn.all ?_ (by decide)
  intro c word
  by_contra blank
  rw [isWord_of_isBlank (by simpa using blank)] at word
  contradiction

theorem IsColumn.ne_nil (isColumn : IsColumn s) : s ≠ [] := by
  cases isColumn with
  | bare isName => exact isName.1
  | dotted isTable isName => simp

def continuation (column t : Text) : Text :=
  match t.dropWhile isWord with
  | '.' :: after =>
      match word? after with
      | some (second, _) =>
          if '.' ∈ column then t.takeWhile isWord else t.takeWhile isWord ++ '.' :: second
      | none => t.takeWhile isWord
  | _ => t.takeWhile isWord

/-- A column is read as far as the text behind it goes on with it. -/
theorem columnRef?_append (isColumn : IsColumn column) (t : Text) :
    columnRef? (column ++ t) = some (column ++ continuation column t) := by
  have start {name : Text} (isName : IsName name) (t : Text) :
      (name ++ t).dropWhile (!isWord ·) = name ++ t := by
    rcases exists_cons_of_all isName.1 isName.2 with ⟨c, tail, rfl, letter, _⟩
    simp [letter]
  cases isColumn with
  | bare isName =>
      have dotless : '.' ∉ column := not_mem_of_all isName.2 (by decide)
      simp only [columnRef?, start isName, word?_append_name isName, continuation, dotless,
        Option.bind_eq_bind, Option.bind_some, if_false]
      split
      · next after shape =>
          simp only [shape]
          cases word? after <;> simp
      · simp
  | @dotted table name isTable isName =>
      have dot : '.' ∈ table ++ '.' :: name := by simp
      have wordless : isWord '.' = false := by decide
      -- A second dot does not go on with a column that has one.
      have rest : continuation (table ++ '.' :: name) t = t.takeWhile isWord := by
        unfold continuation
        split
        · split <;> simp
        · rfl
      rw [rest, List.append_assoc, List.cons_append]
      simp [columnRef?, start isTable, word?_append_name isTable, wordless,
        word?_append_name isName]

theorem continuation_nil (column : Text) : continuation column [] = [] := rfl

/-- The text begins as a name goes on, or gives a column without a table its name. -/
def GoesOn (column t : Text) : Prop :=
  (∃ c rest, t = c :: rest ∧ isWord c = true) ∨
    '.' ∉ column ∧ ∃ c rest, t = '.' :: c :: rest ∧ isWord c = true

theorem continuation_eq_nil_iff : continuation column t = [] ↔ ¬ GoesOn column t := by
  cases t with
  | nil => simp [continuation, GoesOn]
  | cons c t =>
      by_cases inside : isWord c = true
      · refine iff_of_false ?_ (not_not_intro (.inl ⟨c, t, rfl, inside⟩))
        unfold continuation
        split
        · split
          · split <;> simp [inside]
          · simp [inside]
        · simp [inside]
      · by_cases dot : c = '.'
        · subst dot
          cases t with
          | nil => simp [continuation, GoesOn, word?, inside]
          | cons d rest =>
              by_cases second : isWord d = true <;> by_cases dotted : '.' ∈ column <;>
                simp [continuation, GoesOn, word?, inside, second, dotted]
        · simp [continuation, GoesOn, inside, dot]

theorem not_goesOn_cons {c : Char} (wordless : isWord c = false) (other : c ≠ '.') :
    ¬ GoesOn column (c :: t) := by
  rintro (⟨d, rest, same, word⟩ | ⟨_, d, rest, same, _⟩)
  · rw [← (List.cons.inj same).1, wordless] at word
    contradiction
  · exact other (List.cons.inj same).1

theorem not_goesOn_blanks_append (blanks : gap.all isBlank = true) (stops : ¬ GoesOn column t) :
    ¬ GoesOn column (gap ++ t) := by
  cases gap with
  | nil => exact stops
  | cons c gap =>
      rw [List.all_cons, Bool.and_eq_true] at blanks
      apply not_goesOn_cons (isWord_of_isBlank blanks.1)
      rintro rfl
      exact absurd blanks.1 (by decide)

theorem columnRef?_blanks_append (blanks : gap.all isBlank = true) (t : Text) :
    columnRef? (gap ++ t) = columnRef? t := by
  have wordless : ∀ c ∈ gap, (!isWord c) = true := fun c member => by
    simp [isWord_of_isBlank (List.all_eq_true.1 blanks c member)]
  rw [columnRef?, columnRef?, List.dropWhile_append_of_pos wordless]

end Columns

end QueryConditions
