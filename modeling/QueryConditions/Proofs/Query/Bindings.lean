import QueryConditions.Proofs.Text.Names
import QueryConditions.Proofs.Text.Scanning
import QueryConditions.Query.Alias

/-!
Bindings as they are written: a keyword, a table and an alias, with blanks between them and
AS before the alias or not. A binding is made of whole words, so it is read only where its
keyword begins as a word; no reading crosses a character that is neither of a word nor blank.
-/

namespace QueryConditions

variable {c : Char} {keyword s rest name : Text} {binding : Binding} {before : Option Char}

def WordFollows (s : Text) : Prop :=
  ∃ gap word rest, IsSpacing gap ∧ IsName word ∧ s = gap ++ (word ++ rest)

/-- Blanks and an alias. The word AS is an alias only if no word follows behind it. -/
inductive IsAlias : Text → Text → Text → Prop
  | plain {gap name rest : Text} : IsSpacing gap → IsName name → wordEnds rest = true →
      ¬ (Spells "AS".toList name ∧ WordFollows rest) → IsAlias (gap ++ (name ++ rest)) name rest
  | named {gap as gap' name rest : Text} : IsSpacing gap → Spells "AS".toList as →
      IsSpacing gap' → IsName name → wordEnds rest = true →
        IsAlias (gap ++ (as ++ (gap' ++ (name ++ rest)))) name rest

def Names (keyword s : Text) (binding : Binding) (rest : Text) : Prop :=
  ∃ word gap behind, Spells keyword word ∧ IsSpacing gap ∧ IsName binding.table ∧
    IsAlias behind binding.name rest ∧ s = word ++ (gap ++ (binding.table ++ behind))

section Written

theorem nextWord?_eq_some_iff : nextWord? s = some (name, rest) ↔
    ∃ gap, IsSpacing gap ∧ IsName name ∧ wordEnds rest = true ∧ s = gap ++ (name ++ rest) := by
  simp only [nextWord?, Option.bind_eq_bind, Option.bind_eq_some_iff, word?_eq_some_iff]
  constructor
  · rintro ⟨start, blank, isName, ends, rfl⟩
    rcases blanks?_eq_some_iff.1 blank with ⟨⟨gap, spacing, rfl⟩, _⟩
    exact ⟨gap, spacing, isName, ends, rfl⟩
  · rintro ⟨gap, spacing, isName, ends, rfl⟩
    exact ⟨name ++ rest, blanks?_append_name spacing isName rest, isName, ends, rfl⟩

theorem nextWord?_eq_none_iff : nextWord? s = none ↔ ¬ WordFollows s := by
  constructor
  · rintro absent ⟨gap, word, rest, spacing, isName, rfl⟩
    have read := word?_append_name isName rest
    rw [nextWord?, blanks?_append_name spacing isName] at absent
    exact absurd (read.symm.trans absent) (Option.some_ne_none _)
  · intro absent
    by_contra found
    rcases Option.ne_none_iff_exists'.1 found with ⟨⟨word, rest⟩, read⟩
    rcases nextWord?_eq_some_iff.1 read with ⟨gap, spacing, isName, _, whole⟩
    exact absent ⟨gap, word, rest, spacing, isName, whole⟩

theorem IsAlias.ends (written : IsAlias s name rest) : wordEnds s = true := by
  cases written with
  | plain spacing => exact spacing.wordEnds _
  | named spacing => exact spacing.wordEnds _

theorem IsAlias.ends_rest (written : IsAlias s name rest) : wordEnds rest = true := by
  cases written with
  | plain _ _ ends => exact ends
  | named _ _ _ _ ends => exact ends

theorem IsAlias.wordFollows (written : IsAlias s name rest) : WordFollows s := by
  cases written with
  | plain spacing isName => exact ⟨_, _, _, spacing, isName, rfl⟩
  | named spacing spells => exact ⟨_, _, _, spacing, isName_of_spells isName_as spells, rfl⟩

/-- The word AS is skipped only if a word follows behind it. -/
theorem keyword?_as_eq_none (isName : IsName name) (ends : wordEnds rest = true)
    (other : ¬ (Spells "AS".toList name ∧ WordFollows rest)) :
    keyword? "AS".toList (name ++ rest) >>= nextWord? = none := by
  apply Option.bind_eq_none_iff.2
  intro after as
  rcases keyword?_eq_some_iff.1 as with ⟨word, spells, whole⟩
  apply nextWord?_eq_none_iff.2
  intro follows
  have isAs : IsName word := isName_of_spells isName_as spells
  have ends' : wordEnds after = true := by
    rcases follows with ⟨gap, _, _, spacing, _, rfl⟩
    exact spacing.wordEnds _
  obtain ⟨rfl, rfl⟩ := name_append_inj isName isAs ends ends' whole
  exact other ⟨spells, follows⟩

theorem aliasName?_eq_some_iff : aliasName? s = some (name, rest) ↔ IsAlias s name rest := by
  simp only [aliasName?, Option.bind_eq_bind, Option.bind_eq_some_iff]
  constructor
  · rintro ⟨start, blank, read⟩
    rcases blanks?_eq_some_iff.1 blank with ⟨⟨gap, spacing, rfl⟩, _⟩
    split at read
    · next result found =>
        cases read
        rcases Option.bind_eq_some_iff.1 found with ⟨after, as, next⟩
        rcases keyword?_eq_some_iff.1 as with ⟨word, spells, rfl⟩
        rcases nextWord?_eq_some_iff.1 next with ⟨gap', spacing', isName, ends, rfl⟩
        exact .named spacing spells spacing' isName ends
    · next absent =>
        rcases word?_eq_some_iff.1 read with ⟨isName, ends, rfl⟩
        apply IsAlias.plain spacing isName ends
        rintro ⟨spells, follows⟩
        -- Were it AS with a word behind it, that word would have been read.
        have skipped := Option.bind_eq_none_iff.1 absent rest
          (keyword?_eq_some_iff.2 ⟨name, spells, rfl⟩)
        exact nextWord?_eq_none_iff.1 skipped follows
  · intro written
    cases written with
    | @plain gap _ _ spacing isName ends other =>
        refine ⟨name ++ rest, blanks?_append_name spacing isName rest, ?_⟩
        have skipped := keyword?_as_eq_none isName ends other
        rw [Option.bind_eq_bind] at skipped
        rw [skipped]
        exact word?_eq_some_iff.2 ⟨isName, ends, rfl⟩
    | @named gap as gap' _ _ spacing spells spacing' isName ends =>
        have isAs : IsName as := isName_of_spells isName_as spells
        have next := nextWord?_eq_some_iff.2 ⟨gap', spacing', isName, ends, rfl⟩
        have skipped : keyword? "AS".toList (as ++ (gap' ++ (name ++ rest))) =
            some (gap' ++ (name ++ rest)) := keyword?_eq_some_iff.2 ⟨as, spells, rfl⟩
        refine ⟨_, blanks?_append_name spacing isAs _, ?_⟩
        rw [skipped, Option.bind_some, next]

theorem binding?_eq_some_iff : binding? keyword before s = some (binding, rest) ↔
    wordMayBegin before = true ∧ Names keyword s binding rest := by
  unfold binding?
  split
  · next fresh =>
      simp only [fresh, true_and, Option.bind_eq_bind, Option.bind_eq_some_iff, Option.pure_def,
        Option.some.injEq, Prod.mk.injEq, Prod.exists, nextWord?_eq_some_iff,
        aliasName?_eq_some_iff, keyword?_eq_some_iff]
      constructor
      · rintro ⟨_, ⟨word, spells, rfl⟩, table, behind, ⟨gap, spacing, isTable, _, rfl⟩, name, _,
          written, rfl, rfl⟩
        exact ⟨word, gap, behind, spells, spacing, isTable, written, rfl⟩
      · rintro ⟨word, gap, behind, spells, spacing, isTable, written, rfl⟩
        exact ⟨_, ⟨word, spells, rfl⟩, binding.table, behind,
          ⟨gap, spacing, isTable, written.ends, rfl⟩, binding.name, rest, written, rfl, rfl⟩
  · next within => simp [within]

end Written

section Reading

theorem isName_from : IsName "FROM".toList := ⟨by decide, by decide⟩

theorem isName_join : IsName "JOIN".toList := ⟨by decide, by decide⟩

theorem Names.ends_rest (names : Names keyword s binding rest) : wordEnds rest = true := by
  rcases names with ⟨_, _, _, _, _, _, written, _⟩
  exact written.ends_rest

/-- A binding begins with the letters of its keyword. -/
theorem binding?_of_wordEnds (isName : IsName keyword) (ends : wordEnds s = true) :
    binding? keyword before s = none := by
  by_contra found
  rcases Option.ne_none_iff_exists'.1 found with ⟨⟨binding, rest⟩, read⟩
  rcases (binding?_eq_some_iff.1 read).2 with ⟨word, gap, behind, spells, _, _, _, rfl⟩
  have isWord := isName_of_spells isName spells
  rcases exists_cons_of_all isWord.1 isWord.2 with ⟨c, tail, rfl, letter, _⟩
  rw [List.cons_append, wordEnds, letter] at ends
  contradiction

theorem bindings_settled (isName : IsName keyword) : (bindings keyword).Settled := by
  intro before s binding rest read other
  have ends := (binding?_eq_some_iff.1 read).2.ends_rest
  have unread (before : Option Char) : (bindings keyword).read? before rest = none :=
    binding?_of_wordEnds isName ends
  rw [unread other, unread none]

end Reading

section Stops

theorem nextWord?_append_stop (blank : isBlank c = false) (word : isWord c = false)
    (s t : Text) :
    nextWord? (s ++ c :: t) =
      (nextWord? s).map fun (name, rest) => (name, rest ++ c :: t) := by
  simp only [nextWord?, Option.bind_eq_bind, blanks?_append_stop blank]
  cases blanks? s with
  | none => rfl
  | some gap => exact word?_append_stop word gap t

theorem aliasName?_append_stop (blank : isBlank c = false) (word : isWord c = false)
    (s t : Text) :
    aliasName? (s ++ c :: t) =
      (aliasName? s).map fun (name, rest) => (name, rest ++ c :: t) := by
  simp only [aliasName?, Option.bind_eq_bind, blanks?_append_stop blank]
  cases blanks? s with
  | none => rfl
  | some gap =>
      have letters : "AS".toList.all isWord = true := by decide
      simp only [Option.map_some, Option.bind_some, keyword?_append_stop letters word]
      cases keyword? "AS".toList gap with
      | none => exact word?_append_stop word gap t
      | some after =>
          simp only [Option.map_some, Option.bind_some, nextWord?_append_stop blank word]
          cases nextWord? after with
          | none => exact word?_append_stop word gap t
          | some named => rfl

theorem bindings_stopsAt {keyword : Text} (letters : keyword.all isWord = true)
    (blank : isBlank c = false) (word : isWord c = false) : (bindings keyword).StopsAt c := by
  intro before s t
  simp only [bindings, binding?]
  by_cases fresh : wordMayBegin before = true
  · simp only [fresh, if_true, Option.bind_eq_bind, keyword?_append_stop letters word]
    cases keyword? keyword s with
    | none => rfl
    | some after =>
        simp only [Option.map_some, Option.bind_some, nextWord?_append_stop blank word]
        cases nextWord? after with
        | none => rfl
        | some named =>
            simp only [Option.map_some, Option.bind_some, aliasName?_append_stop blank word]
            cases aliasName? named.2 <;> rfl
  · simp [fresh]

/-- What stands before a text does not matter to its bindings unless it is a word. -/
theorem scan_bindings_before {keyword : Text} (word : isWord c = false) (s : Text) :
    (bindings keyword).scan (some c) s = (bindings keyword).scan none s := by
  apply Pattern.scan_of_read?
  simp [bindings, binding?, wordMayBegin, word]

end Stops

end QueryConditions
