import QueryConditions.Proofs.Condition.Columns
import QueryConditions.Proofs.Text.Erasing

/-!
What is erased from an expression: the calls of scalar functions, in passes until none is
left, then type casts, and last of all parentheses. A call is erased up to its parenthesis,
and neither a call nor a cast is read across a parenthesis that closes or across a comma. A
column that begins what is left is the column of the expression, and so is its own column.
-/

namespace QueryConditions

variable {s t rest name gap column : Text} {c : Char} {before : Option Char}

section Calls

theorem wordEnds_open (blanks : gap.all isBlank = true) (rest : Text) :
    wordEnds (gap ++ '(' :: rest) = true :=
  wordEnds_blanks_append blanks (wordEnds_cons (by decide) rest)

theorem skipBlanks_open (blanks : gap.all isBlank = true) (rest : Text) :
    Text.skipBlanks (gap ++ '(' :: rest) = '(' :: rest := by
  have solid : isBlank '(' = false := by decide
  exact skipBlanks_append blanks (by simpa using solid)

def IsFunctionName (name : Text) : Prop := ∃ function ∈ scalarFunctions, Spells function name

instance (name : Text) : Decidable (IsFunctionName name) :=
  inferInstanceAs (Decidable (∃ function ∈ scalarFunctions, Spells function name))

theorem isName_of_mem_scalarFunctions {function : Text} (member : function ∈ scalarFunctions) :
    IsName function := by
  have names : ∀ function ∈ scalarFunctions, function ≠ [] ∧ function.all isWord = true := by
    decide
  exact names function member

theorem IsFunctionName.isName (isFunction : IsFunctionName name) : IsName name := by
  rcases isFunction with ⟨function, member, spells⟩
  exact isName_of_spells (isName_of_mem_scalarFunctions member) spells

theorem call?_eq_some_iff {function : Text} : call? function s = some rest ↔
    ∃ name gap, Spells function name ∧ gap.all isBlank = true ∧
      s = name ++ (gap ++ '(' :: rest) := by
  constructor
  · intro called
    unfold call? at called
    split at called
    · next shape =>
        cases called
        rcases Option.map_eq_some_iff.1 shape with ⟨after, read, opened⟩
        rcases keyword?_eq_some_iff.1 read with ⟨name, spells, rfl⟩
        refine ⟨name, after.takeWhile isBlank, spells, List.all_takeWhile, ?_⟩
        rw [← opened, Text.skipBlanks, List.takeWhile_append_dropWhile]
    · simp at called
  · rintro ⟨name, gap, spells, blanks, rfl⟩
    simp [call?, keyword?_eq_some_iff.2 ⟨name, spells, rfl⟩, skipBlanks_open blanks]

theorem scalarCall_eq_some {result : Unit × Text}
    (read : scalarCall.read? before s = some result) :
    ∃ name gap, IsFunctionName name ∧ gap.all isBlank = true ∧
      s = name ++ (gap ++ '(' :: result.2) := by
  simp only [scalarCall] at read
  split at read
  · rcases Option.map_eq_some_iff.1 read with ⟨rest, here, rfl⟩
    rcases List.exists_of_findSome?_eq_some here with ⟨function, member, called⟩
    rcases call?_eq_some_iff.1 called with ⟨name, gap, spells, blanks, whole⟩
    exact ⟨name, gap, ⟨function, member, spells⟩, blanks, whole⟩
  · simp at read

/-- Behind a whole word a call goes on with blanks and a parenthesis. -/
theorem scalarCall_name_eq_some (isName : IsName name) (ends : wordEnds t = true)
    {result : Unit × Text} (read : scalarCall.read? before (name ++ t) = some result) :
    IsFunctionName name ∧ Text.skipBlanks t = '(' :: result.2 := by
  rcases scalarCall_eq_some read with ⟨function, gap, isFunction, blanks, whole⟩
  rcases name_append_inj isName isFunction.isName ends (wordEnds_open blanks _) whole with
    ⟨rfl, rfl⟩
  exact ⟨isFunction, skipBlanks_open blanks _⟩

theorem scalarCall_of_name (isFunction : IsFunctionName name) (blanks : gap.all isBlank = true)
    (fresh : wordMayBegin before = true) (rest : Text) :
    scalarCall.read? before (name ++ (gap ++ '(' :: rest)) = some ((), rest) := by
  have found : (scalarFunctions.findSome?
      (call? · (name ++ (gap ++ '(' :: rest)))).isSome = true := by
    rcases isFunction with ⟨function, member, spells⟩
    rw [List.findSome?_isSome_iff]
    exact ⟨function, member, Option.isSome_of_eq_some
      (call?_eq_some_iff.2 ⟨name, gap, spells, blanks, rfl⟩)⟩
  rcases Option.isSome_iff_exists.1 found with ⟨after, here⟩
  have read : scalarCall.read? before (name ++ (gap ++ '(' :: rest)) = some ((), after) := by
    simp only [scalarCall, fresh, if_true, here, Option.map_some]
  rcases scalarCall_name_eq_some isFunction.isName (wordEnds_open blanks rest) read with
    ⟨_, opened⟩
  rw [skipBlanks_open blanks, List.cons.injEq] at opened
  rw [read, opened.2]

theorem scalarCall_of_not_word (wordless : isWord c = false) (s : Text) :
    scalarCall.read? before (c :: s) = none := by
  by_contra found
  rcases Option.ne_none_iff_exists'.1 found with ⟨result, read⟩
  rcases scalarCall_eq_some read with ⟨name, gap, isFunction, _, whole⟩
  rcases isFunction.isName with ⟨some_char, letters⟩
  rcases exists_cons_of_all some_char letters with ⟨d, name, rfl, letter, _⟩
  rw [List.cons_append, List.cons.injEq] at whole
  rw [whole.1, letter] at wordless
  contradiction

theorem scalarCall_freshAfter (wordless : isWord c = false) : scalarCall.FreshAfter c := by
  intro t
  simp [scalarCall, wordMayBegin, wordless]

theorem call?_append_stop {function : Text} (letters : function.all isWord = true)
    (wordless : isWord c = false) (solid : isBlank c = false) (closed : c ≠ '(') (s t : Text) :
    call? function (s ++ c :: t) = (call? function s).map (· ++ c :: t) := by
  unfold call?
  rw [keyword?_append_stop letters wordless]
  cases keyword? function s with
  | none => rfl
  | some after =>
      simp only [Option.map_some, skipBlanks_append_stop solid]
      cases Text.skipBlanks after with
      | nil => simp [closed]
      | cons d after =>
          by_cases opens : d = '('
          · subst opens
            rfl
          · simp [opens]

theorem scalarCall_stopsAt (wordless : isWord c = false) (solid : isBlank c = false)
    (closed : c ≠ '(') : scalarCall.StopsAt c := by
  intro before s t
  have each (functions : List Text) (names : ∀ function ∈ functions, function.all isWord = true) :
      functions.findSome? (call? · (s ++ c :: t)) =
        (functions.findSome? (call? · s)).map (· ++ c :: t) := by
    induction functions with
    | nil => rfl
    | cons function functions ih =>
        rw [List.findSome?_cons, List.findSome?_cons,
          call?_append_stop (names function List.mem_cons_self) wordless solid closed]
        cases call? function s with
        | some after => rfl
        | none => exact ih fun other member => names other (List.mem_cons_of_mem function member)
  simp only [scalarCall]
  split
  · rw [each _ fun function member => (isName_of_mem_scalarFunctions member).2]
    cases scalarFunctions.findSome? (call? · s) <;> rfl
  · rfl

end Calls

section Passes

theorem erase_call (isFunction : IsFunctionName name) (blanks : gap.all isBlank = true)
    (rest : Text) : scalarCall.erase (name ++ (gap ++ '(' :: rest)) = scalarCall.erase rest :=
  Pattern.erase_of_read? (scalarCall_of_name isFunction blanks rfl rest)

theorem erase_scalarCall_cons (wordless : isWord c = false) (s : Text) :
    scalarCall.erase (c :: s) = c :: scalarCall.erase s :=
  Pattern.erase_cons (scalarCall_freshAfter wordless) (scalarCall_of_not_word wordless s)

theorem erase_scalarCall_blanks (blanks : gap.all isBlank = true) (s : Text) :
    scalarCall.erase (gap ++ s) = gap ++ scalarCall.erase s := by
  induction gap with
  | nil => rfl
  | cons c gap ih =>
      simp only [List.all_cons, Bool.and_eq_true] at blanks
      rw [List.cons_append, erase_scalarCall_cons (isWord_of_isBlank blanks.1), ih blanks.2,
        List.cons_append]

/-- Within a word nothing is read, and what is erased behind it does not depend on the word. -/
theorem chars_within_word {word : Text} (letters : word.all isWord = true)
    (ends : wordEnds t = true) (inside : isWord c = true) :
    (scalarCall.scan (some c) (word ++ t)).filterMap Piece.char? = word ++ scalarCall.erase t := by
  induction word generalizing c with
  | nil =>
      have same : scalarCall.read? (some c) t = scalarCall.read? none t := by
        cases t with
        | nil => rw [scalarCall.read?_nil, scalarCall.read?_nil]
        | cons d t =>
            have wordless : isWord d = false := by simpa [wordEnds] using ends
            rw [scalarCall_of_not_word wordless, scalarCall_of_not_word wordless]
      rw [List.nil_append, scalarCall.scan_of_read? same]
      rfl
  | cons d word ih =>
      simp only [List.all_cons, Bool.and_eq_true] at letters
      have absent : scalarCall.read? (some c) (d :: (word ++ t)) = none := by
        simp [scalarCall, wordMayBegin, inside]
      rw [List.cons_append, scalarCall.scan_cons_of_none absent, List.filterMap_cons,
        ih letters.2 letters.1]
      rfl

/-- A word stays if it is not the name in a call. -/
theorem erase_scalarCall_name (isName : IsName name) (ends : wordEnds t = true)
    (absent : ¬ IsFunctionName name ∨ ∀ c ∈ (Text.skipBlanks t).head?, c ≠ '(') :
    scalarCall.erase (name ++ t) = name ++ scalarCall.erase t := by
  have unread : scalarCall.read? none (name ++ t) = none := by
    by_contra found
    rcases Option.ne_none_iff_exists'.1 found with ⟨result, read⟩
    rcases scalarCall_name_eq_some isName ends read with ⟨isFunction, opened⟩
    rcases absent with other | closed
    · exact other isFunction
    · exact closed '(' (by rw [opened]; rfl) rfl
  rcases exists_cons_of_all isName.1 isName.2 with ⟨c, name, rfl, letter, letters⟩
  rw [List.cons_append] at unread ⊢
  rw [Pattern.erase, scalarCall.scan_cons_of_none unread, List.filterMap_cons,
    chars_within_word letters ends letter]
  rfl

theorem erase_scalarCall_of_no_open (closed : '(' ∉ s) : scalarCall.erase s = s := by
  apply Pattern.erase_of_absent
  intro before rest suffix
  by_contra found
  rcases Option.ne_none_iff_exists'.1 found with ⟨result, read⟩
  rcases scalarCall_eq_some read with ⟨name, gap, _, _, whole⟩
  exact closed (suffix.subset (by simp [whole]))

/-- Nothing that stands behind a closing character has a part in what is erased before it. -/
theorem erase_scalarCall_append_stop (wordless : isWord c = false) (solid : isBlank c = false)
    (other : c ≠ '(') (s t : Text) :
    scalarCall.erase (s ++ c :: t) = scalarCall.erase s ++ c :: scalarCall.erase t :=
  Pattern.erase_append_stop (scalarCall_stopsAt wordless solid other)
    (scalarCall_freshAfter wordless) s t

theorem erase_scalarCall_append (closed : '(' ∉ s) (wordless : isWord c = false)
    (solid : isBlank c = false) (other : c ≠ '(') (t : Text) :
    scalarCall.erase (s ++ c :: t) = s ++ c :: scalarCall.erase t := by
  rw [erase_scalarCall_append_stop wordless solid other, erase_scalarCall_of_no_open closed]

theorem eraseCalls_of_stable (stable : scalarCall.erase s = s) : eraseCalls s = s := by
  rw [eraseCalls, if_pos stable]

/-- What one pass keeps is kept by all of them. -/
theorem eraseCalls_induction {kept : Text → Prop}
    (pass : ∀ s, kept s → kept (scalarCall.erase s)) {s : Text} (start : kept s) :
    kept (eraseCalls s) := by
  fun_induction eraseCalls s with
  | case1 s stable => exact start
  | case2 s changed ih => exact ih (pass s start)

theorem eraseCalls_erase (s : Text) : eraseCalls (scalarCall.erase s) = eraseCalls s := by
  by_cases stable : scalarCall.erase s = s
  · rw [stable]
  · rw [eraseCalls.eq_def s, if_neg stable]

end Passes

section Casts

theorem typeCast_freshAfter (c : Char) : typeCast.FreshAfter c := fun _ => rfl

theorem typeCast_stopsAt (wordless : isWord c = false) (solid : isBlank c = false) :
    typeCast.StopsAt c := by
  intro before s t
  have letters : "AS".toList.all isWord = true := by decide
  simp only [typeCast, Option.bind_eq_bind, blanks?_append_stop solid]
  cases blanks? s with
  | none => rfl
  | some start =>
      simp only [Option.map_some, Option.bind_some, keyword?_append_stop letters wordless]
      cases keyword? "AS".toList start with
      | none => rfl
      | some named =>
          simp only [Option.map_some, Option.bind_some, blanks?_append_stop solid]
          cases blanks? named with
          | none => rfl
          | some start =>
              simp only [Option.map_some, Option.bind_some, word?_append_stop wordless]
              cases word? start <;> rfl

theorem typeCast_of_words {as gap' type : Text} (spacing : IsSpacing gap)
    (spells : Spells "AS".toList as) (spacing' : IsSpacing gap') (isName : IsName type)
    (ends : wordEnds t = true) :
    typeCast.read? before (gap ++ (as ++ (gap' ++ (type ++ t)))) = some ((), t) := by
  have isAs : IsName as := isName_of_spells isName_as spells
  have first := blanks?_append_name spacing isAs (gap' ++ (type ++ t))
  have second := blanks?_append_name spacing' isName t
  have named := keyword?_eq_some_iff.2 ⟨as, spells, (rfl : as ++ (gap' ++ (type ++ t)) = _)⟩
  have typed := word?_eq_some_iff.2 ⟨isName, ends, (rfl : type ++ t = _)⟩
  simp only [typeCast, first, named, second, typed, Option.bind_eq_bind, Option.bind_some,
    Option.pure_def]

theorem typeCast_of_not_blank (solid : isBlank c = false) (s : Text) :
    typeCast.read? before (c :: s) = none := by
  simp [typeCast, blanks?, solid]

theorem erase_typeCast_append_stop (wordless : isWord c = false) (solid : isBlank c = false)
    (s t : Text) : typeCast.erase (s ++ c :: t) = typeCast.erase s ++ c :: typeCast.erase t :=
  Pattern.erase_append_stop (typeCast_stopsAt wordless solid) (typeCast_freshAfter c) s t

theorem erase_typeCast_append (solid : s.all (!isBlank ·) = true) (t : Text) :
    typeCast.erase (s ++ t) = s ++ typeCast.erase t := by
  induction s with
  | nil => rfl
  | cons c s ih =>
      simp only [List.all_cons, Bool.and_eq_true, Bool.not_eq_true'] at solid
      rw [List.cons_append, Pattern.erase_cons (typeCast_freshAfter c)
        (typeCast_of_not_blank solid.1 (s ++ t)), ih (by simpa using solid.2), List.cons_append]

end Casts

section Columns

def withoutParentheses (s : Text) : Text := s.filter fun c => c != '(' && c != ')'

theorem withoutParentheses_append (s t : Text) :
    withoutParentheses (s ++ t) = withoutParentheses s ++ withoutParentheses t :=
  List.filter_append ..

theorem withoutParentheses_of_absent (opens : '(' ∉ s) (closes : ')' ∉ s) :
    withoutParentheses s = s := by
  refine List.filter_eq_self.2 fun c member => ?_
  rw [Bool.and_eq_true, bne_iff_ne, bne_iff_ne]
  exact ⟨fun same => opens (same ▸ member), fun same => closes (same ▸ member)⟩

theorem withoutParentheses_of_blanks (blanks : gap.all isBlank = true) :
    withoutParentheses gap = gap :=
  withoutParentheses_of_absent (not_mem_of_all blanks (by decide))
    (not_mem_of_all blanks (by decide))

theorem IsColumn.no_open (isColumn : IsColumn column) : '(' ∉ column :=
  isColumn.not_mem (by decide) (by decide)

theorem withoutParentheses_of_isColumn (isColumn : IsColumn column) :
    withoutParentheses column = column :=
  withoutParentheses_of_absent isColumn.no_open (isColumn.not_mem (by decide) (by decide))

/-- The column that begins what is left of an expression is the column, with what of the
text behind it goes on with it once the parentheses are gone. -/
theorem normalizeColumn_of_erased {expr : Text} (isColumn : IsColumn column)
    (blanks : gap.all isBlank = true)
    (erased : typeCast.erase (eraseCalls (Text.trim expr)) = gap ++ (column ++ t)) :
    normalizeColumn expr = column ++ continuation column (withoutParentheses t) := by
  have bare : (gap ++ (column ++ t)).filter (fun c => c != '(' && c != ')') =
      gap ++ (column ++ withoutParentheses t) := by
    rw [← withoutParentheses, withoutParentheses_append, withoutParentheses_append,
      withoutParentheses_of_blanks blanks, withoutParentheses_of_isColumn isColumn]
  simp only [normalizeColumn, erased, bare, columnRef?_blanks_append blanks,
    columnRef?_append isColumn, Option.getD_some]

/-- A column is its own column. -/
theorem normalizeColumn_column (isColumn : IsColumn column) : normalizeColumn column = column := by
  have trimmed : Text.trim column = column := strip_of_clear (clearEnds_of_all isColumn.solid)
  have uncalled := eraseCalls_of_stable (erase_scalarCall_of_no_open isColumn.no_open)
  have erased : typeCast.erase (eraseCalls (Text.trim column)) = [] ++ (column ++ []) := by
    rw [trimmed, uncalled, List.nil_append]
    simpa using erase_typeCast_append isColumn.solid []
  have whole := normalizeColumn_of_erased isColumn rfl erased
  rwa [withoutParentheses, List.filter_nil, continuation_nil, List.append_nil] at whole

end Columns

end QueryConditions
