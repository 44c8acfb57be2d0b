import QueryConditions.Condition.Basic
import QueryConditions.Proofs.Condition.Columns
import QueryConditions.Proofs.Condition.Operators
import QueryConditions.Proofs.Query.Fragments

/-!
What fragments state. A condition's column and table are names unless the fragment has no
name for them, and its value is an excerpt of the fragment without quotes at its ends: it
holds nothing that would have ended the clause or the fragment.
-/

namespace QueryConditions

/-- What is true of the conditions that fragments state. -/
structure Condition.WellFormed (condition : Condition) : Prop where
  column : IsName condition.column ∨ condition.column.all isFiller = true
  table : condition.table = [] ∨ IsName condition.table ∨ condition.table.all (!isWord ·) = true
  operator : condition.operator ≠ .notIn
  value_of_unary : condition.operator.isUnary = true → condition.value = []
  unquoted : ClearEnds isQuote condition.value
  no_connective : ∀ rest, rest <:+ condition.value → connective? rest = none
  no_end : ∀ rest, rest <:+ condition.value → endsClause rest = false

variable {condition : Condition} {aliases : Aliases} {fragment tail : Text} {found : OperatorMatch}

section Reference

theorem not_isName_of_filler {s : Text} (filler : s.all isFiller = true) : ¬ IsName s := by
  rintro ⟨some_char, letters⟩
  obtain ⟨c, s, rfl⟩ := List.exists_cons_of_ne_nil some_char
  simp only [List.all_cons, Bool.and_eq_true, isFiller, Bool.not_eq_true'] at filler letters
  rw [letters.1] at filler
  exact Bool.noConfusion filler.1.1.1

/-- An alias stands for a table of the map or for itself. -/
theorem resolve_cases (tables : ∀ name table, aliases.get? name = some table → IsName table)
    (name : Text) : IsName (aliases.resolve name) ∨ aliases.resolve name = name := by
  unfold Aliases.resolve
  cases bound : aliases.get? name with
  | none => exact .inr rfl
  | some table => exact .inl (tables name table bound)

/-- Column and table are names, if there is a table, or there is no name for the column. -/
theorem reference_of_fragment (tables : ∀ name table, aliases.get? name = some table → IsName table)
    (stated : Condition.ofFragment? aliases fragment = some condition) :
    IsName condition.column ∧ (condition.table = [] ∨ IsName condition.table) ∨
      condition.column.all isFiller = true ∧
        (condition.table = [] ∨ IsName condition.table ∨
          condition.table.all (!isWord ·) = true) := by
  obtain ⟨found, _, rfl⟩ := Option.map_eq_some_iff.1 stated
  simp only
  rcases normalizeColumn_forms found.left with isColumn | filler
  · left
    generalize normalizeColumn found.left = normal at isColumn
    cases isColumn with
    | bare isName =>
        rw [splitQualified_name isName]
        exact ⟨isName, .inl rfl⟩
    | @dotted table name isTable isName =>
        rw [splitQualified_dotted isTable name]
        refine ⟨isName, .inr ?_⟩
        rcases resolve_cases tables table with other | same
        · exact other
        · rwa [Option.elim_some, same]
  · right
    obtain ⟨column, qualifiers⟩ := splitQualified_all filler
    refine ⟨column, ?_⟩
    cases qualified : (splitQualified (normalizeColumn found.left)).1 with
    | none => exact .inl rfl
    | some qualifier =>
        right
        rcases resolve_cases tables qualifier with table | same
        · exact .inl table
        · right
          have wordless := qualifiers qualifier qualified
          simp only [isFiller, List.all_eq_true, Bool.and_eq_true] at wordless
          rw [Option.elim_some, same, List.all_eq_true]
          exact fun c member => (wordless c member).1.1

end Reference

section Value

theorem excerpt_value (ends : EndsFragment tail found) :
    IsExcerpt (found.right.elim [] stripQuotes) (Text.trimEnd tail) := by
  rcases ends with ⟨none, _⟩ | ⟨after, suffix, right, _⟩
  · rw [none]
    exact .of_suffix List.nil_suffix
  · rw [right]
    exact (excerpt_stripQuotes _).trans (.of_suffix (trim_suffix_trimEnd suffix))

theorem clearEnds_value (ends : EndsFragment tail found) :
    ClearEnds isQuote (found.right.elim [] stripQuotes) := by
  rcases ends with ⟨none, _⟩ | ⟨after, _, right, _⟩
  · simp [none, ClearEnds]
  · rw [right, Option.elim_some, stripQuotes_eq_strip]
    exact clear_strip isQuote _

theorem value_of_unary (ends : EndsFragment tail found)
    (unary : found.operator.isUnary = true) : found.right.elim [] stripQuotes = [] := by
  rcases ends with ⟨none, _⟩ | ⟨_, _, _, binary⟩
  · rw [none]
    rfl
  · rw [unary] at binary
    contradiction

/-- A fragment that states something is not empty. -/
theorem match_of_fragment (stated : Condition.ofFragment? aliases fragment = some condition) :
    ∃ c tail found, fragment = c :: tail ∧ matchOperator? fragment = some found ∧
      EndsFragment tail found ∧ condition.operator = found.operator ∧
      condition.value = found.right.elim [] stripQuotes := by
  obtain ⟨found, matched, rfl⟩ := Option.map_eq_some_iff.1 stated
  cases fragment with
  | nil =>
      have unmatched : matchOperator? [] = none := by decide +kernel
      rw [unmatched] at matched
      contradiction
  | cons c tail =>
      exact ⟨c, tail, found, rfl, matched, endsFragment_of_matchOperator? matched, rfl, rfl⟩

theorem excerpt_of_fragment (stated : Condition.ofFragment? aliases fragment = some condition) :
    IsExcerpt condition.value fragment := by
  obtain ⟨c, tail, found, rfl, _, ends, _, value⟩ := match_of_fragment stated
  rw [value]
  exact (excerpt_value ends).trans
    ((excerpt_trimEnd tail).trans (.of_suffix (List.suffix_cons c tail)))

/-- No operator that comes before the one of a fragment stands in its value. -/
theorem no_earlier_of_fragment
    (stated : Condition.ofFragment? aliases fragment = some condition) :
    ∀ other ∈ condition.operator.earlier, (operatorMarker other).Absent condition.value [] := by
  intro other earlier
  obtain ⟨c, tail, found, rfl, matched, ends, operator, value⟩ := match_of_fragment stated
  have unmatched := spacedMatch?_earlier matched other (operator ▸ earlier)
  rw [value]
  exact (absent_of_spacedMatch? unmatched).excerpt (excerpt_value ends)

end Value

theorem wellFormed_of_fragment
    (tables : ∀ name table, aliases.get? name = some table → IsName table)
    (fragmentary : Fragmentary fragment)
    (stated : Condition.ofFragment? aliases fragment = some condition) : condition.WellFormed := by
  obtain ⟨c, tail, found, rfl, matched, ends, operator, value⟩ := match_of_fragment stated
  have excerpt := excerpt_of_fragment stated
  have reference := reference_of_fragment tables stated
  exact {
    column := reference.imp And.left And.left
    table := by
      rcases reference with ⟨_, none | name⟩ | ⟨_, table⟩
      · exact .inl none
      · exact .inr (.inl name)
      · exact table
    operator := operator ▸ notIn_never_found matched
    value_of_unary := fun unary => value ▸ value_of_unary ends (operator ▸ unary)
    unquoted := value ▸ clearEnds_value ends
    no_connective := by
      intro rest suffix
      have absent := Marker.absent_iff.1 (fragmentary.no_connective.excerpt excerpt) rest suffix
      rw [← isSome_connective?] at absent
      simpa using absent
    no_end := by
      intro rest suffix
      rw [endsClause_eq]
      exact Marker.absent_iff.1 (fragmentary.no_end.excerpt excerpt) rest suffix }

end QueryConditions
