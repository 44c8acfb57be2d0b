import QueryConditions.Extraction

/-!
What is true of every scope of a text. A scope is the text itself or a scope of one of
its subqueries, and a subquery stands in the text between parentheses.
-/

namespace QueryConditions

theorem mem_interiors_split {sql interior : Text} (member : interior ∈ interiors sql) :
    ∃ left right, sql = left ++ '(' :: (interior ++ ')' :: right) := by
  obtain ⟨segment, inside, value⟩ := List.mem_filterMap.1 member
  obtain ⟨left, right, split⟩ := List.append_of_mem inside
  cases segment with
  | plain c => simp [Piece.value?] at value
  | found value' =>
      cases value
      have whole := segments_source none sql
      rw [show subqueries.scan none sql = segments sql from rfl, split] at whole
      exact ⟨left.flatMap Segment.source, right.flatMap Segment.source,
        by simp [← whole, Segment.source]⟩

variable {scope : Scope}

def nestedConditions (inherited : Aliases) (sql : Text) : List Condition :=
  (interiors sql).flatMap (extractScope (inherited.extend (Aliases.ofSql sql)))

def ownConditions (inherited : Aliases) (sql : Text) : List Condition :=
  Scope.conditions ⟨sql, inherited.extend (Aliases.ofSql sql)⟩

theorem extractScope_eq_nested_own (inherited : Aliases) (sql : Text) :
    extractScope inherited sql = nestedConditions inherited sql ++ ownConditions inherited sql :=
  extractScope_eq inherited sql

theorem mem_scopes_iff {inherited : Aliases} {sql : Text} : scope ∈ scopes inherited sql ↔
    (∃ interior ∈ interiors sql,
      scope ∈ scopes (inherited.extend (Aliases.ofSql sql)) interior) ∨
    scope = ⟨sql, inherited.extend (Aliases.ofSql sql)⟩ := by
  rw [scopes_eq]
  simp

/-- A property of texts with their aliases holds of every scope if it passes from a text
to its subqueries. -/
theorem scopes_invariant (holds : Aliases → Text → Prop) {inherited : Aliases} {sql : Text}
    (step : ∀ aliases sql interior, holds aliases sql → interior ∈ interiors sql →
      holds (aliases.extend (Aliases.ofSql interior)) interior)
    (start : holds (inherited.extend (Aliases.ofSql sql)) sql)
    (member : scope ∈ scopes inherited sql) : holds scope.aliases scope.text := by
  rcases mem_scopes_iff.1 member with ⟨interior, inside, deeper⟩ | rfl
  · have next := step _ _ interior start inside
    exact scopes_invariant holds step next deeper
  · exact start
termination_by sql.length
decreasing_by exact length_lt_of_mem_interiors inside

end QueryConditions
