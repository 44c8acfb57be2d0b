import QueryConditions.Proofs.Extraction.Scopes
import QueryConditions.Proofs.Query.Aliases
import Mathlib.Data.List.Forall2

/-!
What aliases have a part in. They give a condition its table and nothing else: which
conditions there are, their columns, operators and values are settled by the text alone.
-/

namespace QueryConditions

namespace Condition

def Agrees (first second : Condition) : Prop :=
  first.column = second.column ∧ first.operator = second.operator ∧ first.value = second.value

def untabled (condition : Condition) : Text × Operator × Text :=
  (condition.column, condition.operator, condition.value)

theorem agrees_iff {first second : Condition} :
    first.Agrees second ↔ first.untabled = second.untabled := by
  simp [Agrees, untabled]

theorem forall₂_agrees_iff {first second : List Condition} :
    List.Forall₂ Agrees first second ↔ first.map untabled = second.map untabled := by
  rw [← List.forall₂_eq_eq_eq, List.forall₂_map_left_iff, List.forall₂_map_right_iff]
  constructor
  · exact fun agree => agree.imp fun _ _ => agrees_iff.1
  · exact fun agree => agree.imp fun _ _ => agrees_iff.2

theorem untabled_ofFragment? (aliases other : Aliases) (fragment : Text) :
    (ofFragment? aliases fragment).map untabled = (ofFragment? other fragment).map untabled := by
  unfold ofFragment?
  rw [Option.map_map, Option.map_map]
  rfl

end Condition

variable {s t : Text} {first second : Aliases}

/-- The conditions of a scope depend on what is left of its text without the subqueries. -/
theorem untabled_conditions (same : outerText s = outerText t) (first second : Aliases) :
    (Scope.conditions ⟨s, first⟩).map Condition.untabled =
      (Scope.conditions ⟨t, second⟩).map Condition.untabled := by
  simp only [Scope.conditions, same, List.map_filterMap]
  congr 1
  funext fragment
  exact Condition.untabled_ofFragment? first second fragment

theorem untabled_extractScope (first second : Aliases) (sql : Text) :
    (extractScope first sql).map Condition.untabled =
      (extractScope second sql).map Condition.untabled := by
  rw [extractScope_eq, extractScope_eq, List.map_append, List.map_append, List.map_flatMap,
    List.map_flatMap, untabled_conditions rfl _ (second.extend (Aliases.ofSql sql))]
  congr 1
  apply List.flatMap_congr
  intro interior member
  exact untabled_extractScope _ _ interior
termination_by sql.length
decreasing_by exact length_lt_of_mem_interiors member

theorem extractScope_congr {sql : Text}
    (same : first.extend (Aliases.ofSql sql) = second.extend (Aliases.ofSql sql)) :
    extractScope first sql = extractScope second sql := by
  rw [extractScope_eq, extractScope_eq, same]

/-- Inherited aliases change no more than tables, and nothing if they differ only in aliases
that the text binds itself. -/
theorem inherited_aliases_give_tables (first second : Aliases) (sql : Text) :
    List.Forall₂ Condition.Agrees (extractScope first sql) (extractScope second sql) ∧
    ((∀ name, (Aliases.ofSql sql).get? name = none → first.get? name = second.get? name) →
      extractScope first sql = extractScope second sql) := by
  constructor
  · exact Condition.forall₂_agrees_iff.2 (untabled_extractScope first second sql)
  · intro same
    exact extractScope_congr (Aliases.extend_eq_of_unbound same)

theorem inherited_aliases_give_tables_rebound :
    (∀ name, (Aliases.ofSql "FROM a x WHERE x.i IN (SELECT j FROM b WHERE y.k < 1)".toList).get? name =
        none →
      (Aliases.empty.insertAll [⟨['x'], ['c']⟩, ⟨['y'], ['d']⟩]).get? name =
        (Aliases.empty.insertAll [⟨['x'], ['e']⟩, ⟨['y'], ['d']⟩]).get? name) ∧
    extractScope (Aliases.empty.insertAll [⟨['x'], ['c']⟩, ⟨['y'], ['d']⟩])
        "FROM a x WHERE x.i IN (SELECT j FROM b WHERE y.k < 1)".toList =
      extractScope (Aliases.empty.insertAll [⟨['x'], ['e']⟩, ⟨['y'], ['d']⟩])
        "FROM a x WHERE x.i IN (SELECT j FROM b WHERE y.k < 1)".toList := by
  have bound : (Aliases.ofSql
      "FROM a x WHERE x.i IN (SELECT j FROM b WHERE y.k < 1)".toList).get? ['x'] = some ['a'] := by
    decide +kernel
  have same : ∀ name,
      (Aliases.ofSql "FROM a x WHERE x.i IN (SELECT j FROM b WHERE y.k < 1)".toList).get? name =
        none →
      (Aliases.empty.insertAll [⟨['x'], ['c']⟩, ⟨['y'], ['d']⟩]).get? name =
        (Aliases.empty.insertAll [⟨['x'], ['e']⟩, ⟨['y'], ['d']⟩]).get? name := by
    intro name unbound
    have other : ['x'] ≠ name := by
      rintro rfl
      rw [bound] at unbound
      contradiction
    by_cases shared : ['y'] = name <;>
      simp [Aliases.get?_insertAll, other, shared]
  exact ⟨same, (inherited_aliases_give_tables _ _ _).2 same⟩

end QueryConditions
