import QueryConditions.Condition.Basic
import QueryConditions.Query.Clause

/-!
The conditions of a query, its subqueries included. Each subquery is a scope of its
own that knows the aliases of the scopes around it; the scopes are listed from the
inside out, so the conditions of a subquery come before those of the text around it.
-/

namespace QueryConditions

structure Scope where
  text : Text
  aliases : Aliases
  deriving DecidableEq

/-- The scopes of the subqueries, in the order of their closing, and the text itself last. -/
def scopes (inherited : Aliases) (sql : Text) : List Scope :=
  let aliases := inherited.extend (Aliases.ofSql sql)
  ((interiors sql).attach.flatMap fun ⟨interior, _⟩ => scopes aliases interior) ++
    [⟨sql, aliases⟩]
termination_by sql.length
decreasing_by exact length_lt_of_mem_interiors ‹_›

def Scope.conditions (scope : Scope) : List Condition :=
  (whereFragments (outerText scope.text)).filterMap (Condition.ofFragment? scope.aliases)

def extractScope (inherited : Aliases) (sql : Text) : List Condition :=
  (scopes inherited sql).flatMap Scope.conditions

def extract (sql : Text) : List Condition := extractScope .empty sql

/-- A subquery is a scope inside the aliases of the text around it. -/
theorem scopes_eq (inherited : Aliases) (sql : Text) :
    scopes inherited sql =
      (interiors sql).flatMap (scopes (inherited.extend (Aliases.ofSql sql))) ++
        [⟨sql, inherited.extend (Aliases.ofSql sql)⟩] := by
  rw [scopes]
  simp [List.flatMap_subtype, List.unattach_attach]

theorem extractScope_eq (inherited : Aliases) (sql : Text) :
    extractScope inherited sql =
      (interiors sql).flatMap (extractScope (inherited.extend (Aliases.ofSql sql))) ++
        Scope.conditions ⟨sql, inherited.extend (Aliases.ofSql sql)⟩ := by
  rw [extractScope, scopes_eq]
  simp [List.flatMap_append, List.flatMap_assoc]
  rfl

end QueryConditions
