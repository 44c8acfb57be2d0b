import QueryConditions.Proofs.Condition.Quoted
import QueryConditions.Proofs.Extraction.Records
import QueryConditions.Proofs.Query.OuterText

/-!
Extraction from its own result. The conditions of a query are written down as one clause
without subqueries; they are the conditions of that clause again, whatever they were
taken from.
-/

namespace QueryConditions

variable {sql : Text}

def restated (conditions : List Condition) : Text :=
  "WHERE ".toList ++ " AND ".toList.intercalate (conditions.map Condition.quoted)

theorem restatable_of_mem_extract {condition : Condition} (member : condition ∈ extract sql)
    (column : IsName condition.column) : condition.Restatable := by
  obtain ⟨scope, inside, fragment, found, stated⟩ := stated_of_mem_extract member
  exact restatable_of_fragment (isName_of_scope inside) (fragmentary_of_mem found) stated column

section Flat

theorem extract_of_flat (flat : subquerySpans sql = [])
    (unaliased : (Aliases.ofSql sql).isEmpty = true) :
    extract sql = (whereFragments sql).filterMap (Condition.ofFragment? .empty) := by
  have none : Aliases.empty.extend (Aliases.ofSql sql) = .empty := by
    rw [Aliases.extend, List.isEmpty_iff.1 unaliased]
    rfl
  rw [extract, extractScope_eq, none, interiors_of_flat flat, Scope.conditions,
    outerText_of_flat flat]
  rfl

end Flat

section Restated

theorem placeholder_not_quoted (conditions : List Condition) :
    placeholder ∉ conditions.map Condition.quoted := by
  intro member
  obtain ⟨condition, _, same⟩ := List.mem_map.1 member
  have blank : ' ' ∈ condition.quoted := by simp [Condition.quoted, Condition.predicate]
  have solid : ' ' ∉ placeholder := by decide
  exact solid (same ▸ blank)

theorem extract_restated_of_restatable {conditions : List Condition}
    (restatable : ∀ condition ∈ conditions, condition.Restatable)
    (unlike : ∀ condition ∈ conditions, ∀ word ∈ ["HAVING".toList, "LIMIT".toList],
      beginsWithWord word condition.qualifiedColumn = false)
    (flat : subquerySpans (restated conditions) = [])
    (unaliased : (Aliases.ofSql (restated conditions)).isEmpty = true) :
    extract (restated conditions) = conditions := by
  rw [extract_of_flat flat unaliased]
  -- Without conditions nothing stands after WHERE, and the clause has no fragment.
  by_cases empty : conditions = []
  · rw [empty]
    decide +kernel
  · have standalone : ∀ part ∈ conditions.map Condition.quoted, Standalone part := by
      intro part member
      obtain ⟨condition, inside, rfl⟩ := List.mem_map.1 member
      exact Condition.standalone_quoted (restatable condition inside) (unlike condition inside)
    have fragments : whereFragments (restated conditions) = conditions.map Condition.quoted :=
      whereFragments_intercalate (by simpa using empty) standalone
        (placeholder_not_quoted conditions)
    have read : ∀ condition ∈ conditions,
        (Condition.ofFragment? .empty ∘ Condition.quoted) condition = some condition := by
      intro condition inside
      have isRestatable := restatable condition inside
      exact Condition.ofFragment?_quoted_self isRestatable.toLegible isRestatable.no_earlier
    rw [fragments, List.filterMap_map, List.filterMap_congr read, List.filterMap_some]

/-- The conditions of a query are the conditions of the clause that restates them. -/
theorem extract_restated (sql : Text)
    (columns : ∀ condition ∈ extract sql,
      condition.column ≠ [] ∧ condition.column.all isWord = true)
    (unlike : ∀ condition ∈ extract sql, ∀ word ∈ ["HAVING".toList, "LIMIT".toList],
      beginsWithWord word condition.qualifiedColumn = false)
    (flat : subquerySpans (restated (extract sql)) = [])
    (unaliased : (Aliases.ofSql (restated (extract sql))).isEmpty = true) :
    extract (restated (extract sql)) = extract sql :=
  extract_restated_of_restatable
    (fun condition member => restatable_of_mem_extract member (columns condition member))
    unlike flat unaliased

theorem extract_restated_nested :
    extract (restated (extract ("FROM t x WHERE UPPER(x.s) = \"A OR\" AND " ++
        "x.i IN (SELECT j FROM u WHERE k>=1) OR p IS  NULL").toList)) =
      extract ("FROM t x WHERE UPPER(x.s) = \"A OR\" AND " ++
        "x.i IN (SELECT j FROM u WHERE k>=1) OR p IS  NULL").toList :=
  extract_restated _ (by decide +kernel) (by decide +kernel) (by decide +kernel)
    (by decide +kernel)

end Restated

end QueryConditions
