import QueryConditions.Proofs.Condition.Stated
import QueryConditions.Proofs.Extraction.Scopes
import QueryConditions.Proofs.Query.Aliases

/-!
The form of the conditions of a query. Whatever the query, each of its conditions is stated
by a fragment under aliases whose tables are words of the query, and so it is well formed.
-/

namespace QueryConditions

variable {sql : Text} {condition : Condition}

section Tables

theorem isName_of_bindingsAfter {keyword : Text} {excluded : List Text} {binding : Binding}
    (member : binding ∈ bindingsAfter keyword excluded sql) : IsName binding.table := by
  obtain ⟨before, start, rest, read⟩ := Pattern.read?_of_mem_findAll _ (List.mem_filter.1 member).1
  change binding? keyword before start = some (binding, rest) at read
  unfold binding? at read
  split at read
  · simp only [nextWord?, Option.bind_eq_bind, Option.bind_eq_some_iff, Option.pure_def,
      Option.some.injEq, Prod.mk.injEq] at read
    obtain ⟨_, _, ⟨table, _⟩, ⟨_, _, word⟩, ⟨name, _⟩, _, rfl, _⟩ := read
    exact isName_of_word? word
  · simp at read

/-- The tables in force in a scope are words of the query. -/
theorem isName_of_scope {scope : Scope} (member : scope ∈ scopes .empty sql) :
    ∀ name table, scope.aliases.get? name = some table → IsName table := by
  let named (aliases : Aliases) : Prop :=
    ∀ name table, aliases.get? name = some table → IsName table
  have here (text : Text) : named (Aliases.ofSql text) := by
    intro name table found
    rcases List.mem_append.1 (Aliases.mem_of_get?_insertAll found) with from_ | join
    · exact isName_of_bindingsAfter from_
    · exact isName_of_bindingsAfter join
  have both {aliases other : Aliases} (first : named aliases) (second : named other) :
      named (aliases.extend other) := by
    intro name table found
    rw [Aliases.get?_extend] at found
    rcases Option.or_eq_some_iff.1 found with inner | ⟨_, outer⟩
    · exact second name table inner
    · exact first name table outer
  have start : named Aliases.empty := by simp [named]
  refine scopes_invariant (fun aliases _ => named aliases) ?_ (both start (here sql)) member
  intro aliases _ interior outer _
  exact both outer (here interior)

end Tables

theorem stated_of_mem_extract (member : condition ∈ extract sql) :
    ∃ scope ∈ scopes .empty sql, ∃ fragment ∈ whereFragments (outerText scope.text),
      Condition.ofFragment? scope.aliases fragment = some condition := by
  obtain ⟨scope, inside, own⟩ := List.mem_flatMap.1 member
  exact ⟨scope, inside, List.mem_filterMap.1 own⟩

/-- Every condition of a query is well formed. Its operator is never NOT IN, because whatever
is read as NOT IN is read as an operator before it in the order of priority. -/
theorem extract_wellFormed (sql : Text) :
    (∀ condition ∈ extract sql, condition.WellFormed) ∧
    ∀ fragment, (spacedMatch? fragment .notIn).isSome = true →
      ∃ earlier ∈ Operator.notIn.earlier, (spacedMatch? fragment earlier).isSome = true := by
  constructor
  · intro condition member
    obtain ⟨scope, inside, fragment, found, stated⟩ := stated_of_mem_extract member
    exact wellFormed_of_fragment (isName_of_scope inside) (fragmentary_of_mem found) stated
  · intro fragment matched
    exact ⟨.isIn, by decide, spacedMatch?_isIn_of_notIn matched⟩

theorem extract_wellFormed_not_in :
    (∃ condition ∈ extract "FROM t x WHERE x.a NOT  IN (SELECT b FROM u WHERE c='AND d')".toList,
      condition = ⟨"a".toList, "t".toList, .isIn, "__SUBQUERY__".toList⟩ ∧
      condition.WellFormed) ∧
    (spacedMatch? "x.a NOT  IN __SUBQUERY__".toList .notIn).isSome = true ∧
    ∃ earlier ∈ Operator.notIn.earlier,
      (spacedMatch? "x.a NOT  IN __SUBQUERY__".toList earlier).isSome = true := by
  have member : (⟨"a".toList, "t".toList, .isIn, "__SUBQUERY__".toList⟩ : Condition) ∈
      extract "FROM t x WHERE x.a NOT  IN (SELECT b FROM u WHERE c='AND d')".toList := by
    decide +kernel
  have matched : (spacedMatch? "x.a NOT  IN __SUBQUERY__".toList .notIn).isSome = true := by
    decide +kernel
  exact ⟨⟨_, member, rfl, (extract_wellFormed _).1 _ member⟩, matched,
    (extract_wellFormed []).2 _ matched⟩

end QueryConditions
