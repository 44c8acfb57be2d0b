import QueryConditions.Proofs.Condition.Stated
import QueryConditions.Proofs.Extraction.Nesting
import QueryConditions.Proofs.Extraction.Scopes
import QueryConditions.Proofs.Query.OuterText

/-!
Text of subqueries in the values of conditions. The text of a nested scope is balanced, so
each subquery that opens in it is closed and taken out. Only an opening that is never closed
stays in the outer text, and then only in that of the outermost scope.
-/

namespace QueryConditions

def openings (s : Text) : List Nat :=
  (List.range s.byteLength).filter (OpensAt s ·)

variable {s t : Text} {scope : Scope} {condition : Condition}

theorem suffix_of_dropBytes? {start : Nat} (found : s.dropBytes? start = some t) : t <:+ s := by
  rcases dropBytes?_eq_some_iff.1 found with ⟨before, rfl, _⟩
  exact List.suffix_append before t

/-- An opening stands at the byte offset where the text before it ends. -/
theorem mem_openings_of_suffix (before : Text) (opens : opensSubquery t = true) :
    before.byteLength ∈ openings (before ++ t) ∧
      (before ++ t).dropBytes? before.byteLength = some t := by
  have here := dropBytes?_byteLength before t
  refine ⟨List.mem_filter.2 ⟨List.mem_range.2 ?_, ?_⟩, here⟩
  · cases t with
    | nil => contradiction
    | cons c t =>
        have positive := Char.utf8Size_pos c
        rw [Text.byteLength_append, Text.byteLength_cons]
        omega
  · exact decide_eq_true ((opensAt_iff here).2 opens)

theorem openings_eq_nil (unopened : Unopened s) : openings s = [] := by
  apply List.filter_eq_nil_iff.2
  intro start _ opens
  obtain ⟨rest, found, opens⟩ := of_decide_eq_true opens
  rw [← opensSubquery_iff, unopened rest (suffix_of_dropBytes? found)] at opens
  contradiction

theorem allClosed_of_openings
    (closed : ∀ start ∈ openings s, (matchingParen? s start).isSome = true) : AllClosed s := by
  rintro rest ⟨before, rfl⟩ opens
  obtain ⟨member, here⟩ := mem_openings_of_suffix before opens
  have found := closed _ member
  simp only [matchingParen?, here, Option.bind_eq_bind, Option.bind_some] at found
  cases group : group? rest with
  | some parts => rfl
  | none =>
      rw [group] at found
      contradiction

theorem balanced_of_mem_interiors {interior : Text} (member : interior ∈ interiors s) :
    Balanced interior := by
  obtain ⟨_, _, _, read⟩ := Pattern.read?_of_mem_findAll subqueries member
  exact (subquery?_eq_some read).1

theorem balanced_of_mem_scopes {inherited : Aliases} (balanced : Balanced s)
    (member : scope ∈ scopes inherited s) : Balanced scope.text :=
  scopes_invariant (fun _ text => Balanced text)
    (fun _ _ _ _ inside => balanced_of_mem_interiors inside) balanced member

theorem unopened_value (allClosed : AllClosed scope.text) (member : condition ∈ scope.conditions) :
    Unopened condition.value := by
  obtain ⟨fragment, found, stated⟩ := List.mem_filterMap.1 member
  have excerpt := (excerpt_of_fragment stated).trans (excerpt_of_mem_whereFragments found)
  exact (unopened_outerText allClosed).excerpt excerpt

theorem unopened_value_nested {inherited : Aliases}
    (member : condition ∈ nestedConditions inherited s) : Unopened condition.value := by
  obtain ⟨interior, inside, own⟩ := List.mem_flatMap.1 member
  obtain ⟨scope, below, own⟩ := List.mem_flatMap.1 own
  have balanced := balanced_of_mem_scopes (balanced_of_mem_interiors inside) below
  exact unopened_value (allClosed_of_balanced balanced) own

/-- No subquery opens in a value that a nested scope states, nor in any value if all that open
in the query are closed. -/
theorem values_unopened (sql : Text) :
    extract sql = nestedConditions .empty sql ++ ownConditions .empty sql ∧
    (∀ condition ∈ nestedConditions .empty sql, openings condition.value = []) ∧
    ((∀ start ∈ openings sql, (matchingParen? sql start).isSome = true) →
      ∀ condition ∈ extract sql, openings condition.value = []) := by
  have split := extractScope_eq_nested_own .empty sql
  have nested : ∀ condition ∈ nestedConditions .empty sql, openings condition.value = [] :=
    fun _ member => openings_eq_nil (unopened_value_nested member)
  refine ⟨split, nested, ?_⟩
  intro closed condition member
  rw [extract, split] at member
  rcases List.mem_append.1 member with inside | own
  · exact nested condition inside
  · exact openings_eq_nil (unopened_value (allClosed_of_openings closed) own)

theorem values_unopened_literal :
    (∃ condition ∈ nestedConditions .empty
        "WHERE (SELECT a IN (SELECT b WHERE c = '( SELECTED )')".toList,
      condition = ⟨"c".toList, [], .eq, "( SELECTED )".toList⟩ ∧ openings condition.value = []) ∧
    (∀ start ∈ openings "WHERE a IN (SELECT b WHERE c = '( SELECTED )' AND (select d))".toList,
      (matchingParen? "WHERE a IN (SELECT b WHERE c = '( SELECTED )' AND (select d))".toList
        start).isSome = true) ∧
    ∃ condition ∈ extract "WHERE a IN (SELECT b WHERE c = '( SELECTED )' AND (select d))".toList,
      condition = ⟨"a".toList, [], .isIn, placeholder⟩ ∧ openings condition.value = [] := by
  have nested : (⟨"c".toList, [], .eq, "( SELECTED )".toList⟩ : Condition) ∈
      nestedConditions .empty "WHERE (SELECT a IN (SELECT b WHERE c = '( SELECTED )')".toList := by
    decide +kernel
  have closed : ∀ start ∈
      openings "WHERE a IN (SELECT b WHERE c = '( SELECTED )' AND (select d))".toList,
      (matchingParen? "WHERE a IN (SELECT b WHERE c = '( SELECTED )' AND (select d))".toList
        start).isSome = true := by
    decide +kernel
  have own : (⟨"a".toList, [], .isIn, placeholder⟩ : Condition) ∈
      extract "WHERE a IN (SELECT b WHERE c = '( SELECTED )' AND (select d))".toList := by
    decide +kernel
  exact ⟨⟨_, nested, rfl, (values_unopened _).2.1 _ nested⟩, closed,
    ⟨_, own, rfl, (values_unopened _).2.2 closed _ own⟩⟩

-- An opening that is never closed is left in a value of the outermost scope.
example : ∃ condition ∈ ownConditions .empty "WHERE a IN (SELECT b".toList,
    openings condition.value = [0] := by
  decide +kernel

end QueryConditions
