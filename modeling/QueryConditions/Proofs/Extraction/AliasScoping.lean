import QueryConditions.Proofs.Extraction.Scopes
import QueryConditions.Proofs.Query.Aliases
import QueryConditions.Proofs.Query.Bindings

/-!
Aliases of nested scopes. A binding is made of words and blanks, so none reaches across
a parenthesis: the bindings of a subquery are bindings of the text around it. A nested
scope can give an alias another table, but it has the aliases of the outermost scope,
no more and no fewer.
-/

namespace QueryConditions

section Bindings

theorem findAll_bindings_interior {keyword : Text} (letters : keyword.all isWord = true)
    (left interior right : Text) :
    (bindings keyword).findAll interior ⊆
      (bindings keyword).findAll (left ++ '(' :: (interior ++ ')' :: right)) := by
  have opening : (bindings keyword).StopsAt '(' := bindings_stopsAt letters (by decide) (by decide)
  have closing : (bindings keyword).StopsAt ')' := bindings_stopsAt letters (by decide) (by decide)
  intro binding member
  rw [Pattern.findAll, Pattern.scan_append_stop opening, scan_bindings_before (by decide),
    Pattern.scan_append_stop closing]
  simp only [List.filterMap_append, List.filterMap_cons, Piece.value?, List.mem_append]
  exact Or.inr (Or.inl member)

def allBindings (sql : Text) : List Binding := fromBindings sql ++ joinBindings sql

theorem allBindings_interior {sql interior : Text} (member : interior ∈ interiors sql) :
    allBindings interior ⊆ allBindings sql := by
  obtain ⟨left, right, rfl⟩ := mem_interiors_split member
  have within {keyword : Text} (letters : keyword.all isWord = true) (excluded : List Text) :
      bindingsAfter keyword excluded interior ⊆
        bindingsAfter keyword excluded (left ++ '(' :: (interior ++ ')' :: right)) :=
    List.filter_subset _ (findAll_bindings_interior letters left interior right)
  intro binding member
  rcases List.mem_append.1 member with fromHere | joinHere
  · exact List.mem_append_left _ (within (by decide) _ fromHere)
  · exact List.mem_append_right _ (within (by decide) _ joinHere)

end Bindings

section Scoping

variable {sql : Text} {inherited : Aliases} {scope : Scope}

theorem mem_allBindings_of_get? {name table : Text}
    (found : (Aliases.ofSql sql).get? name = some table) : ⟨name, table⟩ ∈ allBindings sql :=
  Aliases.mem_of_get?_insertAll found

theorem isSome_get?_ofSql {binding : Binding} (member : binding ∈ allBindings sql) :
    ((Aliases.ofSql sql).get? binding.name).isSome = true :=
  Aliases.isSome_get?_insertAll .empty _ member

theorem scope_same_aliases (member : scope ∈ scopes inherited sql) (name : Text) :
    (scope.aliases.get? name).isSome =
      ((inherited.extend (Aliases.ofSql sql)).get? name).isSome := by
  let top := inherited.extend (Aliases.ofSql sql)
  refine (scopes_invariant (fun aliases text => allBindings text ⊆ allBindings sql ∧
    ∀ name, (aliases.get? name).isSome = (top.get? name).isSome) ?_ ?_ member).2 name
  · rintro aliases text interior ⟨within, same⟩ inside
    have within' := List.Subset.trans (allBindings_interior inside) within
    refine ⟨within', fun name => ?_⟩
    rw [Aliases.get?_extend]
    -- An alias of the interior is bound in the text around it, if to another table.
    cases found : (Aliases.ofSql interior).get? name with
    | none => simpa using same name
    | some table =>
        have bound := isSome_get?_ofSql (within' (mem_allBindings_of_get? found))
        simp only [Option.some_or, Option.isSome_some, top, Aliases.get?_extend,
          Option.isSome_or, bound, Bool.true_or]
  · exact ⟨List.Subset.refl _, fun _ => rfl⟩

def Unambiguous (bindings : List Binding) : Prop :=
  ∀ first ∈ bindings, ∀ second ∈ bindings, first.name = second.name → first.table = second.table

instance (bindings : List Binding) : Decidable (Unambiguous bindings) :=
  inferInstanceAs (Decidable (∀ first ∈ bindings, ∀ second ∈ bindings,
    first.name = second.name → first.table = second.table))

theorem scope_aliases_eq (unambiguous : Unambiguous (allBindings sql))
    (member : scope ∈ scopes inherited sql) :
    scope.aliases = inherited.extend (Aliases.ofSql sql) := by
  refine (scopes_invariant (fun aliases text => allBindings text ⊆ allBindings sql ∧
    aliases = inherited.extend (Aliases.ofSql sql)) ?_ ?_ member).2
  · rintro aliases text interior ⟨within, rfl⟩ inside
    have within' := List.Subset.trans (allBindings_interior inside) within
    refine ⟨within', Aliases.eq_of_get? fun name => ?_⟩
    rw [Aliases.get?_extend]
    cases found : (Aliases.ofSql interior).get? name with
    | none => rfl
    | some table =>
        have here := within' (mem_allBindings_of_get? found)
        obtain ⟨table', outer⟩ := Option.isSome_iff_exists.1 (isSome_get?_ofSql here)
        have equal : table = table' := unambiguous _ here _ (mem_allBindings_of_get? outer) rfl
        rw [Aliases.get?_extend, outer, equal]
        rfl
  · exact ⟨List.Subset.refl _, rfl⟩

/-- Every scope has the aliases of the outermost one, and the same tables for them if the
text binds no alias to two tables. -/
theorem nested_scopes_keep_aliases (inherited : Aliases) (sql : Text) :
    (∀ scope ∈ scopes inherited sql, ∀ name,
      (scope.aliases.get? name).isSome =
        ((inherited.extend (Aliases.ofSql sql)).get? name).isSome) ∧
    (Unambiguous (allBindings sql) → ∀ scope ∈ scopes inherited sql,
      scope.aliases = inherited.extend (Aliases.ofSql sql)) :=
  ⟨fun _ member name => scope_same_aliases member name,
    fun unambiguous _ member => scope_aliases_eq unambiguous member⟩

theorem nested_scopes_keep_aliases_of_join :
    ∃ scope ∈ scopes .empty "FROM a x JOIN b y WHERE x.i IN (SELECT j FROM b y)".toList,
      scope.text = "SELECT j FROM b y".toList ∧
      scope.aliases = Aliases.empty.extend
        (Aliases.ofSql "FROM a x JOIN b y WHERE x.i IN (SELECT j FROM b y)".toList) := by
  refine ⟨⟨"SELECT j FROM b y".toList, Aliases.empty.extend
    (Aliases.ofSql "FROM a x JOIN b y WHERE x.i IN (SELECT j FROM b y)".toList)⟩, ?_, rfl, ?_⟩
  · decide +kernel
  · exact (nested_scopes_keep_aliases _ _).2 (by decide +kernel) _ (by decide +kernel)

end Scoping

end QueryConditions
