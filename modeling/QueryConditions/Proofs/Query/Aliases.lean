import QueryConditions.Query.Alias
import Mathlib.Data.List.Sort

/-!
Maps from aliases to tables, seen through `get?`. Bindings that are inserted one after
another act like the last of each alias, and two maps that give every alias the same
table are the same map.
-/

namespace QueryConditions

theorem not_precedes_of_precedes {s t : Text} (before : precedes s t = true) :
    precedes t s = false := by
  cases after : precedes t s with
  | false => rfl
  | true =>
      have loop := precedes_trans before after
      rw [not_precedes_self] at loop
      contradiction

namespace Aliases

variable {aliases other : Aliases} {name table : Text} {binding : Binding}

theorem eq_of_mem_of_name {first second : Binding} (here : first ∈ aliases.bindings)
    (there : second ∈ aliases.bindings) (same : first.name = second.name) : first = second := by
  obtain ⟨bindings, increasing⟩ := aliases
  simp only at here there
  induction bindings with
  | nil => simp at here
  | cons old rest ih =>
      have above := (List.pairwise_cons.1 increasing).1
      rcases List.mem_cons.1 here with rfl | here' <;>
        rcases List.mem_cons.1 there with rfl | there'
      · rfl
      · have less := above second there'
        rw [same, not_precedes_self] at less
        contradiction
      · have less := above first here'
        rw [same, not_precedes_self] at less
        contradiction
      · exact ih (List.pairwise_cons.1 increasing).2 here' there'

theorem get?_eq_some_iff : aliases.get? name = some table ↔ ⟨name, table⟩ ∈ aliases.bindings := by
  constructor
  · intro found
    obtain ⟨binding, here, rfl⟩ := Option.map_eq_some_iff.1 found
    have named : binding.name = name := by simpa using List.find?_some here
    subst named
    exact List.mem_of_find?_eq_some here
  · intro member
    cases found : aliases.bindings.find? (·.name = name) with
    | none =>
        have absent := List.find?_eq_none.1 found ⟨name, table⟩ member
        simp at absent
    | some binding =>
        have named : binding.name = name := by simpa using List.find?_some found
        have same := eq_of_mem_of_name (List.mem_of_find?_eq_some found) member named
        rw [get?, found, same]
        rfl

theorem eq_of_get? (same : ∀ name, aliases.get? name = other.get? name) : aliases = other := by
  let before : Binding → Binding → Prop := fun first second =>
    precedes first.name second.name = true
  have irrefl : Std.Irrefl before := ⟨fun binding loop => by
    have absent := not_precedes_self binding.name
    rw [loop] at absent
    contradiction⟩
  have antisymm : Std.Antisymm before := ⟨fun first second less more => by
    have absent := not_precedes_of_precedes less
    rw [more] at absent
    contradiction⟩
  have members : ∀ binding, binding ∈ aliases.bindings ↔ binding ∈ other.bindings := by
    intro binding
    have here : aliases.get? binding.name = some binding.table ↔ binding ∈ aliases.bindings :=
      get?_eq_some_iff
    have there : other.get? binding.name = some binding.table ↔ binding ∈ other.bindings :=
      get?_eq_some_iff
    rw [← here, ← there, same]
  have bindings : aliases.bindings = other.bindings :=
    List.Pairwise.eq_of_mem_iff (r := before) aliases.increasing other.increasing members
  cases aliases
  cases other
  congr

/-- The last binding of an alias counts. -/
theorem get?_insertAll (aliases : Aliases) (bindings : List Binding) (name : Text) :
    (aliases.insertAll bindings).get? name =
      ((bindings.reverse.find? (·.name = name)).map Binding.table).or (aliases.get? name) := by
  induction bindings generalizing aliases with
  | nil => simp [insertAll]
  | cons binding rest ih =>
      have step : aliases.insertAll (binding :: rest) = (aliases.insert binding).insertAll rest := rfl
      rw [step, ih, get?_insert, List.reverse_cons, List.find?_append]
      cases later : rest.reverse.find? (·.name = name) with
      | some found => simp
      | none => by_cases same : binding.name = name <;> simp [same]

theorem find?_reverse_bindings (aliases : Aliases) (name : Text) :
    (aliases.bindings.reverse.find? (·.name = name)).map Binding.table = aliases.get? name := by
  cases found : aliases.get? name with
  | none =>
      have absent := Option.map_eq_none_iff.1 found
      simpa using absent
  | some table =>
      have member := get?_eq_some_iff.1 found
      cases later : aliases.bindings.reverse.find? (·.name = name) with
      | none =>
          have absent := List.find?_eq_none.1 later ⟨name, table⟩ (List.mem_reverse.2 member)
          simp at absent
      | some binding =>
          have named : binding.name = name := by simpa using List.find?_some later
          have inside := List.mem_reverse.1 (List.mem_of_find?_eq_some later)
          rw [eq_of_mem_of_name inside member named]
          rfl

theorem get?_extend (aliases other : Aliases) (name : Text) :
    (aliases.extend other).get? name = (other.get? name).or (aliases.get? name) := by
  rw [extend, get?_insertAll, find?_reverse_bindings]

/-- What the second map binds is of no account in the first. -/
theorem extend_eq_of_unbound {first second : Aliases}
    (same : ∀ name, other.get? name = none → first.get? name = second.get? name) :
    first.extend other = second.extend other := by
  apply eq_of_get?
  intro name
  rw [get?_extend, get?_extend]
  cases bound : other.get? name with
  | some table => rfl
  | none => rw [same name bound]

theorem empty_extend (aliases : Aliases) : empty.extend aliases = aliases := by
  apply eq_of_get?
  intro name
  simp [get?_extend]

theorem mem_of_get?_insertAll {bindings : List Binding}
    (found : (empty.insertAll bindings).get? name = some table) : ⟨name, table⟩ ∈ bindings := by
  rw [get?_insertAll, get?_empty, Option.or_none] at found
  obtain ⟨binding, here, rfl⟩ := Option.map_eq_some_iff.1 found
  have named : binding.name = name := by simpa using List.find?_some here
  subst named
  exact List.mem_reverse.1 (List.mem_of_find?_eq_some here)

def lastTable? (name : Text) (bindings : List Binding) : Option Text :=
  (bindings.reverse.find? (·.name = name)).map Binding.table

theorem lastTable?_append (name : Text) (first second : List Binding) :
    lastTable? name (first ++ second) = (lastTable? name second).or (lastTable? name first) := by
  simp only [lastTable?, List.reverse_append, List.find?_append]
  cases second.reverse.find? (·.name = name) <;> rfl

theorem lastTable?_cons_self (binding : Binding) (later : List Binding) :
    lastTable? binding.name (binding :: later) =
      some ((lastTable? binding.name later).getD binding.table) := by
  have alone : lastTable? binding.name [binding] = some binding.table := by simp [lastTable?]
  have whole := lastTable?_append binding.name [binding] later
  rw [alone] at whole
  rw [← List.singleton_append, whole]
  cases lastTable? binding.name later <;> rfl

theorem get?_ofSql (sql name : Text) :
    (ofSql sql).get? name = lastTable? name (fromBindings sql ++ joinBindings sql) := by
  rw [ofSql, get?_insertAll, get?_empty, Option.or_none, lastTable?]

theorem isSome_get?_insertAll (aliases : Aliases) (bindings : List Binding)
    (member : binding ∈ bindings) :
    ((aliases.insertAll bindings).get? binding.name).isSome = true := by
  rw [get?_insertAll]
  cases found : bindings.reverse.find? (·.name = binding.name) with
  | some other => simp
  | none =>
      have absent := List.find?_eq_none.1 found binding (List.mem_reverse.2 member)
      simp at absent

end Aliases

end QueryConditions
