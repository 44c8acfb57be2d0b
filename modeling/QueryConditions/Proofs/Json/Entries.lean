import QueryConditions.Json.Basic
import Mathlib.Data.List.Nodup

/-!
The entries of an object, seen through their keys and what they give each key. Where no key
is there twice, the two together are all there is to know of them.
-/

namespace QueryConditions.Json

section Lookup

variable {α : Type} {key : Text} {value : α} {entries first second : List (Text × α)}

theorem lookup?_nil (key : Text) : lookup? key ([] : List (Text × α)) = none := rfl

theorem lookup?_cons (key other : Text) (value : α) (rest : List (Text × α)) :
    lookup? key ((other, value) :: rest) =
      if other = key then some value else lookup? key rest := by
  by_cases same : other = key <;> simp [lookup?, same]

theorem lookup?_eq_none_iff : lookup? key entries = none ↔ key ∉ entries.map Prod.fst := by
  induction entries with
  | nil => simp [lookup?_nil]
  | cons entry rest ih =>
      obtain ⟨other, value⟩ := entry
      rw [lookup?_cons, List.map_cons, List.mem_cons]
      by_cases same : other = key
      · simp [same]
      · simp [same, ih, Ne.symm same]

theorem mem_of_lookup? (found : lookup? key entries = some value) : (key, value) ∈ entries := by
  obtain ⟨⟨other, value⟩, here, rfl⟩ := Option.map_eq_some_iff.1 found
  have named : other = key := by simpa using List.find?_some here
  exact named ▸ List.mem_of_find?_eq_some here

theorem lookup?_of_mem (distinct : (entries.map Prod.fst).Nodup) (member : (key, value) ∈ entries) :
    lookup? key entries = some value := by
  induction entries with
  | nil => simp at member
  | cons entry rest ih =>
      obtain ⟨other, first⟩ := entry
      obtain ⟨fresh, distinct⟩ := List.nodup_cons.1 distinct
      rw [lookup?_cons]
      rcases List.mem_cons.1 member with same | later
      · cases same
        exact if_pos rfl
      · have apart : other ≠ key := fun same =>
          fresh (List.mem_map.2 ⟨(key, value), later, same.symm⟩)
        rw [if_neg apart]
        exact ih distinct later

/-- Entries without a repeated key are settled by their keys and by what they give each. -/
theorem eq_of_lookup? (distinct : (first.map Prod.fst).Nodup)
    (keys : first.map Prod.fst = second.map Prod.fst)
    (values : ∀ key, lookup? key first = lookup? key second) : first = second := by
  induction first generalizing second with
  | nil => exact (List.map_eq_nil_iff.1 keys.symm).symm
  | cons entry rest ih =>
      cases second with
      | nil => simp at keys
      | cons entry' rest' =>
          obtain ⟨key, value⟩ := entry
          obtain ⟨key', value'⟩ := entry'
          simp only [List.map_cons, List.cons.injEq] at keys
          obtain ⟨rfl, keys⟩ := keys
          obtain ⟨fresh, distinct⟩ := List.nodup_cons.1 distinct
          have here : value = value' := by
            have found := values key
            rwa [lookup?_cons, lookup?_cons, if_pos rfl, if_pos rfl, Option.some.injEq] at found
          -- The first key comes no second time, so the rest gives it nothing.
          have later : ∀ other, lookup? other rest = lookup? other rest' := by
            intro other
            by_cases same : key = other
            · subst same
              rw [lookup?_eq_none_iff.2 fresh, lookup?_eq_none_iff.2 (keys ▸ fresh)]
            · simpa only [lookup?_cons, if_neg same] using values other
          rw [here, ih distinct keys later]

theorem upsert_of_fresh {change : Option α → α} (fresh : key ∉ entries.map Prod.fst) :
    upsert key change entries = entries ++ [(key, change none)] := by
  induction entries with
  | nil => rfl
  | cons entry rest ih =>
      obtain ⟨other, value⟩ := entry
      rw [List.map_cons, List.mem_cons, not_or] at fresh
      rw [upsert, if_neg (Ne.symm fresh.1), ih fresh.2, List.cons_append]

/-- A change that leaves the value of the key as it is leaves everything as it is. -/
theorem upsert_of_same {change : Option α → α} (found : lookup? key entries = some value)
    (same : change (some value) = value) : upsert key change entries = entries := by
  induction entries with
  | nil => simp [lookup?_nil] at found
  | cons entry rest ih =>
      obtain ⟨other, first⟩ := entry
      rw [lookup?_cons] at found
      rw [upsert]
      split at found
      · next here =>
        cases found
        rw [if_pos here, same]
      · next apart => rw [if_neg apart, ih found]

theorem mem_upsert {change : Option α → α} {entry : Text × α}
    (member : entry ∈ upsert key change entries) :
    entry ∈ entries ∨ entry = (key, change (lookup? key entries)) := by
  induction entries with
  | nil => exact .inr (List.mem_singleton.1 member)
  | cons first rest ih =>
      obtain ⟨other, value⟩ := first
      rw [lookup?_cons]
      rw [upsert] at member
      split at member
      · next same =>
        rcases List.mem_cons.1 member with rfl | later
        · exact .inr (by rw [if_pos same, same])
        · exact .inl (List.mem_cons_of_mem _ later)
      · next apart =>
        rcases List.mem_cons.1 member with rfl | later
        · exact .inl List.mem_cons_self
        · rw [if_neg apart]
          exact (ih later).imp_left (List.mem_cons_of_mem _)

theorem nodup_keys_upsert {change : Option α → α} (distinct : (entries.map Prod.fst).Nodup) :
    ((upsert key change entries).map Prod.fst).Nodup := by
  rw [keys_upsert]
  split
  · exact distinct
  · next fresh =>
      refine List.nodup_append.2 ⟨distinct, List.nodup_singleton key, ?_⟩
      intro other there last here same
      exact fresh (List.mem_singleton.1 here ▸ same ▸ there)

/-- Entries whose keys are all different are settled already. -/
theorem settle_of_nodup (distinct : (entries.map Prod.fst).Nodup) : settle entries = entries := by
  have grow : ∀ settled : List (Text × α), ((settled ++ entries).map Prod.fst).Nodup →
      entries.foldl (fun settled entry => upsert entry.1 (fun _ => entry.2) settled) settled =
        settled ++ entries := by
    clear distinct
    induction entries with
    | nil => simp
    | cons entry rest ih =>
        intro settled distinct
        obtain ⟨key, value⟩ := entry
        have fresh : key ∉ settled.map Prod.fst := by
          intro there
          rw [List.map_append, List.nodup_append] at distinct
          exact distinct.2.2 key there key (by simp) rfl
        rw [List.foldl_cons, upsert_of_fresh fresh, ih]
        · simp
        · simpa using distinct
  simpa [settle] using grow [] (by simpa using distinct)

end Lookup

/-- No object in it has a key twice. -/
inductive Distinct : Json → Prop where
  | null : Distinct .null
  | bool (value : Bool) : Distinct (.bool value)
  | number (value : Number) : Distinct (.number value)
  | string (value : Text) : Distinct (.string value)
  | array {items : List Json} (inner : ∀ item ∈ items, Distinct item) : Distinct (.array items)
  | object {entries : List (Text × Json)} (keys : (entries.map Prod.fst).Nodup)
      (inner : ∀ entry ∈ entries, Distinct entry.2) : Distinct (.object entries)

attribute [simp] Distinct.null Distinct.bool Distinct.number Distinct.string

@[simp] theorem distinct_array_iff {items : List Json} :
    Distinct (.array items) ↔ ∀ item ∈ items, Distinct item := by
  constructor
  · rintro ⟨⟩
    assumption
  · exact .array

@[simp] theorem distinct_object_iff {entries : List (Text × Json)} :
    Distinct (.object entries) ↔
      (entries.map Prod.fst).Nodup ∧ ∀ entry ∈ entries, Distinct entry.2 := by
  constructor
  · rintro ⟨⟩
    exact ⟨by assumption, by assumption⟩
  · exact fun ⟨keys, inner⟩ => .object keys inner

theorem Distinct.keys {entries : List (Text × Json)} (distinct : Distinct (.object entries)) :
    (entries.map Prod.fst).Nodup :=
  (distinct_object_iff.1 distinct).1

theorem Distinct.of_lookup? {entries : List (Text × Json)} {key : Text} {value : Json}
    (distinct : Distinct (.object entries)) (found : lookup? key entries = some value) :
    Distinct value :=
  (distinct_object_iff.1 distinct).2 (key, value) (mem_of_lookup? found)

/-- What has no entries can be read as an empty object. -/
theorem Distinct.entries {document : Json} (distinct : Distinct document) :
    Distinct (.object document.entries) := by
  cases document with
  | object => exact distinct
  | null | bool | number | string | array => simp [Json.entries]

theorem distinct_upsert {key : Text} {entries : List (Text × Json)} {change : Option Json → Json}
    (distinct : Distinct (.object entries)) (changed : Distinct (change (lookup? key entries))) :
    Distinct (.object (upsert key change entries)) := by
  obtain ⟨keys, inner⟩ := distinct_object_iff.1 distinct
  refine .object (nodup_keys_upsert keys) fun entry member => ?_
  rcases mem_upsert member with old | rfl
  · exact inner entry old
  · exact changed

end QueryConditions.Json
