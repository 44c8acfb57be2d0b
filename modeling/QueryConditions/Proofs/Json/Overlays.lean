import QueryConditions.Proofs.Json.Merging

/-!
What comes of laying a document over another, said key by key and for every level. These rules
settle the result, down to the order of its keys. An overlay that is laid over a document twice
changes it once, unless it has lists with items below its objects, for these are added each time.
-/

namespace QueryConditions.Json

variable {base overlay result value : Json} {found : Option Json} {key : Text} {path : List Text}
  {entries : List (Text × Json)}

mutual

/-- The result of laying a document over another. Only an object keeps anything of what it is
laid over, and what is no object is then read as an empty one. -/
inductive IsMerged : Json → Json → Json → Prop
  | other {base overlay : Json} : overlay.isObject = false → IsMerged base overlay overlay
  | object {base : Json} {overlay result : List (Text × Json)} :
      (result.map Prod.fst).Nodup →
      result.map Prod.fst = base.entries.map Prod.fst ++
        (overlay.map Prod.fst).filter (· ∉ base.entries.map Prod.fst) →
      (∀ key, IsEntry (lookup? key base.entries) (lookup? key overlay) (lookup? key result)) →
        IsMerged base (.object overlay) (.object result)

inductive IsEntry : Option Json → Option Json → Option Json → Prop
  | absent : IsEntry none none none
  | kept {x : Json} : IsEntry (some x) none (some x)
  | added {y : Json} : IsEntry none (some y) (some y)
  | objects {a b : List (Text × Json)} {z : Json} : IsMerged (.object a) (.object b) z →
      IsEntry (some (.object a)) (some (.object b)) (some z)
  | arrays {items more : List Json} :
      IsEntry (some (.array items)) (some (.array more)) (some (.array (items ++ more)))
  | replaced {x y : Json} : (x.isObject && y.isObject) = false →
      (x.isArray && y.isArray) = false → IsEntry (some x) (some y) (some y)

end

section Rules

theorem isEntry_kept_iff {existing : Option Json} :
    IsEntry existing none found ↔ found = existing := by
  constructor
  · intro entry
    cases entry <;> rfl
  · rintro rfl
    cases found with
    | none => exact .absent
    | some x => exact .kept

theorem isEntry_added_iff {y : Json} : IsEntry none (some y) found ↔ found = some y := by
  constructor
  · rintro ⟨⟩
    rfl
  · rintro rfl
    exact .added

/-- Two values of one key are laid over each other as documents are, if they are objects. -/
theorem isEntry_both_iff {x y : Json} (nested : ∀ a b, x = .object a → y = .object b →
      ∀ z, IsMerged x y z ↔ z = merge x y) :
    IsEntry (some x) (some y) found ↔ found = some (mergeValue y (some x)) := by
  constructor
  · intro entry
    cases entry with
    | @objects a b z merged =>
        rw [(nested a b rfl rfl z).1 merged, mergeValue_objects]
        rfl
    | arrays => rw [mergeValue_arrays]
    | replaced objects arrays => rw [mergeValue_apart objects arrays]
  · rintro rfl
    rcases both_or_apart x y with
      ⟨a, b, rfl, rfl⟩ | ⟨items, more, rfl, rfl⟩ | ⟨objects, arrays⟩
    · rw [mergeValue_objects]
      exact .objects ((nested a b rfl rfl _).2 rfl)
    · rw [mergeValue_arrays]
      exact .arrays
    · rw [mergeValue_apart objects arrays]
      exact .replaced objects arrays

theorem isMerged_iff (before : Distinct base) (laid : Distinct overlay) :
    IsMerged base overlay result ↔ result = merge base overlay := by
  induction laid generalizing base result with
  | null | bool | number | string | array =>
      constructor
      · rintro ⟨⟩
        rfl
      · rintro rfl
        exact .other rfl
  | @object overlay keys inner ih =>
      -- Key by key the rule and the merge say the same; the order of the keys is settled apart.
      have entry (key : Text) (found : Option Json) :
          IsEntry (lookup? key base.entries) (lookup? key overlay) found ↔
            found = lookup? key (mergeEntries base.entries overlay) := by
        rw [lookup?_mergeEntries _ keys]
        cases incoming : lookup? key overlay with
        | none => exact isEntry_kept_iff
        | some y =>
            cases existing : lookup? key base.entries with
            | none =>
                simp only [mergeValue_none]
                exact isEntry_added_iff
            | some x =>
                refine isEntry_both_iff fun a b _ _ z => ?_
                exact ih _ (mem_of_lookup? incoming) (before.entries.of_lookup? existing)
      constructor
      · intro merged
        cases merged with
        | other no_object => simp [isObject] at no_object
        | object distinct keys' values =>
            have same := eq_of_lookup? distinct (keys'.trans (keys_mergeEntries _ keys).symm)
              fun key => (entry key _).1 (values key)
            rw [same]
            rfl
      · rintro rfl
        exact .object (nodup_keys_mergeEntries before.entries.keys) (keys_mergeEntries _ keys)
          fun key => (entry key _).2 rfl

end Rules

section Plain

theorem at?_cons (key : Text) (path : List Text) (document : Json) :
    at? (key :: path) document = (lookup? key document.entries).bind (at? path) := by
  cases document with
  | object => rfl
  | null | bool | number | string | array => simp [at?, Json.entries, lookup?_nil]

theorem plain_of_mergeValue {x y : Json} (array : value.isArray = false)
    (nested : at? path (merge x y) = some value →
      at? path y = some value ∨ at? path y = none ∧ at? path x = some value)
    (found : at? path (mergeValue y (some x)) = some value) :
    at? path y = some value ∨ at? path y = none ∧ at? path x = some value := by
  rcases both_or_apart x y with
    ⟨a, b, rfl, rfl⟩ | ⟨items, more, rfl, rfl⟩ | ⟨objects, arrays⟩
  · rw [mergeValue_objects] at found
    exact nested found
  · rw [mergeValue_arrays] at found
    cases path with
    | nil =>
        obtain rfl := Option.some.inj found
        contradiction
    | cons => contradiction
  · rw [mergeValue_apart objects arrays] at found
    exact .inl found

/-- What is neither object nor list stands in the result only where the overlay has it, or where
the document has it and the overlay nothing. -/
theorem plain_of_merge (laid : Distinct overlay) (object : value.isObject = false)
    (array : value.isArray = false) (found : at? path (merge base overlay) = some value) :
    at? path overlay = some value ∨ at? path overlay = none ∧ at? path base = some value := by
  -- Along the path, where the base is followed as long as both have the key.
  induction path generalizing base overlay with
  | nil =>
      cases overlay with
      | null | bool | number | string | array => exact .inl found
      | object overlay =>
          obtain rfl : .object (mergeEntries base.entries overlay) = value := Option.some.inj found
          contradiction
  | cons key path ih =>
      cases overlay with
      | null | bool | number | string | array => exact .inl found
      | object overlay =>
          obtain ⟨z, entry, found⟩ := Option.bind_eq_some_iff.1 found
          rw [lookup?_mergeEntries _ laid.keys] at entry
          simp only [at?_cons, Json.entries]
          cases incoming : lookup? key overlay with
          | none =>
              simp only [incoming] at entry
              exact .inr ⟨rfl, Option.bind_eq_some_iff.2 ⟨z, entry, found⟩⟩
          | some y =>
              simp only [incoming, Option.some.injEq] at entry
              subst entry
              cases existing : lookup? key base.entries with
              | none =>
                  rw [existing, mergeValue_none] at found
                  exact .inl found
              | some x =>
                  rw [existing] at found
                  simp only [Json.entries] at existing
                  rw [existing]
                  exact plain_of_mergeValue array (ih (laid.of_lookup? incoming)) found

end Plain

section Overlays

/-- The rules give the result of every merge and no other. No key is there twice, and where `null`
stands in the result it stands in the overlay, or else in the document under it. -/
theorem merge_exact (before : Distinct base) (laid : Distinct overlay) :
    (∀ result, result = merge base overlay ↔ IsMerged base overlay result) ∧
    Distinct (merge base overlay) ∧
    ∀ path, at? path (merge base overlay) = some .null →
      at? path overlay = some .null ∨ at? path overlay = none ∧ at? path base = some .null :=
  ⟨fun _ => (isMerged_iff before laid).symm, distinct_merge before laid,
    fun _ => plain_of_merge laid rfl rfl⟩

/-- Objects that are merged, lists that are joined, and values of which one replaces the other. -/
theorem merge_exact_every_kind :
    let base : Json := .object [(['s'], .null), (['k'], .object [(['n'], .null), (['x'], .array [])]),
      (['l'], .array [.bool true])]
    let overlay : Json := .object [(['a'], .string []), (['l'], .array [.null]),
      (['k'], .object [(['x'], .bool false)]), (['s'], .object [])]
    let result : Json := .object [(['s'], .object []),
      (['k'], .object [(['n'], .null), (['x'], .bool false)]), (['l'], .array [.bool true, .null]),
      (['a'], .string [])]
    (Distinct base ∧ Distinct overlay) ∧ IsMerged base overlay result ∧
      at? [['k'], ['n']] (merge base overlay) = some .null ∧
      (at? [['k'], ['n']] overlay = some .null ∨
        at? [['k'], ['n']] overlay = none ∧ at? [['k'], ['n']] base = some .null) := by
  intro base overlay result
  have before : Distinct base := by simp [base]
  have laid : Distinct overlay := by simp [overlay]
  obtain ⟨rules, _, nulls⟩ := merge_exact before laid
  have null : at? [['k'], ['n']] (merge base overlay) = some .null := rfl
  exact ⟨⟨before, laid⟩, (rules result).1 rfl, null, nulls _ null⟩

end Overlays

section Again

/-- Lists that stand below objects of the document have no items. -/
def NoItemsBelow (document : Json) : Prop :=
  ∀ path items, path ≠ [] → at? path document = some (.array items) → items = []

def NoItems (document : Json) : Prop :=
  ∀ path items, at? path document = some (.array items) → items = []

variable {overlay : List (Text × Json)}

theorem noItemsBelow_object_iff : NoItemsBelow (.object entries) ↔
    ∀ key value, lookup? key entries = some value → NoItems value := by
  constructor
  · intro empty key value found path items below
    apply empty (key :: path) items (List.cons_ne_nil key path)
    rw [at?, found]
    exact below
  · intro empty path items some_key found
    obtain ⟨key, path, rfl⟩ := List.exists_cons_of_ne_nil some_key
    obtain ⟨value, entry, below⟩ := Option.bind_eq_some_iff.1 found
    exact empty key value entry path items below

theorem noItems_object_iff : NoItems (.object entries) ↔ NoItemsBelow (.object entries) := by
  constructor
  · exact fun empty path items _ => empty path items
  · intro empty path items found
    cases path with
    | nil => simp [at?] at found
    | cons key path => exact empty (key :: path) items (List.cons_ne_nil key path) found

theorem noItems_of_not_object (object : value.isObject = false)
    (empty : ∀ items, value = .array items → items = []) : NoItems value := by
  intro path items found
  cases path with
  | nil => exact empty items (Option.some.inj found)
  | cons => cases value <;> contradiction

theorem mergeEntries_nil (keys : (overlay.map Prod.fst).Nodup) :
    mergeEntries [] overlay = overlay := by
  apply eq_of_lookup? (nodup_keys_mergeEntries (by simp))
  · rw [keys_mergeEntries _ keys]
    simp
  · intro key
    rw [lookup?_mergeEntries _ keys, lookup?_nil]
    cases lookup? key overlay with
    | none => rfl
    | some y => simp only [mergeValue_none]

/-- Entries that already have what the overlay makes of them stay as they are. -/
theorem mergeEntries_of_same {base : List (Text × Json)} (same : ∀ entry ∈ overlay,
      ∃ value, lookup? entry.1 base = some value ∧ mergeValue entry.2 (some value) = value) :
    mergeEntries base overlay = base := by
  induction overlay with
  | nil => simp [mergeEntries]
  | cons entry rest ih =>
      obtain ⟨key, incoming⟩ := entry
      rw [List.forall_mem_cons] at same
      obtain ⟨⟨value, found, kept⟩, later⟩ := same
      rw [mergeEntries, upsert_of_same found kept, ih later]

theorem mergeEntries_again (keys : (overlay.map Prod.fst).Nodup)
    (again : ∀ entry ∈ overlay, ∀ existing, mergeValue entry.2
      (some (mergeValue entry.2 existing)) = mergeValue entry.2 existing)
    (base : List (Text × Json)) :
    mergeEntries (mergeEntries base overlay) overlay = mergeEntries base overlay := by
  apply mergeEntries_of_same
  rintro ⟨key, incoming⟩ member
  refine ⟨mergeValue incoming (lookup? key base), ?_, again _ member _⟩
  rw [lookup?_mergeEntries _ keys, lookup?_of_mem keys member]

theorem mergeValue_again {incoming : Json} (laid : Distinct incoming) (empty : NoItems incoming)
    (existing : Option Json) :
    mergeValue incoming (some (mergeValue incoming existing)) = mergeValue incoming existing := by
  induction laid generalizing existing with
  | null | bool | number | string => simp [mergeValue]
  | @array more inner ih =>
      obtain rfl : more = [] := empty [] more rfl
      obtain _ | _ | _ | _ | _ | items | _ := existing
      all_goals simp [mergeValue]
  | @object overlay keys inner ih =>
      have again : ∀ entry ∈ overlay, ∀ existing, mergeValue entry.2
          (some (mergeValue entry.2 existing)) = mergeValue entry.2 existing := by
        rintro ⟨key, incoming⟩ member
        apply ih _ member
        have below := noItemsBelow_object_iff.1 (noItems_object_iff.1 empty)
        exact below key incoming (lookup?_of_mem keys member)
      have once := mergeEntries_again keys again
      obtain _ | _ | _ | _ | _ | _ | base := existing
      case some.object => rw [mergeValue_objects, mergeValue_objects, once]
      all_goals
        -- What is no object is replaced, and laid over itself the overlay stays the same.
        have itself := once []
        rw [mergeEntries_nil keys] at itself
        simp only [mergeValue, itself]

/-- An overlay without lists to add to changes a document only once. Laid over the empty object an
object is itself, and the empty object changes none. -/
theorem merge_again {overlay : Json} (laid : Distinct overlay) :
    (NoItemsBelow overlay → ∀ base, merge (merge base overlay) overlay = merge base overlay) ∧
    (overlay.isObject = true → merge (.object []) overlay = overlay) ∧
    ∀ document : Json, document.isObject = true → merge document (.object []) = document := by
  refine ⟨?_, ?_, ?_⟩
  · intro empty base
    cases overlay with
    | null | bool | number | string | array => rfl
    | object overlay =>
        refine congrArg Json.object (mergeEntries_again laid.keys ?_ base.entries)
        rintro ⟨key, incoming⟩ member
        have found := lookup?_of_mem laid.keys member
        have below := noItemsBelow_object_iff.1 empty key incoming found
        exact mergeValue_again (laid.of_lookup? found) below
  · intro object
    cases overlay with
    | null | bool | number | string | array => contradiction
    | object overlay => exact congrArg Json.object (mergeEntries_nil laid.keys)
  · intro document object
    cases document with
    | null | bool | number | string | array => contradiction
    | object entries =>
        change Json.object (mergeEntries entries []) = _
        rw [mergeEntries]

theorem merge_again_empty_list :
    let base : Json := .object [(['k'], .array [.null]), (['l'], .array [.bool true]), (['s'], .null)]
    let overlay : Json := .object [(['s'], .string []),
      (['k'], .object [(['x'], .array []), (['y'], .null)])]
    (Distinct overlay ∧ NoItemsBelow overlay ∧ overlay.isObject = true) ∧
      merge (merge base overlay) overlay = merge base overlay ∧
      merge (.object []) overlay = overlay ∧ merge base (.object []) = base := by
  intro base overlay
  have laid : Distinct overlay := by simp [overlay]
  have inner : NoItems (.object [(['x'], .array []), (['y'], .null)]) := by
    refine noItems_object_iff.2 (noItemsBelow_object_iff.2 fun key value found => ?_)
    have entry := mem_of_lookup? found
    simp only [List.mem_cons, Prod.mk.injEq, List.not_mem_nil, or_false] at entry
    obtain ⟨_, rfl⟩ | ⟨_, rfl⟩ := entry <;> exact noItems_of_not_object rfl (by simp)
  have empty : NoItemsBelow overlay := by
    refine noItemsBelow_object_iff.2 fun key value found => ?_
    have entry := mem_of_lookup? found
    simp only [List.mem_cons, Prod.mk.injEq, List.not_mem_nil, or_false] at entry
    obtain ⟨_, rfl⟩ | ⟨_, rfl⟩ := entry
    · exact noItems_of_not_object rfl (by simp)
    · exact inner
  obtain ⟨again, itself, unchanged⟩ := merge_again laid
  exact ⟨⟨laid, empty, rfl⟩, again empty base, itself rfl, unchanged base rfl⟩

/-- Items of a list are added each time. -/
example :
    let overlay : Json := .object [(['l'], .array [.null])]
    merge (merge (.object []) overlay) overlay = .object [(['l'], .array [.null, .null])] := rfl

end Again

end QueryConditions.Json
