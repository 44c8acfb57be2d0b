import QueryConditions.Json.Merge
import QueryConditions.Proofs.Json.Entries

/-!
What merging does to the keys of objects and to what they give each key. A key of either
object is a key of the merged one, those of the first before those that only the second has.
Where nothing that could be merged is hidden by a value of another kind between them, three
documents may be merged from either end.
-/

namespace QueryConditions.Json

variable {key : Text} {first middle last value incoming : Json}
  {base overlay entries : List (Text × Json)}

section Values

attribute [local simp] mergeValue

def isObject : Json → Bool
  | .object _ => true
  | _ => false

def isArray : Json → Bool
  | .array _ => true
  | _ => false

theorem mergeValue_none (incoming : Json) : mergeValue incoming none = incoming := by
  cases incoming <;> simp

theorem mergeValue_objects (base overlay : List (Text × Json)) :
    mergeValue (.object overlay) (some (.object base)) = .object (mergeEntries base overlay) := by
  rw [mergeValue]

theorem mergeValue_arrays (items more : List Json) :
    mergeValue (.array more) (some (.array items)) = .array (items ++ more) := by
  rw [mergeValue]

/-- Of two values that are not both objects and not both lists the second stays. -/
theorem mergeValue_apart (objects : (first.isObject && last.isObject) = false)
    (arrays : (first.isArray && last.isArray) = false) :
    mergeValue last (some first) = last := by
  cases last with
  | object => cases first <;> simp_all [isObject]
  | array => cases first <;> simp_all [isArray]
  | null | bool | number | string => simp

/-- Two values are objects, lists, or not to be merged. -/
theorem both_or_apart (first last : Json) :
    (∃ base overlay, first = .object base ∧ last = .object overlay) ∨
      (∃ items more, first = .array items ∧ last = .array more) ∨
      (first.isObject && last.isObject) = false ∧ (first.isArray && last.isArray) = false := by
  cases last with
  | object overlay => cases first <;> simp [isObject, isArray]
  | array more => cases first <;> simp [isObject, isArray]
  | null | bool | number | string => simp [isObject, isArray]

theorem isObject_mergeValue (first last : Json) :
    (mergeValue last (some first)).isObject = last.isObject := by
  rcases both_or_apart first last with
    ⟨base, overlay, rfl, rfl⟩ | ⟨items, more, rfl, rfl⟩ | ⟨objects, arrays⟩
  · rw [mergeValue_objects]
    rfl
  · rw [mergeValue_arrays]
    rfl
  · rw [mergeValue_apart objects arrays]

theorem isArray_mergeValue (first last : Json) :
    (mergeValue last (some first)).isArray = last.isArray := by
  rcases both_or_apart first last with
    ⟨base, overlay, rfl, rfl⟩ | ⟨items, more, rfl, rfl⟩ | ⟨objects, arrays⟩
  · rw [mergeValue_objects]
    rfl
  · rw [mergeValue_arrays]
    rfl
  · rw [mergeValue_apart objects arrays]

end Values

section Objects

/-- The keys of the first object stay where they are, and those that only the second has
follow in its order. -/
theorem keys_mergeEntries (base : List (Text × Json)) (distinct : (overlay.map Prod.fst).Nodup) :
    (mergeEntries base overlay).map Prod.fst =
      base.map Prod.fst ++ (overlay.map Prod.fst).filter (· ∉ base.map Prod.fst) := by
  induction overlay generalizing base with
  | nil => simp [mergeEntries]
  | cons entry rest ih =>
      obtain ⟨key, incoming⟩ := entry
      obtain ⟨fresh, distinct⟩ := List.nodup_cons.1 distinct
      rw [mergeEntries, ih _ distinct, keys_upsert, List.map_cons]
      by_cases there : key ∈ base.map Prod.fst
      · rw [if_pos there, List.filter_cons_of_neg (by simpa using there)]
      · rw [if_neg there, List.filter_cons_of_pos (by simpa using there), List.append_assoc,
          List.singleton_append]
        congr 2
        apply List.filter_congr
        intro other member
        have apart : other ≠ key := fun same => fresh (same ▸ member)
        simp [apart]

theorem nodup_keys_mergeEntries (distinct : (base.map Prod.fst).Nodup) :
    ((mergeEntries base overlay).map Prod.fst).Nodup := by
  induction overlay generalizing base with
  | nil => simpa [mergeEntries] using distinct
  | cons entry rest ih =>
      obtain ⟨key, incoming⟩ := entry
      rw [mergeEntries]
      exact ih (nodup_keys_upsert distinct)

/-- A key that the second object gives a value has this value, laid over the one before. -/
theorem lookup?_mergeEntries (base : List (Text × Json))
    (distinct : (overlay.map Prod.fst).Nodup) (key : Text) :
    lookup? key (mergeEntries base overlay) =
      match lookup? key overlay with
      | none => lookup? key base
      | some incoming => some (mergeValue incoming (lookup? key base)) := by
  induction overlay generalizing base with
  | nil => simp [mergeEntries, lookup?_nil]
  | cons entry rest ih =>
      obtain ⟨other, incoming⟩ := entry
      obtain ⟨fresh, distinct⟩ := List.nodup_cons.1 distinct
      rw [mergeEntries, ih _ distinct, lookup?_upsert, lookup?_cons]
      by_cases same : other = key
      · subst same
        rw [lookup?_eq_none_iff.2 fresh]
        simp
      · simp only [if_neg same]

theorem distinct_mergeEntries (distinct : Distinct (.object base))
    (incoming : ∀ entry ∈ overlay, ∀ existing, (∀ value ∈ existing, Distinct value) →
      Distinct (mergeValue entry.2 existing)) :
    Distinct (.object (mergeEntries base overlay)) := by
  induction overlay generalizing base with
  | nil => simpa [mergeEntries] using distinct
  | cons entry rest ih =>
      obtain ⟨key, value⟩ := entry
      rw [List.forall_mem_cons] at incoming
      rw [mergeEntries]
      exact ih (distinct_upsert distinct (incoming.1 _ fun _ found => distinct.of_lookup? found))
        incoming.2

theorem distinct_mergeValue (distinct : Distinct incoming) (existing : Option Json)
    (before : ∀ value ∈ existing, Distinct value) : Distinct (mergeValue incoming existing) := by
  induction distinct generalizing existing with
  | null | bool | number | string => simp [mergeValue]
  | @array more inner ih =>
      obtain _ | _ | _ | _ | _ | items | _ := existing
      case some.array =>
        rw [mergeValue_arrays]
        have items_inner := distinct_array_iff.1 (before _ rfl)
        exact .array (List.forall_mem_append.2 ⟨items_inner, inner⟩)
      all_goals
        simp only [mergeValue]
        exact .array inner
  | @object overlay keys inner ih =>
      obtain _ | _ | _ | _ | _ | _ | base := existing
      case some.object =>
        rw [mergeValue_objects]
        exact distinct_mergeEntries (before _ rfl) ih
      all_goals
        simp only [mergeValue]
        exact .object keys inner

/-- Merging gives no object a key twice. -/
theorem distinct_merge {document : Json} (before : Distinct document) (distinct : Distinct last) :
    Distinct (merge document last) := by
  cases last with
  | object overlay =>
      have laid := distinct_mergeValue distinct (some (.object document.entries))
        (by simpa using before.entries)
      rwa [mergeValue_objects] at laid
  | null | bool | number | string | array => exact distinct

end Objects

section Regrouping

def at? : List Text → Json → Option Json
  | [], value => some value
  | key :: path, .object entries => (lookup? key entries).bind (at? path)
  | _ :: _, _ => none

/-- The first and the last could be merged, but the value between them is of another kind. -/
def Hides (first middle last : Json) : Prop :=
  (first.isObject = true ∧ last.isObject = true ∧ middle.isObject = false) ∨
    (first.isArray = true ∧ last.isArray = true ∧ middle.isArray = false)

/-- No value of the second document hides one of the first from one of the third. -/
def Unhidden (first middle last : Json) : Prop :=
  ∀ path x y z, at? path first = some x → at? path middle = some y → at? path last = some z →
    ¬ Hides x y z

/-- Objects are looked into, key by key. -/
theorem unhidden_objects_iff {a b c : List (Text × Json)} :
    Unhidden (.object a) (.object b) (.object c) ↔
      ∀ key x y z, lookup? key a = some x → lookup? key b = some y → lookup? key c = some z →
        Unhidden x y z := by
  constructor
  · intro unhidden key x y z first middle last path x' y' z' foundx foundy foundz
    apply unhidden (key :: path)
    · rw [at?, first]
      exact foundx
    · rw [at?, middle]
      exact foundy
    · rw [at?, last]
      exact foundz
  · intro below path x y z foundx foundy foundz
    cases path with
    | nil =>
        obtain rfl : .object b = y := by simpa [at?] using foundy
        obtain rfl : .object a = x := by simpa [at?] using foundx
        simp [Hides, isObject, isArray]
    | cons key path =>
        obtain ⟨x', first, foundx⟩ := Option.bind_eq_some_iff.1 (by simpa [at?] using foundx)
        obtain ⟨y', middle, foundy⟩ := Option.bind_eq_some_iff.1 (by simpa [at?] using foundy)
        obtain ⟨z', last, foundz⟩ := Option.bind_eq_some_iff.1 (by simpa [at?] using foundz)
        exact below key x' y' z' first middle last path x y z foundx foundy foundz

/-- There is nothing to look into where one of the values is no object. -/
theorem unhidden_of_apart (apart : (first.isObject && middle.isObject && last.isObject) = false)
    (unhidden : ¬ Hides first middle last) : Unhidden first middle last := by
  intro path x y z foundx foundy foundz
  cases path with
  | nil =>
      cases foundx
      cases foundy
      cases foundz
      exact unhidden
  | cons key path => cases first <;> cases middle <;> cases last <;> simp_all [at?, isObject]

/-- Where the last value replaces the one before it, it replaces them all. -/
theorem mergeValue_assoc_apart (objects : (middle.isObject && last.isObject) = false)
    (arrays : (middle.isArray && last.isArray) = false) (unhidden : ¬ Hides first middle last) :
    mergeValue last (some (mergeValue middle (some first))) =
      mergeValue (mergeValue last (some middle)) (some first) := by
  have merged : mergeValue last (some (mergeValue middle (some first))) = last :=
    mergeValue_apart (by rwa [isObject_mergeValue]) (by rwa [isArray_mergeValue])
  have ends : mergeValue last (some first) = last := by
    apply mergeValue_apart
    · by_contra both
      simp only [Bool.not_eq_false, Bool.and_eq_true] at both
      exact unhidden (.inl ⟨both.1, both.2, by simpa [both.2] using objects⟩)
    · by_contra both
      simp only [Bool.not_eq_false, Bool.and_eq_true] at both
      exact unhidden (.inr ⟨both.1, both.2, by simpa [both.2] using arrays⟩)
  rw [merged, mergeValue_apart objects arrays, ends]

/-- Objects may be regrouped if the values of the keys that all three have may be. -/
theorem mergeEntries_assoc {a b c : List (Text × Json)} (first : (a.map Prod.fst).Nodup)
    (middle : (b.map Prod.fst).Nodup) (last : (c.map Prod.fst).Nodup)
    (shared : ∀ key x y z, lookup? key a = some x → lookup? key b = some y →
      lookup? key c = some z →
      mergeValue z (some (mergeValue y (some x))) = mergeValue (mergeValue z (some y)) (some x)) :
    mergeEntries (mergeEntries a b) c = mergeEntries a (mergeEntries b c) := by
  -- Two objects are the same if they have their keys in the same order and the same values.
  apply eq_of_lookup? (nodup_keys_mergeEntries (nodup_keys_mergeEntries first))
  · rw [keys_mergeEntries _ last, keys_mergeEntries _ middle,
      keys_mergeEntries _ (nodup_keys_mergeEntries middle), keys_mergeEntries _ last,
      List.filter_append, List.filter_filter, List.append_assoc]
    congr 2
    apply List.filter_congr
    intro key _
    simp only [List.mem_append, List.mem_filter, not_or]
    grind
  · intro key
    rw [lookup?_mergeEntries _ last, lookup?_mergeEntries _ middle,
      lookup?_mergeEntries _ (nodup_keys_mergeEntries middle), lookup?_mergeEntries _ last]
    cases incoming : lookup? key c with
    | none => rfl
    | some z =>
        cases between : lookup? key b with
        | none => simp only [mergeValue_none]
        | some y =>
            cases existing : lookup? key a with
            | none => simp only [mergeValue_none]
            | some x => exact congrArg some (shared key x y z existing between incoming)

theorem mergeValue_assoc (distinct : Distinct last) (first_distinct : Distinct first)
    (middle_distinct : Distinct middle) (unhidden : Unhidden first middle last) :
    mergeValue last (some (mergeValue middle (some first))) =
      mergeValue (mergeValue last (some middle)) (some first) := by
  -- The last value decides whether anything is left of the other two.
  induction distinct generalizing first middle with
  | null | bool | number | string =>
      exact mergeValue_assoc_apart (by simp [isObject]) (by simp [isArray])
        (unhidden [] _ _ _ rfl rfl rfl)
  | @array more =>
      cases middle with
      | array items =>
          rw [mergeValue_arrays]
          cases first with
          | array head => simp only [mergeValue_arrays, List.append_assoc]
          | null | bool | number | string | object => simp [mergeValue]
      | null | bool | number | string | object =>
          exact mergeValue_assoc_apart (by simp [isObject]) (by simp [isArray])
            (unhidden [] _ _ _ rfl rfl rfl)
  | @object c keys inner ih =>
      cases middle with
      | object b =>
          rw [mergeValue_objects]
          cases first with
          | object a =>
              simp only [mergeValue_objects, object.injEq]
              apply mergeEntries_assoc first_distinct.keys middle_distinct.keys keys
              intro key x y z existing between incoming
              exact ih (key, z) (mem_of_lookup? incoming) (first_distinct.of_lookup? existing)
                (middle_distinct.of_lookup? between)
                (unhidden_objects_iff.1 unhidden key x y z existing between incoming)
          | null | bool | number | string | array => simp [mergeValue]
      | null | bool | number | string | array =>
          exact mergeValue_assoc_apart (by simp [isObject]) (by simp [isArray])
            (unhidden [] _ _ _ rfl rfl rfl)

/-- Three objects may be merged from either end, down to the order of their keys and items. -/
theorem merge_assoc {a b c : List (Text × Json)} (first : Distinct (.object a))
    (middle : Distinct (.object b)) (last : Distinct (.object c))
    (unhidden : Unhidden (.object a) (.object b) (.object c)) :
    merge (merge (.object a) (.object b)) (.object c) =
      merge (.object a) (merge (.object b) (.object c)) := by
  have regrouped := mergeValue_assoc last first middle unhidden
  simpa only [mergeValue_objects, merge, entries] using regrouped

theorem merge_assoc_nested :
    let a : Json := .object [(['k'], .object [(['x'], .array [.bool true])]), (['s'], .object [])]
    let b : Json := .object [(['s'], .null), (['k'], .object [(['x'], .array [.null])])]
    let c : Json := .object [(['s'], .array []),
      (['k'], .object [(['y'], .null), (['x'], .array [.bool false])])]
    (Distinct a ∧ Distinct b ∧ Distinct c ∧ Unhidden a b c) ∧
      merge (merge a b) c = merge a (merge b c) := by
  intro a b c
  have first : Distinct a := by simp [a]
  have middle : Distinct b := by simp [b]
  have last : Distinct c := by simp [c]
  have unhidden : Unhidden a b c := by
    refine unhidden_objects_iff.2 fun key x y z existing between incoming => ?_
    have keys := mem_of_lookup? between
    simp only [List.mem_cons, Prod.mk.injEq, List.not_mem_nil, or_false] at keys
    obtain ⟨rfl, rfl⟩ | ⟨rfl, rfl⟩ := keys
    · cases existing
      cases incoming
      exact unhidden_of_apart rfl (by simp [Hides, isObject, isArray])
    · cases existing
      cases incoming
      refine unhidden_objects_iff.2 fun key x y z existing between incoming => ?_
      obtain ⟨rfl, rfl⟩ : key = ['x'] ∧ y = .array [.null] := by
        simpa using mem_of_lookup? between
      cases existing
      cases incoming
      exact unhidden_of_apart rfl (by simp [Hides, isObject, isArray])
  exact ⟨⟨first, middle, last, unhidden⟩, merge_assoc first middle last unhidden⟩

/-- What `null` hides is lost if the last two are merged first. -/
example :
    let a : Json := .object [(['k'], .object [(['x'], .null)])]
    let b : Json := .object [(['k'], .null)]
    let c : Json := .object [(['k'], .object [])]
    merge (merge a b) c = c ∧ merge a (merge b c) = a := by
  constructor <;> rfl

end Regrouping

section Combining

def readError? (document : Text) : Option ReadError :=
  match parse document with
  | .ok _ => none
  | .error error => some error

theorem readError?_eq_some_iff {document : Text} {error : ReadError} :
    readError? document = some error ↔ parse document = .error error := by
  unfold readError?
  split <;> simp [*]

theorem foldl_add (combined : Combined) (documents : List Text) :
    documents.foldl Combined.add combined =
      ⟨(documents.filterMap fun document => (parse document).toOption).foldl merge combined.value,
        combined.errors ++ documents.filterMap readError?⟩ := by
  induction documents generalizing combined with
  | nil => simp
  | cons document rest ih =>
      rw [List.foldl_cons, ih, Combined.add]
      cases read : parse document with
      | ok value => simp [read, readError?, Except.toOption]
      | error error => simp [read, readError?, Except.toOption]

/-- The documents that parse are laid over each other in order, and the others are reported. -/
theorem combine_eq (documents : List Text) :
    combine documents =
      ⟨(documents.filterMap fun document => (parse document).toOption).foldl merge (.object []),
        documents.filterMap readError?⟩ := by
  rw [combine, foldl_add, List.nil_append]

end Combining

end QueryConditions.Json
