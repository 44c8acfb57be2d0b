import QueryConditions.Json.Printer
import QueryConditions.Proofs.Json.Documents
import Mathlib.Data.List.Induction

/-!
What comes of any number of documents. Those that do not parse are reported and have no other
part in the result. Where the rest are objects, the keys of the result stand in the order in which
they first appear, and what a key has is what the documents give it, laid over each other.
-/

namespace QueryConditions.Json

variable {documents before after : List Text} {objects : List Json}
  {overlays : List (List (Text × Json))} {base : List (Text × Json)} {key : Text}

section Reports

def parses (document : Text) : Bool := (parse document).isOk

def readable (documents : List Text) : List Json :=
  documents.filterMap fun document => (parse document).toOption

theorem value_combine (documents : List Text) :
    (combine documents).value = (readable documents).foldl merge (.object []) := by
  rw [combine_eq, readable]

theorem errors_combine (documents : List Text) :
    (combine documents).errors = documents.filterMap readError? := by
  rw [combine_eq]

theorem parses_iff {document : Text} :
    parses document = true ↔ ∃ value, parse document = .ok value := by
  unfold parses
  cases parse document <;> simp [Except.isOk, Except.toBool]

theorem readError?_isSome (document : Text) :
    (readError? document).isSome = !parses document := by
  unfold readError? parses
  cases parse document <;> rfl

theorem readable_filter_parses (documents : List Text) :
    readable (documents.filter parses) = readable documents := by
  rw [readable, readable, List.filterMap_filter]
  congr
  funext document
  unfold parses
  cases parse document <;> rfl

/-- Each document that does not parse gives one error, at its place among them. -/
theorem errors_of_unreadable (documents : List Text) :
    List.Forall₂ (fun document error => parse document = .error error)
      (documents.filter (!parses ·)) (combine documents).errors := by
  rw [errors_combine]
  induction documents with
  | nil => exact .nil
  | cons document rest ih =>
      have failed := readError?_isSome document
      cases read : readError? document with
      | none =>
          rw [read] at failed
          rwa [List.filter_cons_of_neg (by simpa using failed), List.filterMap_cons_none read]
      | some error =>
          rw [read] at failed
          rw [List.filter_cons_of_pos (by simpa using failed), List.filterMap_cons_some read]
          exact .cons (readError?_eq_some_iff.1 read) ih

theorem isClean_combine_iff :
    (combine documents).isClean = true ↔ ∀ document ∈ documents, parses document = true := by
  rw [Combined.isClean, List.isEmpty_iff, errors_combine, List.filterMap_eq_nil_iff]
  refine forall₂_congr fun document _ => ?_
  rw [← Option.not_isSome_iff_eq_none, readError?_isSome]
  simp

/-- Wherever it stands, a document that does not parse adds its error and nothing else. -/
theorem combine_insert {bad : Text} {error : ReadError} (failed : parse bad = .error error) :
    combine (before ++ bad :: after) = ⟨(combine (before ++ after)).value,
      (combine before).errors ++ error :: (combine after).errors⟩ := by
  have skipped : (parse bad).toOption = none := by rw [failed]; rfl
  have reported : readError? bad = some error := readError?_eq_some_iff.2 failed
  simp only [combine_eq, List.filterMap_append, List.filterMap_cons, skipped, reported]

end Reports

section Objects

def givenTo (key : Text) (objects : List Json) : List Json :=
  objects.filterMap fun object => lookup? key object.entries

def listItems : Json → List Json
  | .array items => items
  | _ => []

theorem foldl_merge_objects (all : ∀ object ∈ objects, object.isObject = true) :
    objects.foldl merge (.object base) =
      .object ((objects.map Json.entries).foldl mergeEntries base) := by
  induction objects generalizing base with
  | nil => rfl
  | cons object rest ih =>
      rw [List.forall_mem_cons] at all
      cases object with
      | null | bool | number | string | array => simp [isObject] at all
      | object overlay => exact ih all.2

theorem eraseDups_of_nodup {keys : List Text} (distinct : keys.Nodup) : keys.eraseDups = keys := by
  induction keys with
  | nil => rfl
  | cons key rest ih =>
      obtain ⟨fresh, distinct⟩ := List.nodup_cons.1 distinct
      have others : rest.filter (fun other => !other == key) = rest := by
        refine List.filter_eq_self.2 fun other member => ?_
        have apart : other ≠ key := fun same => fresh (same ▸ member)
        simpa using apart
      rw [List.eraseDups_cons, others, ih distinct]

/-- Each object adds the keys that none before it has. -/
theorem keys_foldl (distinct : ∀ overlay ∈ overlays, (overlay.map Prod.fst).Nodup) :
    (overlays.foldl mergeEntries []).map Prod.fst =
      (overlays.flatMap (·.map Prod.fst)).eraseDups := by
  -- From the last object, as the keys so far are all keys of the objects before it.
  induction overlays using List.reverseRecOn with
  | nil => rfl
  | append_singleton overlays last ih =>
      obtain ⟨earlier, fresh⟩ := List.forall_mem_append.1 distinct
      have fresh := fresh last (List.mem_singleton_self last)
      rw [List.foldl_append, List.foldl_cons, List.foldl_nil, keys_mergeEntries _ fresh, ih earlier,
        List.flatMap_append, List.flatMap_singleton, List.eraseDups_append, List.removeAll]
      congr 1
      rw [eraseDups_of_nodup (fresh.filter _)]
      apply List.filter_congr
      simp [List.mem_eraseDups]

/-- What a key has depends only on what each object gives it. -/
theorem lookup?_foldl (distinct : ∀ overlay ∈ overlays, (overlay.map Prod.fst).Nodup) :
    lookup? key (overlays.foldl mergeEntries base) =
      (overlays.filterMap (lookup? key)).foldl
        (fun existing incoming => some (mergeValue incoming existing)) (lookup? key base) := by
  induction overlays generalizing base with
  | nil => rfl
  | cons overlay rest ih =>
      rw [List.forall_mem_cons] at distinct
      rw [List.foldl_cons, ih distinct.2, lookup?_mergeEntries _ distinct.1]
      cases incoming : lookup? key overlay with
      | none => rw [List.filterMap_cons_none incoming]
      | some y => rw [List.filterMap_cons_some incoming, List.foldl_cons]

theorem foldl_lists {lists : List Json} (all : ∀ list ∈ lists, list.isArray = true)
    (first : List Json) :
    lists.foldl (fun existing incoming => some (mergeValue incoming existing))
      (some (.array first)) = some (.array (first ++ lists.flatMap listItems)) := by
  induction lists generalizing first with
  | nil => simp
  | cons list rest ih =>
      rw [List.forall_mem_cons] at all
      cases list with
      | null | bool | number | string | object => simp [isArray] at all
      | array more =>
          rw [List.foldl_cons, mergeValue_arrays, ih all.2, List.flatMap_cons, listItems,
            List.append_assoc]

/-- A key that is given lists only has them joined. -/
theorem lookup?_of_lists (distinct : ∀ overlay ∈ overlays, (overlay.map Prod.fst).Nodup)
    (there : key ∈ (overlays.foldl mergeEntries []).map Prod.fst)
    (lists : ∀ value ∈ overlays.filterMap (lookup? key), value.isArray = true) :
    lookup? key (overlays.foldl mergeEntries []) =
      some (.array ((overlays.filterMap (lookup? key)).flatMap listItems)) := by
  have found : lookup? key (overlays.foldl mergeEntries []) = _ := lookup?_foldl distinct
  cases given : overlays.filterMap (lookup? key) with
  | nil =>
      rw [given] at found
      exact absurd there (lookup?_eq_none_iff.1 found)
  | cons first rest =>
      rw [given, List.forall_mem_cons] at lists
      cases first with
      | null | bool | number | string | object => simp [isArray] at lists
      | array first =>
          rw [found, given, List.foldl_cons, lookup?_nil, mergeValue_none, foldl_lists lists.2,
            List.flatMap_cons, listItems]

end Objects

section Whole

/-- Only the documents that parse make up the value, and each of the others is reported. If the
former are all objects, so is the value: its keys are theirs, in the order of their first
appearance, and a key that they give lists only has these joined. -/
theorem combine_exact (documents : List Text) :
    (combine documents).value = (combine (documents.filter parses)).value ∧
    List.Forall₂ (fun document message =>
        ∃ error, parse document = .error error ∧ message = inputMessage error)
      (documents.filter (!parses ·)) ((combine documents).errors.map inputMessage) ∧
    ((combine documents).isClean = true ↔
      ∀ document ∈ documents, ∃ value, parse document = .ok value) ∧
    (∀ before bad after error, documents = before ++ after → parse bad = .error error →
      combine (before ++ bad :: after) = ⟨(combine documents).value,
        (combine before).errors ++ error :: (combine after).errors⟩) ∧
    ((∀ object ∈ readable documents, object.isObject = true) →
      ∃ entries, (combine documents).value = .object entries ∧ (entries.map Prod.fst).Nodup ∧
        entries.map Prod.fst =
          ((readable documents).flatMap fun object => object.entries.map Prod.fst).eraseDups ∧
        ∀ key ∈ entries.map Prod.fst,
          (∀ value ∈ givenTo key (readable documents), value.isArray = true) →
            lookup? key entries =
              some (.array ((givenTo key (readable documents)).flatMap listItems))) := by
  refine ⟨?_, ?_, ?_, ?_, ?_⟩
  · rw [value_combine, value_combine, readable_filter_parses]
  · rw [List.forall₂_map_right_iff]
    exact (errors_of_unreadable documents).imp fun _ error failed => ⟨error, failed, rfl⟩
  · rw [isClean_combine_iff]
    exact forall₂_congr fun _ _ => parses_iff
  · rintro before bad after error rfl failed
    exact combine_insert failed
  · intro all
    have distinct : ∀ overlay ∈ (readable documents).map Json.entries,
        (overlay.map Prod.fst).Nodup := by
      rw [List.forall_mem_map]
      exact fun object member => (distinct_of_mem_read member).entries.keys
    -- Without other values among them objects are laid over each other entry by entry.
    have value := (value_combine documents).trans (foldl_merge_objects all)
    have whole := distinct_combine documents
    rw [value] at whole
    refine ⟨_, value, whole.keys, ?_, ?_⟩
    · rw [keys_foldl distinct, List.flatMap_map]
    · intro key there lists
      have given : givenTo key (readable documents) =
          ((readable documents).map Json.entries).filterMap (lookup? key) := by
        rw [List.filterMap_map]
        rfl
      rw [given] at lists ⊢
      exact lookup?_of_lists distinct there lists

/-- Two objects with a document between them that ends too soon. -/
theorem combine_exact_cut_off :
    let first := "\x7b\"k\": [true], \"b\": \x7b\x7d\x7d".toList
    let bad := "[1".toList
    let last := "\x7b\"a\": null, \"k\": [null]\x7d".toList
    let documents := [first, bad, last]
    ((∀ object ∈ readable documents, object.isObject = true) ∧
      ∀ value ∈ givenTo ['k'] (readable documents), value.isArray = true) ∧
    (combine documents).value = (combine [first, last]).value ∧
    ∃ entries items, (combine documents).value = .object entries ∧
      entries.map Prod.fst = [['k'], ['b'], ['a']] ∧
      lookup? ['k'] entries = some (.array items) ∧
      items.map pretty = ["true".toList, "null".toList] := by
  intro first bad last documents
  have all : (readable documents).all isObject = true := by decide +kernel
  have lists : (givenTo ['k'] (readable documents)).all isArray = true := by decide +kernel
  have kept : documents.filter parses = [first, last] := by decide +kernel
  have order : ((readable documents).flatMap fun object => object.entries.map Prod.fst).eraseDups =
      [['k'], ['b'], ['a']] := by decide +kernel
  have texts : ((givenTo ['k'] (readable documents)).flatMap listItems).map pretty =
      ["true".toList, "null".toList] := by decide +kernel
  rw [List.all_eq_true] at all lists
  obtain ⟨same, _, _, _, whole⟩ := combine_exact documents
  obtain ⟨entries, value, _, keys, joined⟩ := whole all
  rw [kept] at same
  rw [order] at keys
  exact ⟨⟨all, lists⟩, same, entries, _, value, keys, joined ['k'] (by simp [keys]) lists, texts⟩

end Whole

end QueryConditions.Json
