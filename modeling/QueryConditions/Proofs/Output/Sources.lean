import QueryConditions.Proofs.Condition.ReadBack
import QueryConditions.Proofs.Output.Labels

/-!
Sources read back. What is written for several sources is one JSON object in which each of them
has an entry of its own, in their order, and the conditions of a source are read off its entry.
-/

namespace QueryConditions

variable {conditions : List Condition}

section Conditions

/-- The value is a list, and each item of it is read as the condition in its place, whether the
item is written on one line or on several. -/
def Condition.Decodes (value : Json) (conditions : List Condition) : Prop :=
  ∃ items, value = .array items ∧
    List.Forall₂ (fun item condition => Condition.parse item.compact = .ok condition ∧
      Condition.parse item.pretty = .ok condition) items conditions

theorem Condition.decodes_listToJson (conditions : List Condition) :
    Decodes (listToJson conditions) conditions := by
  refine ⟨_, rfl, List.forall₂_map_left_iff.2 (List.forall₂_same.2 ?_)⟩
  exact fun condition _ => ⟨parse_compact condition, parse_pretty condition⟩

theorem Condition.textual_listToJson (depth : Nat) (conditions : List Condition) :
    (listToJson conditions).Textual (depth + 2) := by
  refine .array fun item member => ?_
  obtain ⟨condition, _, rfl⟩ := List.mem_map.1 member
  have names : (Field.all.map Field.name).Nodup := by decide
  refine .object names ?_
  simp [Json.Textual.string]

end Conditions

section Sources

open Document

theorem Document.length_labels (sources : List Source) :
    (labels sources).length = sources.length := by
  rw [labels, length_labelsFrom, List.length_map]

theorem Document.nodup_labels (sources : List Source) : (labels sources).Nodup := by
  have apart := nodup_labelsFrom List.nodup_nil (sources.map Source.label)
  rwa [List.nil_append] at apart

theorem Document.entries_sourcesToJson (sources : List Source) :
    (sourcesToJson sources).entries =
      (labels sources).zip (sources.map fun source => Condition.listToJson source.conditions) := by
  rw [sourcesToJson, Json.entries, List.zip, List.zipWith_map_right]

theorem Document.keys_sourcesToJson (sources : List Source) :
    (sourcesToJson sources).entries.map Prod.fst = labels sources := by
  rw [entries_sourcesToJson, List.map_fst_zip]
  rw [length_labels, List.length_map]

theorem Document.textual_sourcesToJson (sources : List Source) :
    (sourcesToJson sources).Textual Json.greatestDepth := by
  have keys : ((sourcesToJson sources).entries.map Prod.fst).Nodup := by
    rw [keys_sourcesToJson]
    exact nodup_labels sources
  have inner : ∀ entry ∈ (sourcesToJson sources).entries, Json.Textual 126 entry.2 := by
    intro entry member
    rw [entries_sourcesToJson] at member
    obtain ⟨source, _, written⟩ := List.mem_map.1 (List.of_mem_zip member).2
    rw [← written]
    exact Condition.textual_listToJson _ source.conditions
  exact .object keys inner

theorem Document.parse_renderSources (sources : List Source) :
    Json.parse (renderSources sources .json) = .ok (sourcesToJson sources) :=
  Json.parse_pretty (textual_sourcesToJson sources)

/-- No source is lost, and each comes back under a key of its own with its conditions. -/
theorem sources_read_back (sources : List Source) :
    ∃ entries, Json.parse (renderSources sources .json) = .ok (.object entries) ∧
      entries.length = sources.length ∧
      (entries.map Prod.fst).Nodup ∧
      ∀ i : Fin sources.length, ∃ key value,
        entries[i.val]? = some (key, value) ∧
        IsKeyAfter ((entries.take i).map Prod.fst) sources[i].label key ∧
        Condition.Decodes value sources[i].conditions := by
  have keys := keys_sourcesToJson sources
  refine ⟨(sourcesToJson sources).entries, parse_renderSources sources, ?_, ?_, fun i => ?_⟩
  · rw [← length_labels, ← keys, List.length_map]
  · rw [keys]
    exact nodup_labels sources
  · have in_range : i.val < (sources.map Source.label).length := by simp
    obtain ⟨key, found, isKey⟩ := isKeyAfter_labelsFrom [] (sources.map Source.label) ⟨i, in_range⟩
    refine ⟨key, Condition.listToJson sources[i].conditions, ?_, ?_,
      Condition.decodes_listToJson _⟩
    · rw [entries_sourcesToJson, List.getElem?_zip_eq_some]
      exact ⟨found, by simp⟩
    · rw [List.map_take, keys]
      simpa [labels] using isKey

end Sources

end QueryConditions
