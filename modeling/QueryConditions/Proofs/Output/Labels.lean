import Mathlib.Data.List.Nodup
import Mathlib.Data.List.Perm.Subperm
import Mathlib.Order.Bounds.Basic
import QueryConditions.Output.Document

/-!
The labels of sources. The search for a number ends at the least one that makes a label free:
the numbered forms of a label are all different, so there are more of them among those tried
than labels that can be in the way.
-/

namespace QueryConditions.Document

variable {taken sources : List Text} {label : Text}

section Numbers

theorem numbered_injective (label : Text) : Function.Injective (numbered label) := by
  intro first second same
  have digits : Nat.toDigits 10 first = Nat.toDigits 10 second := List.append_cancel_left same
  have read := congrArg (Nat.ofDigitChars 10 · 0) digits
  simpa [Nat.ofDigitChars_toDigits] using read

/-- Among one number more than there are labels, one is free. -/
theorem exists_free (taken : List Text) (label : Text) (number : Nat) :
    ∃ k, number ≤ k ∧ k ≤ number + taken.length ∧ numbered label k ∉ taken := by
  by_contra! none
  have apart : ((List.range' number (taken.length + 1)).map (numbered label)).Nodup :=
    List.Nodup.map (numbered_injective label) (List.nodup_range' 1)
  have within : (List.range' number (taken.length + 1)).map (numbered label) ⊆ taken := by
    intro other member
    obtain ⟨k, tried, rfl⟩ := List.mem_map.1 member
    rw [List.mem_range'_1] at tried
    exact none k tried.1 (by omega)
  have fewer := (apart.subperm within).length_le
  simp only [List.length_map, List.length_range'] at fewer
  omega

theorem isLeast_freeNumber {number tries : Nat}
    (free : ∃ k, number ≤ k ∧ k ≤ number + tries ∧ numbered label k ∉ taken) :
    IsLeast {k | number ≤ k ∧ numbered label k ∉ taken} (freeNumber taken label number tries) := by
  induction tries generalizing number with
  | zero =>
      obtain ⟨k, from_number, to_number, unused⟩ := free
      obtain rfl : k = number := by omega
      exact ⟨⟨le_refl k, unused⟩, fun j above => above.1⟩
  | succ tries ih =>
      unfold freeNumber
      split
      · next used =>
        rw [List.contains_iff_mem] at used
        have past {k : Nat} (above : number ≤ k) (unused : numbered label k ∉ taken) :
            number + 1 ≤ k :=
          Nat.lt_of_le_of_ne above fun same => unused (same ▸ used)
        obtain ⟨k, above, below, unused⟩ := free
        have least := ih ⟨k, past above unused, by omega, unused⟩
        exact ⟨⟨Nat.le_of_succ_le least.1.1, least.1.2⟩,
          fun j found => least.2 ⟨past found.1 found.2, found.2⟩⟩
      · next unused =>
        rw [List.contains_iff_mem] at unused
        exact ⟨⟨le_refl number, unused⟩, fun j above => above.1⟩

end Numbers

section Labels

/-- The key of a source after other keys: its label, or the label with the least number from
two on that none of these keys uses. -/
def IsKeyAfter (earlier : List Text) (label key : Text) : Prop :=
  if label ∈ earlier then
    ∃ k, IsLeast {k | 2 ≤ k ∧ numbered label k ∉ earlier} k ∧ key = numbered label k
  else key = label

theorem isKeyAfter_freeLabel (taken : List Text) (label : Text) :
    IsKeyAfter taken label (freeLabel taken label) := by
  unfold IsKeyAfter freeLabel
  simp only [List.contains_iff_mem]
  split
  · exact ⟨_, isLeast_freeNumber (exists_free taken label 2), rfl⟩
  · rfl

theorem IsKeyAfter.not_mem {key : Text} (isKey : IsKeyAfter taken label key) : key ∉ taken := by
  unfold IsKeyAfter at isKey
  split at isKey
  · obtain ⟨k, least, rfl⟩ := isKey
    exact least.1.2
  · next free => exact isKey ▸ free

theorem length_labelsFrom (taken sources : List Text) :
    (labelsFrom taken sources).length = sources.length := by
  induction sources generalizing taken with
  | nil => rfl
  | cons label sources ih => rw [labelsFrom, List.length_cons, ih, List.length_cons]

theorem nodup_labelsFrom (apart : taken.Nodup) (sources : List Text) :
    (taken ++ labelsFrom taken sources).Nodup := by
  induction sources generalizing taken with
  | nil => simpa [labelsFrom] using apart
  | cons label sources ih =>
      have free := (isKeyAfter_freeLabel taken label).not_mem
      have further : (taken ++ [freeLabel taken label] ++
          labelsFrom (taken ++ [freeLabel taken label]) sources).Nodup :=
        ih (apart.append (List.nodup_singleton _) (by simpa using free))
      rwa [List.append_assoc, List.singleton_append] at further

/-- Each label is free of those taken and of those before it. -/
theorem isKeyAfter_labelsFrom (taken sources : List Text) (i : Fin sources.length) :
    ∃ key, (labelsFrom taken sources)[i.val]? = some key ∧
      IsKeyAfter (taken ++ (labelsFrom taken sources).take i) sources[i] key := by
  induction sources generalizing taken with
  | nil => exact i.elim0
  | cons label sources ih =>
      cases i using Fin.cases with
      | zero => exact ⟨_, rfl, by simpa using isKeyAfter_freeLabel taken label⟩
      | succ i =>
          obtain ⟨key, found, isKey⟩ := ih (taken ++ [freeLabel taken label]) i
          exact ⟨key, found, by simpa [labelsFrom] using isKey⟩

example : labelsFrom [] (["x", "x", "x #2", "x"].map String.toList) =
    ["x", "x #2", "x #2 #2", "x #3"].map String.toList := by
  decide

end Labels

end QueryConditions.Document
