import QueryConditions.Proofs.Text.Stops

/-!
Texts without the occurrences of a pattern. What is erased from a text does not depend on
what stands behind a character at which the pattern stops.
-/

namespace QueryConditions

namespace Pattern

variable {α : Type} {p : Pattern α} {c : Char} {s t rest : Text}

/-- Behind the character the pattern is read as at the beginning of a text. -/
def FreshAfter (p : Pattern α) (c : Char) : Prop := ∀ t, p.read? (some c) t = p.read? none t

@[simp] theorem erase_nil (p : Pattern α) : p.erase [] = [] := by
  rw [erase, scan]
  rfl

theorem erase_of_read? {value : α} (found : p.read? none s = some (value, rest)) :
    p.erase s = p.erase rest := by
  cases s with
  | nil => simp [p.read?_nil] at found
  | cons c s => rw [erase, p.scan_cons_of_some found, List.filterMap_cons, Piece.char?, erase]

theorem erase_cons (fresh : p.FreshAfter c) (absent : p.read? none (c :: s) = none) :
    p.erase (c :: s) = c :: p.erase s := by
  rw [erase, p.scan_cons_of_none absent, p.scan_of_read? (fresh s), List.filterMap_cons,
    Piece.char?, erase]

theorem erase_append_stop (stops : p.StopsAt c) (fresh : p.FreshAfter c) (s t : Text) :
    p.erase (s ++ c :: t) = p.erase s ++ c :: p.erase t := by
  rw [erase, scan_append_stop stops, p.scan_of_read? (fresh t), List.filterMap_append,
    List.filterMap_cons, Piece.char?, erase, erase]

theorem erase_of_absent (absent : ∀ before rest, rest <:+ s → p.read? before rest = none) :
    p.erase s = s := by
  unfold erase
  generalize none = before
  induction s generalizing before with
  | nil =>
      rw [scan]
      rfl
  | cons c s ih =>
      have later := ih (fun before rest suffix =>
        absent before rest (suffix.trans (List.suffix_cons c s))) (some c)
      rw [p.scan_cons_of_none (absent before _ List.suffix_rfl), List.filterMap_cons, later]
      rfl

/-- A text stays as it is only if nothing is found in it. -/
theorem erase_eq_self_iff (p : Pattern α) (s : Text) :
    p.erase s = s ↔ p.find? none s = none := by
  unfold erase
  generalize none = before
  fun_induction p.scan before s with
  | case1 before => simp [find?]
  | case2 before c tail absent ih =>
      simp only [List.filterMap_cons, Piece.char?, List.cons.injEq, true_and, find?, absent,
        Option.map_eq_none_iff]
      exact ih
  | case3 before c tail value rest found ih =>
      apply iff_of_false
      · intro same
        have shorter := (p.follows found).2
        have bound := p.length_chars_le none rest
        simp only [List.filterMap_cons, Piece.char?] at same
        rw [same] at bound
        omega
      · simp [find?, found]

theorem erase_sublist (p : Pattern α) (s : Text) : (p.erase s).Sublist s := by
  unfold erase
  generalize none = before
  fun_induction p.scan before s with
  | case1 => exact List.Sublist.refl _
  | case2 before c tail absent ih =>
      simp only [List.filterMap_cons, Piece.char?]
      exact ih.cons_cons c
  | case3 before c tail value rest found ih =>
      simp only [List.filterMap_cons, Piece.char?]
      exact ih.trans (p.follows found).1.sublist

end Pattern

end QueryConditions
