import Mathlib.Algebra.GroupWithZero.Nat
import QueryConditions.Output.Table

/-!
Texts made of lines, and lines made of cells. Each line is ended by a line break and holds none
of its own, so a text is made of lines in one way only. Cells stand between bars, with a blank
on either side.
-/

namespace QueryConditions

variable {α : Type} {s t : Text} {lines others : List Text}

section Lines

def IsLines (s : Text) (lines : List Text) : Prop :=
  s = lines.flatMap line ∧ ∀ l ∈ lines, '\n' ∉ l

theorem isLines_line (unbroken : '\n' ∉ s) : IsLines (line s) [s] :=
  ⟨by simp, by simpa using unbroken⟩

theorem IsLines.append (first : IsLines s lines) (second : IsLines t others) :
    IsLines (s ++ t) (lines ++ others) := by
  obtain ⟨rfl, unbroken⟩ := first
  obtain ⟨rfl, unbroken'⟩ := second
  refine ⟨by rw [List.flatMap_append], fun l member => ?_⟩
  rcases List.mem_append.1 member with inside | inside
  · exact unbroken l inside
  · exact unbroken' l inside

theorem isLines_flatMap {items : List α} {text : α → Text} {linesOf : α → List Text}
    (each : ∀ item ∈ items, IsLines (text item) (linesOf item)) :
    IsLines (items.flatMap text) (items.flatMap linesOf) := by
  induction items with
  | nil => exact ⟨rfl, by simp⟩
  | cons item rest ih =>
      have later := ih fun other member => each other (List.mem_cons_of_mem item member)
      exact (each item List.mem_cons_self).append later

theorem isLines_map {items : List α} {text : α → Text}
    (unbroken : ∀ item ∈ items, '\n' ∉ text item) :
    IsLines (items.flatMap fun item => line (text item)) (items.map text) := by
  rw [List.map_eq_flatMap]
  exact isLines_flatMap fun item member => isLines_line (unbroken item member)

theorem IsLines.splitOn (made : IsLines s lines) : s.splitOn '\n' = lines ++ [[]] := by
  obtain ⟨rfl, unbroken⟩ := made
  induction lines with
  | nil => rfl
  | cons first rest ih =>
      have later := ih fun l member => unbroken l (List.mem_cons_of_mem first member)
      have whole := unbroken first List.mem_cons_self
      rw [List.flatMap_cons, line, List.append_assoc, List.singleton_append,
        List.splitOn_append_cons_self_of_not_mem whole, later, List.cons_append]

theorem IsLines.unique (made : IsLines s lines) (made' : IsLines s others) : lines = others :=
  List.append_cancel_right (made.splitOn.symm.trans made'.splitOn)

theorem IsLines.count (made : IsLines s lines) : s.count '\n' = lines.length := by
  obtain ⟨rfl, unbroken⟩ := made
  induction lines with
  | nil => rfl
  | cons first rest ih =>
      have later := ih fun l member => unbroken l (List.mem_cons_of_mem first member)
      have whole := List.count_eq_zero.2 (unbroken first List.mem_cons_self)
      rw [List.flatMap_cons, List.count_append, later, line, List.count_append, whole,
        List.length_cons]
      simp [Nat.add_comm]

/-- Each text ends one line, and one more for each break of its own. -/
theorem count_flatMap_line (items : List α) (text : α → Text) :
    (items.flatMap fun item => line (text item)).count '\n' =
      items.length + (items.map fun item => (text item).count '\n').sum := by
  induction items with
  | nil => rfl
  | cons item rest ih =>
      rw [List.flatMap_cons, List.count_append, ih, line, List.count_append,
        List.count_singleton_self, List.length_cons, List.map_cons, List.sum_cons]
      omega

end Lines

section Cells

def spaced (cell : Text) : Text := ' ' :: (cell ++ [' '])

theorem intercalate_spaced {cells : List Text} (some_cell : cells ≠ []) :
    ['|'].intercalate (cells.map spaced) = spaced ([' ', '|', ' '].intercalate cells) := by
  induction cells with
  | nil => contradiction
  | cons cell rest ih =>
      cases rest with
      | nil => simp
      | cons next rest =>
          rw [List.map_cons, List.map_cons, List.intercalate_cons_cons, ← List.map_cons,
            ih (List.cons_ne_nil next rest), List.intercalate_cons_cons]
          simp [spaced]

theorem not_mem_intercalate {c : Char} {separator : Text} {cells : List Text}
    (apart : c ∉ separator) (absent : ∀ cell ∈ cells, c ∉ cell) :
    c ∉ separator.intercalate cells := by
  induction cells with
  | nil => simp
  | cons cell rest ih =>
      have own := absent cell List.mem_cons_self
      have later := ih fun other member => absent other (List.mem_cons_of_mem cell member)
      cases rest with
      | nil => simpa using own
      | cons next rest =>
          rw [List.intercalate_cons_cons, List.mem_append, List.mem_append]
          exact not_or.2 ⟨not_or.2 ⟨own, apart⟩, later⟩

end Cells

end QueryConditions
