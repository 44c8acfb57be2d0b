import QueryConditions.Output.Document
import QueryConditions.Proofs.Extraction.Characters
import QueryConditions.Proofs.Output.Columns

/-!
The rows of the table for a query. A line break in a cell is written as it is and breaks the
row of its condition, so there is one row to a condition exactly when no cell has a break that
is left when the row's end is trimmed. A query on one line has no such cells.
-/

namespace QueryConditions.Table

variable {conditions : List Condition} {sql : Text}

/-- Below the header there is one line for each condition, and it shows the condition. -/
def ShowsEach (text : Text) (conditions : List Condition) : Prop :=
  ∃ header rows, IsLines text (header :: rows) ∧
    List.Forall₂ (fun row condition =>
      cellsUnder header row = (cells condition).map Text.trimEnd) rows conditions

theorem count_render (some_condition : conditions ≠ []) :
    (render conditions).count '\n' =
      1 + conditions.length + (conditions.map fun condition => breaks (cells condition)).sum := by
  have header := List.count_eq_zero.2 (unbroken_headerLine conditions)
  have each : conditions.map (fun condition => (conditionLine conditions condition).count '\n') =
      conditions.map fun condition => breaks (cells condition) :=
    List.map_congr_left fun condition member => count_conditionLine member
  rw [render_eq some_condition, List.count_append, count_flatMap_line, each, line,
    List.count_append, header, List.count_singleton_self]
  omega

theorem showsEach_iff (some_condition : conditions ≠ []) :
    ShowsEach (render conditions) conditions ↔
      ∀ condition ∈ conditions, breaks (cells condition) = 0 := by
  constructor
  · rintro ⟨header, rows, made, shown⟩ condition member
    have lines := made.count
    rw [count_render some_condition, List.length_cons, shown.length_eq] at lines
    have none : (conditions.map fun condition => breaks (cells condition)).sum = 0 := by omega
    exact List.sum_eq_zero_iff_forall_eq_nat.1 none _ (List.mem_map_of_mem member)
  · intro unbroken
    refine ⟨_, _, isLines_render some_condition unbroken, ?_⟩
    refine List.forall₂_map_left_iff.2 (List.forall₂_same.2 fun condition member => ?_)
    exact cellsUnder_conditionLine member

theorem breaks_of_line (whole : '\n' ∉ sql) {condition : Condition}
    (member : condition ∈ extract sql) : breaks (cells condition) = 0 := by
  have inLine (s : Text) : s.all (· != '\n') = true ↔ '\n' ∉ s := by
    simp only [List.all_eq_true, bne_iff_ne]
    exact ⟨fun all inside => all _ inside rfl, fun absent c inside same => absent (same ▸ inside)⟩
  have words (c : Char) (letter : isWord c = true) : (c != '\n') = true := by
    refine bne_iff_ne.2 fun same => ?_
    rw [same] at letter
    exact absurd letter (by decide)
  obtain ⟨column, table, value⟩ := all_of_mem_extract words (by decide) ((inLine sql).2 whole) member
  refine breaks_eq_zero fun cell inside => ?_
  simp only [cells, List.mem_cons, List.not_mem_nil, or_false] at inside
  rcases inside with rfl | rfl | rfl | rfl
  · exact (inLine _).1 table
  · exact (inLine _).1 column
  · cases condition.operator <;> decide
  · exact (inLine _).1 value

end QueryConditions.Table
