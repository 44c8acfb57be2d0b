import Mathlib.Data.List.Forall2
import Mathlib.Data.Set.Function
import QueryConditions.Proofs.Text.Lines
import QueryConditions.Proofs.Text.Trim

/-!
The columns of a text table. Every row has its bars where the header has them, and cutting a
row there gives its cells back without the blanks at their ends. The header alone says where
that is, so that different conditions never give the same table.
-/

namespace QueryConditions.Table

variable {widths : List Nat} {row other header : List Text} {rows : List (List Text)}
  {width : Nat} {cell : Text} {condition : Condition} {conditions others : List Condition}

section Widths

def Fits : List Nat → List Text → Prop := List.Forall₂ fun width cell => cell.length ≤ width

theorem length_widen (same : row.length = widths.length) :
    (widen widths row).length = widths.length := by
  rw [widen, List.length_zipWith, same, Nat.min_self]

theorem fits_widen_self (same : row.length = widths.length) : Fits (widen widths row) row := by
  induction row generalizing widths with
  | nil =>
      obtain rfl := List.length_eq_zero_iff.1 same.symm
      exact .nil
  | cons cell row ih =>
      cases widths with
      | nil => simp at same
      | cons width widths => exact .cons (Nat.le_max_right _ _) (ih (Nat.succ.inj same))

theorem fits_widen (fits : Fits widths row) (same : other.length = widths.length) :
    Fits (widen widths other) row := by
  induction fits generalizing other with
  | nil => exact .nil
  | cons fit _ ih =>
      cases other with
      | nil => simp at same
      | cons cell other =>
          exact .cons (Nat.le_trans fit (Nat.le_max_left _ _)) (ih (Nat.succ.inj same))

theorem fits_foldl (fits : Fits widths row) (same : ∀ other ∈ rows, other.length = widths.length) :
    Fits (rows.foldl widen widths) row := by
  induction rows generalizing widths with
  | nil => exact fits
  | cons first rest ih =>
      have first_same := same first List.mem_cons_self
      refine ih (fits_widen fits first_same) fun other member => ?_
      rw [length_widen first_same]
      exact same other (List.mem_cons_of_mem first member)

theorem fits_of_mem (member : row ∈ rows) (same : ∀ other ∈ rows, other.length = widths.length) :
    Fits (rows.foldl widen widths) row := by
  induction rows generalizing widths with
  | nil => simp at member
  | cons first rest ih =>
      have first_same := same first List.mem_cons_self
      have later : ∀ other ∈ rest, other.length = (widen widths first).length := by
        intro other inside
        rw [length_widen first_same]
        exact same other (List.mem_cons_of_mem first inside)
      rw [List.foldl_cons]
      rcases List.mem_cons.1 member with rfl | inside
      · exact fits_foldl (fits_widen_self first_same) later
      · exact ih inside later

theorem fits_headers (conditions : List Condition) :
    Fits (Table.widths (conditions.map cells)) headers := by
  have same : ∀ other ∈ conditions.map cells, other.length = (headers.map List.length).length := by
    intro other member
    obtain ⟨condition, _, rfl⟩ := List.mem_map.1 member
    rfl
  have own : Fits (headers.map List.length) headers :=
    List.forall₂_map_left_iff.2 (List.forall₂_same.2 fun _ _ => Nat.le_refl _)
  exact fits_foldl own same

theorem fits_cells (member : condition ∈ conditions) :
    Fits (Table.widths (conditions.map cells)) (cells condition) := by
  refine fits_of_mem (List.mem_map_of_mem member) fun other inside => ?_
  obtain ⟨condition, _, rfl⟩ := List.mem_map.1 inside
  rfl

end Widths

section Rows

theorem length_spaced_pad (fit : cell.length ≤ width) :
    (spaced (pad width cell)).length = width + 2 := by
  simp only [spaced, pad, List.length_cons, List.length_append, List.length_replicate,
    List.length_nil]
  omega

theorem all_isBlank_replicate (n : Nat) : (List.replicate n ' ').all isBlank = true := by
  rw [List.all_replicate]
  simp [show isBlank ' ' = true by decide]

theorem trimEnd_pad_append (width : Nat) (cell : Text) :
    Text.trimEnd (pad width cell ++ [' ']) = Text.trimEnd cell := by
  rw [trimEnd_append_blanks (by decide), pad, trimEnd_append_blanks (all_isBlank_replicate _)]

def laid (widths : List Nat) (row : List Text) : Text :=
  ['|'].intercalate ((List.zipWith pad widths row).map spaced)

theorem laid_singleton (width : Nat) (cell : Text) :
    laid [width] [cell] = spaced (pad width cell) := by
  simp [laid]

theorem laid_cons (width next : Nat) (widths : List Nat) (cell following : Text)
    (row : List Text) :
    laid (width :: next :: widths) (cell :: following :: row) =
      spaced (pad width cell) ++ '|' :: laid (next :: widths) (following :: row) := by
  simp [laid, List.intercalate_cons_cons]

theorem trimEnd_laid_cons (width next : Nat) (widths : List Nat) (cell following : Text)
    (row : List Text) :
    Text.trimEnd (laid (width :: next :: widths) (cell :: following :: row)) =
      spaced (pad width cell) ++
        '|' :: Text.trimEnd (laid (next :: widths) (following :: row)) := by
  rw [laid_cons, trimEnd_append_stop (by decide)]

/-- A row of several cells holds a bar, so trimming its end leaves the blank before it. -/
theorem cons_rowText (fits : Fits widths row) (several : 2 ≤ row.length) :
    ' ' :: rowText widths row = Text.trimEnd (laid widths row) := by
  cases fits with
  | nil => simp at several
  | @cons width cell widths row _ fits =>
      cases fits with
      | nil => simp at several
      | @cons next following widths row _ _ =>
          have barred : ∃ rest, [' ', '|', ' '].intercalate
              (List.zipWith pad (width :: next :: widths) (cell :: following :: row)) =
                (pad width cell ++ [' ']) ++ '|' :: rest := by
            simp [List.intercalate_cons_cons]
          obtain ⟨rest, barred⟩ := barred
          rw [laid, intercalate_spaced (by simp), spaced, ← List.cons_append,
            trimEnd_append_blanks (by decide), trimEnd_cons, rowText, barred,
            trimEnd_append_stop (by decide)]
          simp

end Rows

section Cutting

/-- Parts of a text, each but the last of a given length and with one character behind it. -/
def cut : List Nat → Text → List Text
  | [], s => [s]
  | length :: lengths, s => s.take length :: cut lengths (s.drop (length + 1))

def columnLengths (header : Text) : List Nat :=
  ((' ' :: header).splitOn '|').dropLast.map List.length

/-- The cells of a row, cut out where the header has its bars, without blanks at their ends. -/
def cellsUnder (header row : Text) : List Text :=
  (cut (columnLengths header) (' ' :: row)).map fun part => Text.trimEnd part.tail

theorem cut_append {part : Text} {length : Nat} (long : part.length = length)
    (lengths : List Nat) (c : Char) (rest : Text) :
    cut (length :: lengths) (part ++ c :: rest) = part :: cut lengths rest := by
  rw [cut, List.take_left' long, ← List.drop_drop, List.drop_left' long, List.drop_one,
    List.tail_cons]

theorem cut_laid (fits : Fits widths row) (some_cell : row ≠ []) :
    (cut (widths.dropLast.map (· + 2)) (Text.trimEnd (laid widths row))).map
      (fun part => Text.trimEnd part.tail) = row.map Text.trimEnd := by
  induction fits with
  | nil => contradiction
  | @cons width cell widths row fit fits ih =>
      cases fits with
      | nil =>
          rw [laid_singleton]
          simp only [List.dropLast_singleton, List.map_nil, cut, List.map_cons]
          rw [spaced, tail_trimEnd_cons, trimEnd_pad_append, trimEnd_trimEnd]
      | @cons next following widths row _ _ =>
          have later := ih (List.cons_ne_nil following row)
          rw [trimEnd_laid_cons, List.dropLast_cons_cons, List.map_cons,
            cut_append (length_spaced_pad fit), List.map_cons, later, spaced, List.tail_cons,
            trimEnd_pad_append, List.map_cons (l := following :: row)]

def Unbarred (row : List Text) : Prop := ∀ cell ∈ row, '|' ∉ cell

theorem bar_not_mem_spaced_pad (width : Nat) (unbarred : '|' ∉ cell) :
    '|' ∉ spaced (pad width cell) := by
  simp [spaced, pad, unbarred, List.mem_replicate]

theorem splitOn_laid (fits : Fits widths header) (some_cell : header ≠ [])
    (unbarred : Unbarred header) :
    ((Text.trimEnd (laid widths header)).splitOn '|').dropLast.map List.length =
      widths.dropLast.map (· + 2) := by
  induction fits with
  | nil => contradiction
  | @cons width cell widths header fit fits ih =>
      have whole := bar_not_mem_spaced_pad width (unbarred cell List.mem_cons_self)
      cases fits with
      | nil =>
          have trimmed : '|' ∉ Text.trimEnd (spaced (pad width cell)) :=
            fun member => whole ((List.rdropWhile_prefix isBlank _).subset member)
          rw [laid_singleton, List.splitOn_eq_singleton trimmed]
          rfl
      | @cons next following widths row _ _ =>
          have later := ih (List.cons_ne_nil following row)
            fun cell member => unbarred cell (List.mem_cons_of_mem _ member)
          rw [trimEnd_laid_cons, List.splitOn_append_cons_self_of_not_mem whole,
            List.dropLast_cons_of_ne_nil (List.splitOn_ne_nil _ _), List.map_cons, later,
            length_spaced_pad fit, List.dropLast_cons_cons, List.map_cons]

/-- The bars of a header without other bars stand in every row that is laid out with it. -/
theorem bar_of_laid (fits : Fits widths header) (unbarred : Unbarred header)
    (fits' : Fits widths row) {offset : Nat}
    (bar : (Text.trimEnd (laid widths header))[offset]? = some '|') :
    (Text.trimEnd (laid widths row))[offset]? = some '|' := by
  induction fits generalizing row offset with
  | nil => simp [laid, Text.trimEnd] at bar
  | @cons width cell widths header fit fits ih =>
      have whole := bar_not_mem_spaced_pad width (unbarred cell List.mem_cons_self)
      cases fits with
      | nil =>
          rw [laid_singleton] at bar
          exact absurd ((List.rdropWhile_prefix isBlank _).subset (List.mem_of_getElem? bar)) whole
      | @cons next following widths header _ _ =>
          rcases fits' with _ | ⟨fit', _ | ⟨fit'', fits''⟩⟩
          have long := length_spaced_pad fit
          have long' := length_spaced_pad fit'
          rw [trimEnd_laid_cons] at bar ⊢
          -- Within its first cell the header has no bar, and both rows have one right behind it.
          rcases Nat.lt_or_ge offset (width + 2) with inside | behind
          · rw [List.getElem?_append_left (long ▸ inside)] at bar
            exact absurd (List.mem_of_getElem? bar) whole
          · rw [List.getElem?_append_right (long ▸ behind), long] at bar
            rw [List.getElem?_append_right (long' ▸ behind), long']
            cases beyond : offset - (width + 2) with
            | zero => rfl
            | succ beyond' =>
                rw [beyond, List.getElem?_cons_succ] at bar
                rw [List.getElem?_cons_succ]
                exact ih (fun cell member => unbarred cell (List.mem_cons_of_mem _ member))
                  (.cons fit'' fits'') bar

theorem columnLengths_rowText (fits : Fits widths header) (several : 2 ≤ header.length)
    (unbarred : Unbarred header) :
    columnLengths (rowText widths header) = widths.dropLast.map (· + 2) := by
  have some_cell : header ≠ [] := by
    rintro rfl
    simp at several
  rw [columnLengths, cons_rowText fits several, splitOn_laid fits some_cell unbarred]

theorem cellsUnder_rowText (fits : Fits widths header) (unbarred : Unbarred header)
    (fits' : Fits widths row) (several : 2 ≤ row.length) :
    cellsUnder (rowText widths header) (rowText widths row) = row.map Text.trimEnd := by
  have some_cell : row ≠ [] := by
    rintro rfl
    simp at several
  have several' : 2 ≤ header.length := by
    rw [← fits.length_eq, fits'.length_eq]
    exact several
  rw [cellsUnder, columnLengths_rowText fits several' unbarred, cons_rowText fits' several,
    cut_laid fits' some_cell]

theorem bar_of_rowText (fits : Fits widths header) (unbarred : Unbarred header)
    (fits' : Fits widths row) (several : 2 ≤ row.length) {offset : Nat}
    (bar : (rowText widths header)[offset]? = some '|') :
    (rowText widths row)[offset]? = some '|' := by
  have several' : 2 ≤ header.length := by
    rw [← fits.length_eq, fits'.length_eq]
    exact several
  rw [← List.getElem?_cons_succ, cons_rowText fits several'] at bar
  rw [← List.getElem?_cons_succ, cons_rowText fits' several]
  exact bar_of_laid fits unbarred fits' bar

theorem length_splitOn (c : Char) (s : Text) : (s.splitOn c).length = s.count c + 1 := by
  induction s with
  | nil => rfl
  | cons d s ih =>
      rw [List.splitOn_cons_eq_if_modifyHead, List.count_cons]
      split
      · rw [List.length_cons, ih]
      · rw [List.length_modifyHead, ih, Nat.add_zero]

theorem count_bar_rowText (fits : Fits widths header) (several : 2 ≤ header.length)
    (unbarred : Unbarred header) :
    (rowText widths header).count '|' = header.length - 1 := by
  have lengths := congrArg List.length (columnLengths_rowText fits several unbarred)
  rw [columnLengths, List.length_map, List.length_dropLast, length_splitOn, List.length_map,
    List.length_dropLast, fits.length_eq, List.count_cons_of_ne (by decide)] at lengths
  exact lengths

end Cutting

section Breaks

/-- How many line breaks the cells bring into their row. Those at its end are trimmed. -/
def breaks : List Text → Nat
  | [] => 0
  | [cell] => (Text.trimEnd cell).count '\n'
  | cell :: next :: rest => cell.count '\n' + breaks (next :: rest)

theorem count_trimEnd_blank_cons (s : Text) :
    (Text.trimEnd (' ' :: s)).count '\n' = (Text.trimEnd s).count '\n' := by
  rw [trimEnd_cons]
  split
  · next gone =>
      rw [Bool.and_eq_true, List.isEmpty_iff] at gone
      rw [gone.1]
  · rw [List.count_cons_of_ne (by decide)]

theorem count_rowText (fits : Fits widths row) (several : 2 ≤ row.length) :
    (rowText widths row).count '\n' = breaks row := by
  have whole : (Text.trimEnd (laid widths row)).count '\n' = breaks row := by
    clear several
    induction fits with
    | nil => rfl
    | @cons width cell widths row fit fits ih =>
        cases fits with
        | nil =>
            rw [laid_singleton, spaced, count_trimEnd_blank_cons, trimEnd_pad_append, breaks]
        | cons _ _ =>
            rw [trimEnd_laid_cons, List.count_append, List.count_cons_of_ne (by decide), ih, breaks]
            simp [spaced, pad, List.count_replicate]
  rw [← whole, ← cons_rowText fits several, List.count_cons_of_ne (by decide)]

theorem breaks_eq_zero (unbroken : ∀ cell ∈ row, '\n' ∉ cell) : breaks row = 0 := by
  induction row with
  | nil => rfl
  | cons cell row ih =>
      have own := unbroken cell List.mem_cons_self
      cases row with
      | nil =>
          exact List.count_eq_zero.2 fun member =>
            own ((List.rdropWhile_prefix isBlank cell).subset member)
      | cons next row =>
          rw [breaks, List.count_eq_zero.2 own, Nat.zero_add]
          exact ih fun other member => unbroken other (List.mem_cons_of_mem cell member)

end Breaks

section Tables

def headerLine (conditions : List Condition) : Text :=
  rowText (Table.widths (conditions.map cells)) headers

def conditionLine (conditions : List Condition) (condition : Condition) : Text :=
  rowText (Table.widths (conditions.map cells)) (cells condition)

theorem unbarred_headers : Unbarred headers := by
  unfold Unbarred
  decide

theorem render_eq (some_condition : conditions ≠ []) :
    render conditions = line (headerLine conditions) ++
      conditions.flatMap fun condition => line (conditionLine conditions condition) := by
  rw [render, if_neg (by simpa using some_condition)]
  simp only [List.flatMap_cons, List.flatMap_map]
  rfl

theorem cellsUnder_conditionLine (member : condition ∈ conditions) :
    cellsUnder (headerLine conditions) (conditionLine conditions condition) =
      (cells condition).map Text.trimEnd :=
  cellsUnder_rowText (fits_headers conditions) unbarred_headers (fits_cells member)
    (Nat.le_add_left 2 2)

theorem count_conditionLine (member : condition ∈ conditions) :
    (conditionLine conditions condition).count '\n' = breaks (cells condition) :=
  count_rowText (fits_cells member) (Nat.le_add_left 2 2)

theorem unbroken_headerLine (conditions : List Condition) : '\n' ∉ headerLine conditions := by
  have none := count_rowText (fits_headers conditions) (Nat.le_add_left 2 2)
  exact List.count_eq_zero.1 (none.trans (by decide))

theorem isLines_render (some_condition : conditions ≠ [])
    (unbroken : ∀ condition ∈ conditions, breaks (cells condition) = 0) :
    IsLines (render conditions)
      (headerLine conditions :: conditions.map (conditionLine conditions)) := by
  rw [render_eq some_condition, ← List.singleton_append]
  refine (isLines_line (unbroken_headerLine conditions)).append (isLines_map ?_)
  intro condition member
  exact List.count_eq_zero.1 ((count_conditionLine member).trans (unbroken condition member))

theorem cells_injective {first second : Condition} (same : cells first = cells second) :
    first = second := by
  obtain ⟨column, table, operator, value⟩ := first
  obtain ⟨column', table', operator', value'⟩ := second
  simp only [cells, List.cons.injEq, and_true] at same
  obtain ⟨rfl, rfl, token, rfl⟩ := same
  rw [Operator.token_injective token]

def Unbroken (condition : Condition) : Prop := ∀ cell ∈ cells condition, '\n' ∉ cell

def ClearEnded (condition : Condition) : Prop :=
  ∀ cell ∈ cells condition, ∀ c ∈ cell.getLast?, isBlank c = false

instance : Decidable (Unbroken condition) :=
  inferInstanceAs (Decidable (∀ cell ∈ cells condition, '\n' ∉ cell))

instance : Decidable (ClearEnded condition) :=
  decidable_of_iff (∀ cell ∈ cells condition, cell.getLast?.all (!isBlank ·) = true)
    (by simp [ClearEnded, Option.all_eq_true])

theorem map_trimEnd_of_clearEnded (clear : ClearEnded condition) :
    (cells condition).map Text.trimEnd = cells condition := by
  rw [List.map_congr_left fun cell member => trimEnd_of_clear (clear cell member)]
  exact List.map_id _

/-- Conditions are read off their table. -/
theorem map_cells_eq (clear : ∀ condition ∈ conditions, ClearEnded condition) :
    (conditions.map (conditionLine conditions)).map (cellsUnder (headerLine conditions)) =
      conditions.map cells := by
  rw [List.map_map]
  refine List.map_congr_left fun condition member => ?_
  rw [Function.comp_apply, cellsUnder_conditionLine member,
    map_trimEnd_of_clearEnded (clear condition member)]

end Tables

end QueryConditions.Table
