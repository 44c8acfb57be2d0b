import Mathlib.Data.List.Forall2
import QueryConditions.Output.Report
import QueryConditions.Proofs.Text.Lines

/-!
The rows of the report. A cell has neither a line break nor a bar without a backslash before it,
and there is a blank between a cell and the bars around it. So every row is one line, the bars
that are not escaped are those between its cells, and its texts are read off it again.
-/

namespace QueryConditions.Report

variable {c : Char} {s t rest : Text} {texts : List Text} {before : Option Char}

section Cells

def asLine (s : Text) : Text := s.map fun c => if c = '\n' then ' ' else c

def unescape : Text → Text
  | '\\' :: '|' :: rest => '|' :: unescape rest
  | c :: rest => c :: unescape rest
  | [] => []

theorem escape_cons (c : Char) (s : Text) : escape (c :: s) =
    (if c = '|' then ['\\', '|'] else if c = '\n' then [' '] else [c]) ++ escape s :=
  List.flatMap_cons

theorem newline_not_mem_escape (s : Text) : '\n' ∉ escape s := by
  induction s with
  | nil => simp [escape]
  | cons c s ih =>
      rw [escape_cons, List.mem_append, not_or]
      refine ⟨?_, ih⟩
      split
      · decide
      · split
        · decide
        · next other => simpa using Ne.symm other

theorem escape_of_plain (no_bar : '|' ∉ s) (unbroken : '\n' ∉ s) : escape s = s := by
  induction s with
  | nil => rfl
  | cons c s ih =>
      rw [List.mem_cons, not_or] at no_bar unbroken
      rw [escape_cons, if_neg (Ne.symm no_bar.1), if_neg (Ne.symm unbroken.1),
        ih no_bar.2 unbroken.2, List.singleton_append]

/-- Before what does not begin with a bar a backslash stands for itself. -/
theorem unescape_cons (c : Char) (apart : c = '\\' → rest.head? ≠ some '|') :
    unescape (c :: rest) = c :: unescape rest := by
  rw [unescape.eq_def]
  split
  · next shape =>
    obtain ⟨rfl, rfl⟩ := List.cons.inj shape
    exact absurd rfl (apart rfl)
  · next shape =>
    obtain ⟨rfl, rfl⟩ := List.cons.inj shape
    rfl
  · contradiction

theorem head?_escape (s : Text) : (escape s).head? ≠ some '|' := by
  cases s with
  | nil => simp [escape]
  | cons c s =>
      rw [escape_cons]
      split
      · simp
      · next other => split <;> simp [other]

theorem unescape_escape (s : Text) : unescape (escape s) = asLine s := by
  induction s with
  | nil => rfl
  | cons c s ih =>
      rw [escape_cons, asLine, List.map_cons]
      split
      · next bar =>
        subst bar
        rw [List.cons_append, List.singleton_append, unescape, ih]
        rfl
      · split
        · rw [List.singleton_append, unescape_cons ' ' fun same => absurd same (by decide), ih]
          rfl
        · rw [List.singleton_append, unescape_cons c fun _ => head?_escape s, ih]
          rfl

end Cells

section Rows

/-- A bar divides a row unless a backslash stands right before it. -/
def divides (before : Option Char) (c : Char) : Bool := c == '|' && before != some '\\'

def dividers (before : Option Char) : Text → Nat
  | [] => 0
  | c :: rest => (if divides before c then 1 else 0) + dividers (some c) rest

def cutAtBars (before : Option Char) : Text → List Text
  | [] => [[]]
  | c :: rest =>
      if divides before c then [] :: cutAtBars (some c) rest
      else (cutAtBars (some c) rest).modifyHead (c :: ·)

theorem length_cutAtBars (before : Option Char) (s : Text) :
    (cutAtBars before s).length = dividers before s + 1 := by
  induction s generalizing before with
  | nil => rfl
  | cons c s ih =>
      rw [cutAtBars, dividers]
      split
      · rw [List.length_cons, ih]
        omega
      · rw [List.length_modifyHead, ih, Nat.zero_add]

theorem cutAtBars_of_ne (other : c ≠ '|') (before : Option Char) (rest : Text) :
    cutAtBars before (c :: rest) = (cutAtBars (some c) rest).modifyHead (c :: ·) := by
  rw [cutAtBars, if_neg (by simp [divides, other])]

theorem cutAtBars_bar (apart : before ≠ some '\\') (rest : Text) :
    cutAtBars before ('|' :: rest) = [] :: cutAtBars (some '|') rest := by
  rw [cutAtBars, if_pos (by simp [divides, apart])]

theorem cutAtBars_escaped (before : Option Char) (rest : Text) :
    cutAtBars before ('\\' :: '|' :: rest) =
      (cutAtBars (some '|') rest).modifyHead ('\\' :: '|' :: ·) := by
  rw [cutAtBars_of_ne (by decide), cutAtBars, if_neg (by decide), List.modifyHead_modifyHead]
  rfl

/-- No bar of an escaped cell divides it from the blank behind it. -/
theorem cutAtBars_escape (before : Option Char) (s rest : Text) :
    cutAtBars before (escape s ++ ' ' :: rest) =
      (cutAtBars (some ' ') rest).modifyHead (escape s ++ ' ' :: ·) := by
  induction s generalizing before with
  | nil => exact cutAtBars_of_ne (by decide) before rest
  | cons c s ih =>
      rw [escape_cons]
      split
      · simp only [List.cons_append, List.nil_append]
        rw [cutAtBars_escaped, ih, List.modifyHead_modifyHead]
        rfl
      · split
        · rw [List.singleton_append, List.cons_append, cutAtBars_of_ne (by decide), ih,
            List.modifyHead_modifyHead]
          rfl
        · next other _ =>
          rw [List.singleton_append, List.cons_append, cutAtBars_of_ne other, ih,
            List.modifyHead_modifyHead]
          rfl

theorem cutAtBars_cell (before : Option Char) (s rest : Text) :
    cutAtBars before (spaced (escape s) ++ '|' :: rest) =
      spaced (escape s) :: cutAtBars (some '|') rest := by
  rw [spaced, List.cons_append, List.append_assoc, List.singleton_append,
    cutAtBars_of_ne (by decide), cutAtBars_escape, cutAtBars_bar (by decide)]
  rfl

theorem cutAtBars_cells (before : Option Char) (some_text : texts ≠ []) :
    cutAtBars before (['|'].intercalate (texts.map (spaced ∘ escape)) ++ ['|']) =
      texts.map (spaced ∘ escape) ++ [[]] := by
  induction texts generalizing before with
  | nil => contradiction
  | cons text rest ih =>
      cases rest with
      | nil =>
          rw [List.map_singleton, List.intercalate_singleton, Function.comp_apply, cutAtBars_cell]
          rfl
      | cons next rest =>
          rw [List.map_cons, List.map_cons, List.intercalate_cons_cons, ← List.map_cons,
            List.append_assoc, List.append_assoc, Function.comp_apply, List.singleton_append,
            cutAtBars_cell, ih _ (List.cons_ne_nil next rest)]
          rfl

/-- A row of these texts: nothing stands outside of its bars, and each text is read off its cell,
which has a blank on either side. -/
def IsRow (row : Text) (texts : List Text) : Prop :=
  ∃ cells : List Text, cutAtBars none row = [] :: (cells.map spaced ++ [[]]) ∧
    cells.map unescape = texts

def rowLine (cells : List Text) : Text := "| ".toList ++ " | ".toList.intercalate cells ++ " |".toList

theorem rowLine_eq {cells : List Text} (some_cell : cells ≠ []) :
    rowLine cells = '|' :: (['|'].intercalate (cells.map spaced) ++ ['|']) := by
  rw [intercalate_spaced some_cell, rowLine, spaced]
  simp

theorem cutAtBars_rowLine (some_text : texts ≠ []) :
    cutAtBars none (rowLine (texts.map escape)) = [] :: ((texts.map escape).map spaced ++ [[]]) := by
  rw [rowLine_eq (by simpa using some_text), cutAtBars_bar (by decide), List.map_map,
    cutAtBars_cells _ some_text]

theorem isRow_rowLine (some_text : texts ≠ []) :
    IsRow (rowLine (texts.map escape)) (texts.map asLine) := by
  refine ⟨texts.map escape, cutAtBars_rowLine some_text, ?_⟩
  rw [List.map_map]
  exact List.map_congr_left fun text _ => unescape_escape text

theorem dividers_rowLine (some_text : texts ≠ []) :
    dividers none (rowLine (texts.map escape)) = texts.length + 1 := by
  have count := length_cutAtBars none (rowLine (texts.map escape))
  rw [cutAtBars_rowLine some_text] at count
  simp only [List.length_cons, List.length_append, List.length_map, List.length_nil] at count
  omega

theorem newline_not_mem_rowLine (texts : List Text) : '\n' ∉ rowLine (texts.map escape) := by
  have cells : '\n' ∉ " | ".toList.intercalate (texts.map escape) := by
    refine not_mem_intercalate (by decide) fun cell member => ?_
    obtain ⟨text, _, rfl⟩ := List.mem_map.1 member
    exact newline_not_mem_escape text
  rw [rowLine, List.mem_append, List.mem_append]
  exact not_or.2 ⟨not_or.2 ⟨by decide, cells⟩, by decide⟩

end Rows

end QueryConditions.Report
