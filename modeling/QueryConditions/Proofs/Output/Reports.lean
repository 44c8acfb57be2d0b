import Mathlib.Data.List.Induction
import QueryConditions.Proofs.Json.Documents
import QueryConditions.Proofs.Output.Escaping

/-!
The lines of the report. There is a fixed number of them for each source and for each condition,
whatever texts the conditions have, and every row of the summary and of the sections is read back
as the texts that it was made from.
-/

namespace QueryConditions.Report

variable {sources : List Source} {source : Source} {condition : Condition} {texts : List Text}

section Rows

/-- Without repetition, each where it appears first. -/
theorem firstSeen_eq_eraseDups (items : List Text) : Source.firstSeen items = items.eraseDups := by
  induction items using List.reverseRecOn with
  | nil => rfl
  | append_singleton items item ih =>
      rw [Source.firstSeen, List.foldl_append, ← Source.firstSeen, ih, List.eraseDups_append]
      by_cases seen : item ∈ items
      · simp [List.removeAll, List.mem_eraseDups, seen]
      · simp [List.removeAll, List.mem_eraseDups, seen, List.eraseDups_cons]

def summaryTexts (source : Source) : List Text :=
  let tables := ((source.conditions.map Condition.table).filter (!·.isEmpty)).eraseDups
  [source.label, Text.ofNat source.conditions.length,
    if tables = [] then "-".toList else ", ".toList.intercalate tables]

def conditionTexts (condition : Condition) : List Text :=
  [condition.table, condition.column, '\x60' :: condition.operator.token ++ ['\x60'],
    condition.value]

def summaryLine (source : Source) : Text := rowLine ((summaryTexts source).map escape)

def conditionLine (condition : Condition) : Text := rowLine ((conditionTexts condition).map escape)

theorem row_eq_line (cells : List Text) : row cells = line (rowLine cells) := rfl

theorem summaryRow_eq (source : Source) : summaryRow source = line (summaryLine source) := by
  have number : escape (Text.ofNat source.conditions.length) = Text.ofNat source.conditions.length :=
    escape_of_plain (Json.not_mem_ofNat (by decide) _) (Json.not_mem_ofNat (by decide) _)
  rw [summaryRow, row_eq_line, summaryLine, summaryTexts, tablesCell, Source.tables,
    firstSeen_eq_eraseDups]
  simp only [List.map_cons, List.map_nil, number, List.isEmpty_iff]

theorem conditionRow_eq (condition : Condition) :
    conditionRow condition = line (conditionLine condition) := by
  have quoted : escape ('\x60' :: condition.operator.token ++ ['\x60']) =
      '\x60' :: condition.operator.token ++ ['\x60'] := by
    cases condition.operator <;> decide
  rw [conditionRow, row_eq_line, conditionLine, conditionTexts]
  simp only [List.map_cons, List.map_nil, quoted]

end Rows

section Reports

def titleLines : List Text :=
  ["# sql2conds Extraction Report", "", "## Summary", "", "| Source | Conditions | Tables |",
    "|--------|------------|--------|"].map String.toList

def headingLines (source : Source) : List Text :=
  [[], "## ".toList ++ source.label, []] ++
    if source.conditions = [] then ["_No conditions found._".toList]
    else
      ["| Table | Column | Operator | Value |".toList,
        "|-------|--------|----------|-------|".toList]

def sectionLines (source : Source) : List Text :=
  headingLines source ++ source.conditions.map conditionLine

theorem length_headingLines (source : Source) :
    (headingLines source).length = if source.conditions = [] then 4 else 5 := by
  rw [headingLines]
  split <;> rfl

theorem isLines_conditions (conditions : List Condition) :
    IsLines (conditions.flatMap conditionRow) (conditions.map conditionLine) := by
  rw [show conditionRow = fun condition => line (conditionLine condition) from
    funext conditionRow_eq]
  exact isLines_map fun condition _ => newline_not_mem_rowLine (conditionTexts condition)

theorem isLines_sectionText (unbroken : '\n' ∉ source.label) :
    IsLines (sectionText source) (sectionLines source) := by
  have blank : IsLines blankLine [[]] := isLines_line (by simp)
  have heading : IsLines (line ("## ".toList ++ source.label)) ["## ".toList ++ source.label] := by
    refine isLines_line ?_
    rw [List.mem_append]
    exact not_or.2 ⟨by decide, unbroken⟩
  have start := (blank.append heading).append blank
  rw [sectionLines, headingLines, List.append_assoc, sectionText]
  refine start.append ?_
  simp only [List.isEmpty_iff]
  split
  · next none =>
    rw [none]
    exact isLines_line (by decide)
  · refine IsLines.append ?_ (isLines_conditions source.conditions)
    exact (isLines_line (by decide)).append (isLines_line (by decide))

theorem isLines_render (unbroken : ∀ source ∈ sources, '\n' ∉ source.label) :
    IsLines (render sources)
      (titleLines ++ sources.map summaryLine ++ (sources.map sectionLines).flatten) := by
  have title : IsLines (titleLines.flatMap line) titleLines := ⟨rfl, by decide⟩
  have rows : IsLines (sources.flatMap summaryRow) (sources.map summaryLine) := by
    rw [show summaryRow = fun source => line (summaryLine source) from funext summaryRow_eq]
    exact isLines_map fun source _ => newline_not_mem_rowLine (summaryTexts source)
  have sections := isLines_flatMap fun source member => isLines_sectionText (unbroken source member)
  rw [List.flatMap_def (f := sectionLines)] at sections
  exact (title.append rows).append sections

/-- A report has so many lines whatever the texts are, and its rows are read back: a row for each
source with its label, the number of its conditions and the tables that they name, each once and
in the order of their appearance, and a row for each condition. -/
theorem report_rows_read_back (unbroken : ∀ source ∈ sources, '\n' ∉ source.label) :
    ∃ title rows sections,
      IsLines (render sources) (title ++ rows ++ sections.flatten) ∧
      title.length = 6 ∧
      (title ++ rows ++ sections.flatten).length = 6 + sources.length +
        (sources.map fun source =>
          if source.conditions = [] then 4 else 5 + source.conditions.length).sum ∧
      List.Forall₂ (fun row source =>
        dividers none row = 4 ∧ IsRow row ((summaryTexts source).map asLine)) rows sources ∧
      List.Forall₂ (fun lines source => ∃ heading rows, lines = heading ++ rows ∧
        heading.length = (if source.conditions = [] then 4 else 5) ∧
        List.Forall₂ (fun row condition =>
          dividers none row = 5 ∧ IsRow row ((conditionTexts condition).map asLine))
          rows source.conditions) sections sources := by
  refine ⟨titleLines, sources.map summaryLine, sources.map sectionLines, isLines_render unbroken,
    rfl, ?_, ?_, ?_⟩
  · have lengths : (sources.map sectionLines).map List.length = sources.map fun source =>
        if source.conditions = [] then 4 else 5 + source.conditions.length := by
      rw [List.map_map]
      refine List.map_congr_left fun source _ => ?_
      rw [Function.comp_apply, sectionLines, List.length_append, length_headingLines,
        List.length_map]
      split
      · next none => rw [none]; rfl
      · rfl
    rw [List.length_append, List.length_append, List.length_flatten, lengths, List.length_map]
    rfl
  · refine List.forall₂_map_left_iff.2 (List.forall₂_same.2 fun source _ => ?_)
    exact ⟨dividers_rowLine (List.cons_ne_nil _ _), isRow_rowLine (List.cons_ne_nil _ _)⟩
  · refine List.forall₂_map_left_iff.2 (List.forall₂_same.2 fun source _ => ?_)
    refine ⟨headingLines source, source.conditions.map conditionLine, rfl,
      length_headingLines source, ?_⟩
    refine List.forall₂_map_left_iff.2 (List.forall₂_same.2 fun condition _ => ?_)
    exact ⟨dividers_rowLine (List.cons_ne_nil _ _), isRow_rowLine (List.cons_ne_nil _ _)⟩

theorem report_rows_read_back_of_bars :
    let condition : Condition := ⟨"c|d".toList, "t\\".toList, .eq, "x\\|y\nz".toList⟩
    let sources : List Source := [⟨"a|b".toList, [condition]⟩, ⟨"e".toList, []⟩]
    (∀ source ∈ sources, '\n' ∉ source.label) ∧
    ∃ lines, IsLines (render sources) lines ∧ lines.length = 18 ∧
      ∃ row ∈ lines, dividers none row = 5 ∧
        IsRow row (["t\\", "c|d", "\x60=\x60", "x\\|y z"].map String.toList) := by
  intro condition sources
  have unbroken : ∀ source ∈ sources, '\n' ∉ source.label := by decide
  obtain ⟨title, rows, sections, made, _, length, _, shown⟩ := report_rows_read_back unbroken
  refine ⟨unbroken, _, made, length, ?_⟩
  obtain ⟨_, _, ⟨heading, rows', rfl, _, each⟩, _, rfl⟩ := List.forall₂_cons_right_iff.1 shown
  obtain ⟨row, _, own, _, rfl⟩ := List.forall₂_cons_right_iff.1 each
  have texts : (conditionTexts condition).map asLine =
      ["t\\", "c|d", "\x60=\x60", "x\\|y z"].map String.toList := by decide
  exact ⟨row, by simp, own.1, texts ▸ own.2⟩

end Reports

end QueryConditions.Report
