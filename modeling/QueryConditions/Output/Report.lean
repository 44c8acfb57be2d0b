import QueryConditions.Output.Table

/-!
The report on sources: a summary with a row for each, then a section for each with a
row for every condition. A bar inside a cell is escaped and a line break becomes a
blank, so a cell never ends its column or its row.
-/

namespace QueryConditions.Report

def escape (cell : Text) : Text :=
  cell.flatMap fun c => if c = '|' then ['\\', '|'] else if c = '\n' then [' '] else [c]

def row (cells : List Text) : Text :=
  line ("| ".toList ++ " | ".toList.intercalate cells ++ " |".toList)

def blankLine : Text := line []

def tablesCell (source : Source) : Text :=
  if source.tables.isEmpty then "-".toList else ", ".toList.intercalate source.tables

def summaryRow (source : Source) : Text :=
  row [escape source.label, Text.ofNat source.conditions.length, escape (tablesCell source)]

def conditionRow (condition : Condition) : Text :=
  row [escape condition.table, escape condition.column,
    '\x60' :: condition.operator.token ++ ['\x60'], escape condition.value]

def sectionText (source : Source) : Text :=
  blankLine ++ line ("## ".toList ++ source.label) ++ blankLine ++
    if source.conditions.isEmpty then line "_No conditions found._".toList
    else
      line "| Table | Column | Operator | Value |".toList ++
        line "|-------|--------|----------|-------|".toList ++
        source.conditions.flatMap conditionRow

def render (sources : List Source) : Text :=
  line "# sql2conds Extraction Report".toList ++ blankLine ++
    line "## Summary".toList ++ blankLine ++
    line "| Source | Conditions | Tables |".toList ++
    line "|--------|------------|--------|".toList ++
    sources.flatMap summaryRow ++ sources.flatMap sectionText

end QueryConditions.Report
