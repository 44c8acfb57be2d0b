import QueryConditions.Output.Source

/-!
Conditions as a table of text. Columns are as wide as their widest cell, in
characters, and no line ends in blanks.
-/

namespace QueryConditions

def line (text : Text) : Text := text ++ ['\n']

namespace Table

def headers : List Text := ["TABLE", "COLUMN", "OPERATOR", "VALUE"].map String.toList

def cells (condition : Condition) : List Text :=
  [condition.table, condition.column, condition.operator.token, condition.value]

def widen (widths : List Nat) (row : List Text) : List Nat :=
  List.zipWith (fun width cell => max width cell.length) widths row

def widths (rows : List (List Text)) : List Nat := rows.foldl widen (headers.map List.length)

def pad (width : Nat) (cell : Text) : Text := cell ++ List.replicate (width - cell.length) ' '

def rowText (widths : List Nat) (row : List Text) : Text :=
  Text.trimEnd ([' ', '|', ' '].intercalate (List.zipWith pad widths row))

def render (conditions : List Condition) : Text :=
  if conditions.isEmpty then line "(no conditions)".toList
  else
    let rows := conditions.map cells
    (headers :: rows).flatMap fun row => line (rowText (widths rows) row)

end Table

end QueryConditions
