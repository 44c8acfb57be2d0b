import QueryConditions.Condition.Column
import QueryConditions.Condition.Match
import QueryConditions.Query.Alias

/-!
Conditions: a column, the table it belongs to if it is known, an operator and a value.
-/

namespace QueryConditions

structure Condition where
  column : Text
  /-- Empty when the column is not qualified. -/
  table : Text
  operator : Operator
  /-- Empty for operators that take no value. -/
  value : Text
  deriving DecidableEq

namespace Condition

def qualifiedColumn (condition : Condition) : Text :=
  if condition.table.isEmpty then condition.column
  else condition.table ++ '.' :: condition.column

def display (condition : Condition) : Text :=
  let start := condition.qualifiedColumn ++ ' ' :: condition.operator.token
  if condition.operator.isUnary then start else start ++ ' ' :: condition.value

def ofFragment? (aliases : Aliases) (fragment : Text) : Option Condition :=
  (matchOperator? fragment).map fun found =>
    let (qualifier, name) := splitQualified (normalizeColumn found.left)
    { column := name
      table := qualifier.elim [] aliases.resolve
      operator := found.operator
      value := found.right.elim [] stripQuotes }

end Condition

end QueryConditions
