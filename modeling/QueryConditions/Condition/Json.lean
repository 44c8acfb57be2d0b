import QueryConditions.Condition.Basic
import QueryConditions.Json.Printer
import QueryConditions.Json.Skim
import QueryConditions.Text.Quotation

/-!
Conditions as JSON. A condition is written as an object with its four fields in
order. It is read from such an object, the fields in any order and others passed
over, or from a list of the four values; its operator is a token, or an object whose
one key is the token and whose value is null.
-/

namespace QueryConditions.Condition

open Json

inductive Field where
  | column
  | table
  | operator
  | value
  deriving DecidableEq

def Field.name : Field → Text
  | .column => "column_name".toList
  | .table => "table_name".toList
  | .operator => "operator".toList
  | .value => "value".toList

def Field.all : List Field := [.column, .table, .operator, .value]

def Field.ofName? (name : Text) : Option Field := Field.all.find? (·.name = name)

def toJson (condition : Condition) : Json :=
  .object [
    (Field.column.name, .string condition.column),
    (Field.table.name, .string condition.table),
    (Field.operator.name, .string condition.operator.token),
    (Field.value.name, .string condition.value)]

def listToJson (conditions : List Condition) : Json := .array (conditions.map toJson)

section Reading

variable {α : Type} {s : Text}

def describe : Json → Text
  | .null => "null".toList
  | .bool true => "boolean ".toList ++ inTicks "true".toList
  | .bool false => "boolean ".toList ++ inTicks "false".toList
  | .number (.float below magnitude) =>
      "floating point ".toList ++ inTicks (Number.text (.float below magnitude))
  | .number value => "integer ".toList ++ inTicks value.text
  | .string value => "string ".toList ++ Text.quotation value
  | .array _ => "sequence".toList
  | .object _ => "map".toList

/-- The fault of a value that is not of the type expected. A list or an object is not read. -/
def wrongType (expected : String) (s : Text) : Fault :=
  match s with
  | '[' :: _ => .before (.wrongType "sequence".toList expected.toList) s
  | '\x7b' :: _ => .before (.wrongType "map".toList expected.toList) s
  | _ =>
      match scalar? s with
      | none => .at .valueExpected s
      | some (.error fault) => fault
      | some (.ok read) =>
          .before (.wrongType (describe read.value) expected.toList) read.rest

def readText : (s : Text) → Reading Text s :=
  afterSpace fun
    | [] => .error ⟨.endOfValue, 0⟩
    | '"' :: rest => (stringBody rest).map (·.pass '"')
    | c :: rest => .error (wrongType "a string" (c :: rest))

def operatorOf (token : Parsed Text s) : Reading Operator s :=
  match Operator.ofToken? token.value with
  | some op => .ok (token.map fun _ => op)
  | none =>
      .error (.before (.unknownVariant token.value (Operator.priority.map Operator.token))
        token.rest)

def readNull : (s : Text) → Reading Unit s :=
  afterSpace fun
    | [] => .error ⟨.endOfValue, 0⟩
    | 'n' :: rest => literally "ull".toList () 'n' rest
    | c :: rest => .error (wrongType "unit" (c :: rest))

def objectToken : (s : Text) → Reading Text s :=
  afterSpace fun
    | [] => .error ⟨.endOfObject, 0⟩
    | '"' :: rest => (stringBody rest).map (·.pass '"')
    | '\x7d' :: rest => .error (.at .valueExpected ('\x7d' :: rest))
    | c :: rest => .error (.at .keyExpected (c :: rest))

def closeOperator : (s : Text) → Reading Unit s :=
  afterSpace fun
    | [] => .error ⟨.endOfObject, 0⟩
    | '\x7d' :: rest => .ok (.char '\x7d' rest ())
    | c :: rest => .error (.before .valueExpected (c :: rest))

def readOperator : (s : Text) → Reading Operator s :=
  afterSpace fun
    | [] => .error ⟨.endOfValue, 0⟩
    | '"' :: rest => do
        let token ← stringBody rest
        let op ← operatorOf token
        return op.pass '"'
    | '\x7b' :: rest => do
        let token ← objectToken rest
        let op ← operatorOf token
        let mark ← colon op.rest
        let null ← readNull mark.rest
        let close ← closeOperator null.rest
        return ((op.andThen ((mark.andThen null).andThen close)).map fun _ => op.value).pass '\x7b'
    | c :: rest => .error (.at .valueExpected (c :: rest))

structure Draft where
  column? : Option Text := none
  table? : Option Text := none
  operator? : Option Operator := none
  value? : Option Text := none

def Draft.has (draft : Draft) : Field → Bool
  | .column => draft.column?.isSome
  | .table => draft.table?.isSome
  | .operator => draft.operator?.isSome
  | .value => draft.value?.isSome

def Draft.finish : Draft → Except Field Condition
  | ⟨none, _, _, _⟩ => .error .column
  | ⟨_, none, _, _⟩ => .error .table
  | ⟨_, _, none, _⟩ => .error .operator
  | ⟨_, _, _, none⟩ => .error .value
  | ⟨some column, some table, some operator, some value⟩ =>
      .ok ⟨column, table, operator, value⟩

/-- Where a field that is there twice is reported: after the space behind its name, and after
a brace there. -/
def duplicate (field : Field) (s : Text) : Fault :=
  match skipSpace s with
  | '\x7d' :: rest => .before (.duplicateField field.name) rest
  | rest => .before (.duplicateField field.name) rest

def valued (read : (s : Text) → Reading α s) (s : Text) : Reading α s := do
  let mark ← colon s
  let value ← read mark.rest
  return mark.andThen value

def skimValued (s : Text) : Reading Unit s := do
  let mark ← colon s
  let value ← skimWithin .value [] mark.rest
  return value.after mark.follows

def readEntry (draft : Draft) (name s : Text) : Reading Draft s :=
  match Field.ofName? name with
  | none => (skimValued s).map (·.map fun _ => draft)
  | some field =>
      if draft.has field then .error (duplicate field s)
      else
        match field with
        | .column =>
            (valued readText s).map (·.map fun column => { draft with column? := some column })
        | .table =>
            (valued readText s).map (·.map fun table => { draft with table? := some table })
        | .operator =>
            (valued readOperator s).map (·.map fun op => { draft with operator? := some op })
        | .value =>
            (valued readText s).map (·.map fun value => { draft with value? := some value })

def readObject (s : Text) : Reading Condition s := do
  let draft ← foldEntries readEntry {} s
  match draft.value.finish with
  | .ok condition => return draft.map fun _ => condition
  | .error field => .error (.before (.missingField field.name) draft.rest)

def readItem (read : (s : Text) → Reading α s) (count : Nat) : (s : Text) → Reading α s :=
  afterSpace fun
    | [] => .error ⟨.endOfList, 0⟩
    | c :: rest =>
        if c = ']' then
          .error (.before (.wrongLength count "struct Condition with 4 elements".toList) rest)
        -- No comma comes before the first value.
        else if count = 0 then read (c :: rest)
        else if c = ',' then (afterComma rest).map (·.pass c)
        else .error (.at .commaOrListEndExpected (c :: rest))
where
  afterComma : (s : Text) → Reading α s :=
    afterSpace fun
      | [] => .error ⟨.endOfValue, 0⟩
      | ']' :: rest => .error (.at .trailingComma (']' :: rest))
      | c :: rest => read (c :: rest)

def closeList : (s : Text) → Reading Unit s :=
  afterSpace fun
    | [] => .error ⟨.endOfList, 0⟩
    | ']' :: rest => .ok (.char ']' rest ())
    | ',' :: rest =>
        match skipSpace rest with
        | ']' :: after => .error (.at .trailingComma (']' :: after))
        | after => .error (.at .trailingText after)
    | c :: rest => .error (.at .trailingText (c :: rest))

def readList (s : Text) : Reading Condition s := do
  let column ← readItem readText 0 s
  let table ← readItem readText 1 column.rest
  let op ← readItem readOperator 2 table.rest
  let value ← readItem readText 3 op.rest
  let close ← closeList value.rest
  return (column.andThen (table.andThen (op.andThen (value.andThen close)))).map
    fun _ => ⟨column.value, table.value, op.value, value.value⟩

def readCondition : (s : Text) → Reading Condition s :=
  afterSpace fun
    | [] => .error ⟨.endOfValue, 0⟩
    | '[' :: rest => (readList rest).map (·.pass '[')
    | '\x7b' :: rest => (readObject rest).map (·.pass '\x7b')
    | c :: rest => .error (wrongType "struct Condition" (c :: rest))

end Reading

def parse (document : Text) : Except ReadError Condition := readWhole readCondition document

end QueryConditions.Condition
