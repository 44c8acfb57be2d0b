import QueryConditions.Text.Basic

/-!
Comparison operators, their written form and the order in which they are tried.
-/

namespace QueryConditions

inductive Operator where
  | le | ge | ltGt | ne | eq | lt | gt
  | like | isIn | notIn | isNull | isNotNull | between
  deriving DecidableEq, Repr

namespace Operator

def priority : List Operator :=
  -- Longer symbols come before the shorter ones that they begin or end with.
  [le, ge, ltGt, ne, eq, lt, gt, like, isIn, notIn, isNull, isNotNull, between]

def parts : Operator → List Text
  | le => ["<=".toList]
  | ge => [">=".toList]
  | ltGt => ["<>".toList]
  | ne => ["!=".toList]
  | eq => ["=".toList]
  | lt => ["<".toList]
  | gt => [">".toList]
  | like => ["LIKE".toList]
  | isIn => ["IN".toList]
  | notIn => ["NOT".toList, "IN".toList]
  | isNull => ["IS".toList, "NULL".toList]
  | isNotNull => ["IS".toList, "NOT".toList, "NULL".toList]
  | between => ["BETWEEN".toList]

def token (op : Operator) : Text := [' '].intercalate op.parts

def isUnary : Operator → Bool
  | isNull | isNotNull => true
  | _ => false

def isSymbolic : Operator → Bool
  | le | ge | ltGt | ne | eq | lt | gt => true
  | _ => false

theorem mem_priority (op : Operator) : op ∈ priority := by cases op <;> decide

theorem token_ne_nil (op : Operator) : op.token ≠ [] := by cases op <;> decide

def ofToken? (token : Text) : Option Operator := priority.find? (·.token = token)

theorem ofToken?_token (op : Operator) : ofToken? op.token = some op := by
  cases op <;> decide

theorem token_injective {first second : Operator} (same : first.token = second.token) :
    first = second := by
  have found := ofToken?_token first
  rw [same, ofToken?_token] at found
  exact (Option.some.inj found).symm

/-- The letters whose capital is an ASCII letter; other characters stay. -/
def capital (c : Char) : Char :=
  if c = '\u0131' then 'I' else if c = '\u017f' then 'S' else c.toUpper

def ofSpelling? (s : Text) : Option Operator :=
  ofToken? ([' '].intercalate ((Text.words s).map (·.map capital)))

end Operator

inductive OperatorError where
  | unknown (spelling : Text)
  deriving DecidableEq

def OperatorError.message : OperatorError → Text
  | .unknown spelling => "Invalid operator: ".toList ++ spelling

def Operator.parse (s : Text) : Except OperatorError Operator :=
  match Operator.ofSpelling? s with
  | some op => .ok op
  | none => .error (.unknown s)

end QueryConditions
