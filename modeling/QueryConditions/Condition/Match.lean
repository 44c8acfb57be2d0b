import QueryConditions.Condition.Operator
import QueryConditions.Text.Keyword
import QueryConditions.Text.Pattern

/-!
The operator of a condition and the texts on its two sides. An operator between
blanks is looked for first; only where there is none does a symbol count that
touches its operands. Among operators the order of priority decides, and an
operator counts where it occurs first.
-/

namespace QueryConditions

structure OperatorMatch where
  operator : Operator
  left : Text
  /-- Absent for operators that take no value. -/
  right : Option Text
  deriving DecidableEq

def spacedOperand? (op : Operator) (after : Text) : Option (Option Text) :=
  if op.isUnary then
    if wordEnds after then some none else none
  else
    match after with
    | gap :: _ :: _ => if isBlank gap then some (some (Text.trim after)) else none
    | _ => none

def spacedOperator (op : Operator) : Pattern (Option Text) where
  read? before s :=
    -- From inside of the blanks there is nothing to find that is not found from their beginning.
    if before.all (!isBlank ·) then do
      let after ← keywords? op.parts (← blanks? s)
      let right ← spacedOperand? op after
      return (right, after)
    else none
  follows found := by
    split at found
    · simp only [Option.bind_eq_bind, Option.bind_eq_some_iff, Option.pure_def,
        Option.some.injEq, Prod.mk.injEq] at found
      obtain ⟨start, gap, after, read, _, _, _, rfl⟩ := found
      exact (blanks?_follows gap).trans (keywords?_suffix read)
    · simp at found

def symbol? : Text → Text → Option Text
  | [], s => some s
  | _ :: _, [] => none
  | sign :: symbol, c :: s => if sign = c then symbol? symbol s else none

def mayPrecedeSymbol (c : Char) : Bool :=
  !isBlank c && c != '<' && c != '>' && c != '!' && c != '='

def mayFollowSymbol (c : Char) : Bool := !isBlank c && c != '<' && c != '>' && c != '='

def compactOperand? (after : Text) : Option Text :=
  match Text.skipBlanks after with
  | c :: rest => if mayFollowSymbol c then some (Text.trimEnd (c :: rest)) else none
  | [] => none

theorem symbol?_suffix {symbol s rest : Text} (found : symbol? symbol s = some rest) :
    rest <:+ s := by
  induction symbol generalizing s with
  | nil => cases found; exact List.suffix_rfl
  | cons sign symbol ih =>
      cases s with
      | nil => simp [symbol?] at found
      | cons c tail =>
          simp only [symbol?] at found
          split at found
          · exact (ih found).trans (List.suffix_cons c tail)
          · simp at found

theorem symbol?_follows {symbol s rest : Text} (some_sign : symbol ≠ [])
    (found : symbol? symbol s = some rest) : Follows rest s := by
  cases symbol with
  | nil => exact absurd rfl some_sign
  | cons sign symbol =>
      cases s with
      | nil => simp [symbol?] at found
      | cons c tail =>
          simp only [symbol?] at found
          split at found
          · exact (follows_cons c tail).trans (symbol?_suffix found)
          · simp at found

/-- A symbol with or without blanks around it, its operands free of signs where they meet it. -/
def compactOperator (op : Operator) : Pattern Text where
  read? before s :=
    if before.any mayPrecedeSymbol then do
      let after ← symbol? op.token (Text.skipBlanks s)
      let right ← compactOperand? after
      return (right, after)
    else none
  follows found := by
    split at found
    · simp only [Option.bind_eq_bind, Option.bind_eq_some_iff, Option.pure_def,
        Option.some.injEq, Prod.mk.injEq] at found
      obtain ⟨after, read, _, _, _, rfl⟩ := found
      exact follows_of_suffix (skipBlanks_suffix _)
        (symbol?_follows (Operator.token_ne_nil _) read)
    · simp at found

def spacedMatch? (fragment : Text) (op : Operator) : Option OperatorMatch :=
  match fragment with
  | [] => none
  -- The first character is never one of the blanks before the operator.
  | c :: tail =>
      ((spacedOperator op).find? none tail).map fun (left, right, _) =>
        ⟨op, Text.trim (c :: left), right⟩

def compactMatch? (fragment : Text) (op : Operator) : Option OperatorMatch :=
  if op.isSymbolic then
    ((compactOperator op).find? none fragment).map fun (left, right, _) =>
      ⟨op, Text.trim left, some right⟩
  else none

def matchOperator? (fragment : Text) : Option OperatorMatch :=
  (Operator.priority.findSome? (spacedMatch? fragment)).or
    (Operator.priority.findSome? (compactMatch? fragment))

end QueryConditions
