import QueryConditions.Json.Number
import QueryConditions.Json.Reading

/-!
Literals, numbers and strings of a JSON document.
-/

namespace QueryConditions.Json

def literal : (letters : Text) → (s : Text) → Except Fault (Scanned Unit s)
  | [], s => .ok ⟨(), s, List.suffix_rfl⟩
  | _ :: _, [] => .error ⟨.endOfValue, 0⟩
  | letter :: letters, c :: s =>
      if letter = c then (literal letters s).map (·.pass c)
      else .error (.at .literalExpected (c :: s))

section Number

def isDigit (c : Char) : Bool := '0' ≤ c && c ≤ '9'

def digitValue (c : Char) : Nat := c.toNat - '0'.toNat

/-- Appends digits to a number as long as it stays within the limit; the digits left over
begin with the first that does not fit. -/
def absorb (limit n : Nat) : Text → Nat × Text
  | [] => (n, [])
  | c :: digits =>
      let next := n * 10 + digitValue c
      if next ≤ limit then absorb limit next digits else (n, c :: digits)

def greatestNatural : Nat := 0xFFFFFFFFFFFFFFFF

def greatestNegative : Nat := 0x8000000000000000

def greatestExponent : Nat := 0x7FFFFFFF

structure Numeral where
  significand : Nat
  exponent : Int

def Numeral.float? (numeral : Numeral) (below : Bool) : Option Number := do
  let significand ← Binary64.ofQuotient? numeral.significand 1
  return .float below (← significand.scale? numeral.exponent)

def integer? (below : Bool) (digits : Nat) : Option Number :=
  if !below then some (.natural digits)
  else if 0 < digits && digits ≤ greatestNegative then some (.negative digits)
  else Numeral.float? ⟨digits, 0⟩ below

theorem dropDigits_suffix (s : Text) : s.dropWhile isDigit <:+ s := List.dropWhile_suffix isDigit

theorem dropDigits_suffix_cons (c : Char) (s : Text) : s.dropWhile isDigit <:+ c :: s :=
  (dropDigits_suffix s).trans (List.suffix_cons c s)

variable {s : Text}

def inRange (number : Option Number) (rest : Text) (suffix : rest <:+ s) :
    Except Fault (Scanned Number s) :=
  match number with
  | some number => .ok ⟨number, rest, suffix⟩
  | none => .error (.before .outOfRange rest)

def exponentDigits (below : Bool) (numeral : Numeral) (down : Bool) (s : Text) :
    Except Fault (Scanned Number s) :=
  match s with
  | [] => .error ⟨.endOfValue, 0⟩
  | c :: rest =>
      if isDigit c then
        let (exponent, excess) := absorb greatestExponent 0 (c :: rest.takeWhile isDigit)
        let after := rest.dropWhile isDigit
        if excess.isEmpty then
          let shift : Int := if down then -exponent else exponent
          inRange (Numeral.float? ⟨numeral.significand, numeral.exponent + shift⟩ below)
            after (dropDigits_suffix_cons c rest)
        -- The first digit too many has been read when it turns out not to fit.
        else if numeral.significand ≠ 0 ∧ !down then
          .error (.before .outOfRange (excess.drop 1 ++ after))
        else
          .ok ⟨.float below .zero, after, dropDigits_suffix_cons c rest⟩
      else .error (.at .invalidNumber (c :: rest))

def exponentPart (below : Bool) (numeral : Numeral) (s : Text) :
    Except Fault (Scanned Number s) :=
  match s with
  | '+' :: rest => (exponentDigits below numeral false rest).map (·.pass '+')
  | '-' :: rest => (exponentDigits below numeral true rest).map (·.pass '-')
  | s => exponentDigits below numeral false s

def afterFraction (below : Bool) (numeral : Numeral) (s : Text) :
    Except Fault (Scanned Number s) :=
  match s with
  | [] => inRange (numeral.float? below) [] List.suffix_rfl
  | c :: rest =>
      if c = 'e' || c = 'E' then
        (exponentPart below numeral rest).map (·.pass c)
      else inRange (numeral.float? below) (c :: rest) List.suffix_rfl

def fractionPart (below : Bool) (numeral : Numeral) (s : Text) :
    Except Fault (Scanned Number s) :=
  let digits := s.takeWhile isDigit
  if digits.isEmpty then
    .error (if s.isEmpty then ⟨.endOfValue, 0⟩ else .at .invalidNumber s)
  else
    let (significand, excess) := absorb greatestNatural numeral.significand digits
    -- Digits that do not fit are passed over.
    let places : Int := digits.length - excess.length
    (afterFraction below ⟨significand, numeral.exponent - places⟩ (s.dropWhile isDigit)).map
      (·.widen (dropDigits_suffix s))

/-- What may come after the integer part of a number. Digits of it that do not fit only raise
the power of ten. -/
def afterInteger (below : Bool) (digits : Nat) (excess : Nat) (s : Text) :
    Except Fault (Scanned Number s) :=
  match s with
  | '.' :: rest => (fractionPart below ⟨digits, excess⟩ rest).map (·.pass '.')
  | 'e' :: rest => afterFraction below ⟨digits, excess⟩ ('e' :: rest)
  | 'E' :: rest => afterFraction below ⟨digits, excess⟩ ('E' :: rest)
  | s =>
      if excess = 0 then inRange (integer? below digits) s List.suffix_rfl
      else inRange (Numeral.float? ⟨digits, excess⟩ below) s List.suffix_rfl

def unsignedNumber (below : Bool) (s : Text) : Reading Number s :=
  match s with
  | [] => .error ⟨.endOfValue, 0⟩
  | '0' :: rest =>
      if (rest.head?).any isDigit then .error (.at .invalidNumber rest)
      else (afterInteger below 0 0 rest).map (·.afterChar '0')
  | c :: rest =>
      if isDigit c then
        let (digits, excess) := absorb greatestNatural 0 (c :: rest.takeWhile isDigit)
        (afterInteger below digits excess.length (rest.dropWhile isDigit)).map
          fun number => (number.widen (dropDigits_suffix rest)).afterChar c
      else .error (.at .invalidNumber (c :: rest))

end Number

section Strings

def hexValue? (c : Char) : Option Nat :=
  if isDigit c then some (digitValue c)
  else if 'a' ≤ c && c ≤ 'f' then some (c.toNat - 'a'.toNat + 10)
  else if 'A' ≤ c && c ≤ 'F' then some (c.toNat - 'A'.toNat + 10)
  else none

def hexUnit (s : Text) : Reading Nat s :=
  match s with
  -- All four are taken before the first of them is judged.
  | a :: b :: c :: d :: rest =>
      match hexValue? a, hexValue? b, hexValue? c, hexValue? d with
      | some a', some b', some c', some d' =>
          .ok ⟨((a' * 16 + b') * 16 + c') * 16 + d', rest,
            ⟨⟨[a, b, c, d], rfl⟩, by simp only [List.length_cons]; omega⟩⟩
      | _, _, _, _ => .error ⟨.invalidEscape, Text.byteLength s - 4⟩
  | _ =>
      if Text.byteLength s < 4 then .error ⟨.endOfString, 0⟩
      else .error ⟨.invalidEscape, Text.byteLength s - 4⟩

def isLeading (unit : Nat) : Bool := 0xD800 ≤ unit && unit ≤ 0xDBFF

def isTrailing (unit : Nat) : Bool := 0xDC00 ≤ unit && unit ≤ 0xDFFF

def pairChar (leading trailing : Nat) : Char :=
  Char.ofNat ((leading - 0xD800) * 0x400 + (trailing - 0xDC00) + 0x10000)

def trailingUnit (s : Text) : Reading Nat s :=
  match s with
  | [] => .error ⟨.endOfString, 0⟩
  | ['\\'] => .error ⟨.endOfString, 0⟩
  | '\\' :: 'u' :: rest => do
      let unit ← hexUnit rest
      if isTrailing unit.value then
        return (unit.pass 'u').pass '\\'
      else .error (.before .loneSurrogate unit.rest)
  | '\\' :: rest => .error (.at .hexEscapeUnfinished rest)
  | _ => .error (.at .hexEscapeUnfinished s)

def hexEscape (s : Text) : Reading Char s := do
  let unit ← hexUnit s
  if isTrailing unit.value then .error (.before .loneSurrogate unit.rest)
  else if isLeading unit.value then
    let trailing ← trailingUnit unit.rest
    return unit.andThen (trailing.map (pairChar unit.value))
  else return unit.map Char.ofNat

def escaped (s : Text) : Reading Char s :=
  match s with
  | [] => .error ⟨.endOfString, 0⟩
  | 'u' :: rest => (hexEscape rest).map (·.pass 'u')
  | c :: rest =>
      let plain : Option Char :=
        match c with
        | '"' => some '"'
        | '\\' => some '\\'
        | '/' => some '/'
        | 'b' => some '\x08'
        | 'f' => some '\x0c'
        | 'n' => some '\n'
        | 'r' => some '\r'
        | 't' => some '\t'
        | _ => none
      match plain with
      | some char => .ok (.char c rest char)
      | none => .error (.at .invalidEscape s)

def stringBody (s : Text) : Reading Text s :=
  match s with
  | [] => .error ⟨.endOfString, 0⟩
  | '"' :: rest => .ok (.char '"' rest [])
  | '\\' :: rest => do
      let char ← escaped rest
      let body ← stringBody char.rest
      return (char.andThen (body.map (char.value :: ·))).pass '\\'
  | c :: rest =>
      if c.toNat < 0x20 then .error (.at .controlCharacter (c :: rest))
      else (stringBody rest).map fun body => (body.map (c :: ·)).pass c
termination_by s.length
decreasing_by
  · have := char.follows.2
    simp only [List.length_cons]
    omega
  · simp

end Strings

end QueryConditions.Json
