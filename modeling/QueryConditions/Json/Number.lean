import QueryConditions.Json.Shortest
import QueryConditions.Text.Basic

/-!
Numbers of a JSON document. Integers of 64 bits are kept exactly; all other numbers
are floating-point.
-/

namespace QueryConditions.Json

inductive Number where
  | natural (n : Nat)
  /-- The integer below zero with this magnitude. -/
  | negative (n : Nat)
  | float (below : Bool) (magnitude : Binary64)
  deriving DecidableEq

def zeros (count : Int) : Text := List.replicate count.toNat '0'

/-- Digits with a point, positional where the first digit's power of ten is at least -5 and
below 16; elsewhere one digit before the point and the power after it. A positional number
has a digit after the point. -/
def decimalText (x : Decimal) : Text :=
  let count : Int := x.digits.length
  if -5 ≤ x.exponent && x.exponent < 16 then
    if x.exponent < 0 then
      ['0', '.'] ++ zeros (-x.exponent - 1) ++ x.digits
    else if count ≤ x.exponent + 1 then
      x.digits ++ zeros (x.exponent + 1 - count) ++ ['.', '0']
    else
      x.digits.take (x.exponent + 1).toNat ++ '.' :: x.digits.drop (x.exponent + 1).toNat
  else
    let fraction := if count = 1 then [] else '.' :: x.digits.drop 1
    let sign := if x.exponent < 0 then '-' else '+'
    x.digits.take 1 ++ fraction ++ 'e' :: sign :: Text.ofNat x.exponent.natAbs

def floatText (below : Bool) (magnitude : Binary64) : Text :=
  let text := if magnitude.isZero then ['0', '.', '0'] else decimalText magnitude.shortest
  if below then '-' :: text else text

def Number.text : Number → Text
  | .natural n => Text.ofNat n
  | .negative n => '-' :: Text.ofNat n
  | .float below magnitude => floatText below magnitude

end QueryConditions.Json
