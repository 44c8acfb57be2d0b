import QueryConditions.Json.Binary64

/-!
The shortest decimal that reads back as a given floating-point number. The decimals
that do so lie between the halfway points to the neighbours; the points themselves
count when the mantissa is even. Among the shortest the nearest is taken.
-/

namespace QueryConditions

structure Decimal where
  digits : List Char
  exponent : Int
  deriving DecidableEq, Repr

namespace Binary64

def compareScaled (a : Nat) (i : Int) (b : Nat) (j : Int) : Ordering :=
  compare ((a * tenTo i.toNat) <<< (-j).toNat) ((b * tenTo (-i).toNat) <<< j.toNat)

/-- Whether `digits * 10 ^ power` lies between the halfway points to the neighbours, or is one
of them where the mantissa is even. -/
def readsBack (x : Binary64) (digits : Nat) (power : Int) : Bool :=
  -- Next to a power of two the neighbour below is half as far away as the one above.
  let narrow := x.mantissa == leastFull && x.exponent != -1074
  let low := if narrow then 4 * x.mantissa - 1 else 4 * x.mantissa - 2
  let high := 4 * x.mantissa + 2
  let even := x.mantissa % 2 == 0
  let fromLow := compareScaled digits power low (x.exponent - 2)
  let fromHigh := compareScaled digits power high (x.exponent - 2)
  (fromLow == .gt || even && fromLow == .eq) && (fromHigh == .lt || even && fromHigh == .eq)

def magnitude (x : Binary64) : Int :=
  -- The least value is above 10^-400, so scaling leaves no leading zero.
  (Nat.toDigits 10 (x.num * tenTo 400 / x.den)).length - 400

def candidate? (x : Binary64) (power : Int) : Option Nat :=
  let below := x.num * tenTo (-power).toNat / (x.den * tenTo power.toNat)
  match x.readsBack below power, x.readsBack (below + 1) power with
  | false, false => none
  | true, false => some below
  | false, true => some (below + 1)
  -- Both neighbours read back: the nearer one, or the even one where they are as near.
  | true, true =>
      match compareScaled (2 * below + 1) power (2 * x.mantissa) x.exponent with
      | .gt => some below
      | .lt => some (below + 1)
      | .eq => some (below + below % 2)

def shortest (x : Binary64) : Decimal :=
  let magnitude := x.magnitude
  -- Seventeen digits always suffice.
  let found := (List.range 17).findSome? fun (length : Nat) =>
    let power := magnitude - ((length + 1 : Nat) : Int)
    (x.candidate? power).map fun digits => (digits, power)
  match found with
  | none => ⟨['0'], 0⟩
  | some (digits, power) =>
      let digits := Nat.toDigits 10 digits
      -- Rounding up to a whole power of ten leaves zeros at the end.
      let kept := (digits.reverse.dropWhile (· == '0')).reverse
      ⟨kept, power + digits.length - 1⟩

end Binary64

end QueryConditions
