/-!
Floating-point numbers of 64 bits without sign, as exact values: a mantissa below
2^53 times a power of two. Arithmetic is exact and then rounded once to the nearest
value, a tie going to the even mantissa.
-/

namespace QueryConditions

def Binary64.mantissaEnd : Nat := 0x20000000000000

def Binary64.leastFull : Nat := 0x10000000000000

/-- Only at the least exponent may a mantissa have fewer than 53 binary digits. -/
def Binary64.Canonical (mantissa : Nat) (exponent : Int) : Prop :=
  mantissa < mantissaEnd ∧ -1074 ≤ exponent ∧ exponent ≤ 971 ∧
    (leastFull ≤ mantissa ∨ exponent = -1074)
  deriving Decidable

structure Binary64 where
  mantissa : Nat
  exponent : Int
  canonical : Binary64.Canonical mantissa exponent
  deriving DecidableEq

def tenTo (exponent : Nat) : Nat := Nat.pow 10 exponent

/-- The nearest integer to a quotient, of two the even one. -/
def roundDiv (num den : Nat) : Nat :=
  let quotient := num / den
  let twice := 2 * (num % den)
  if twice < den then quotient
  else if den < twice then quotient + 1
  else quotient + quotient % 2

namespace Binary64

def zero : Binary64 := ⟨0, -1074, by decide⟩

def isZero (x : Binary64) : Bool := x.mantissa == 0

def ofPair? (mantissa : Nat) (exponent : Int) : Option Binary64 :=
  if canonical : Canonical mantissa exponent then some ⟨mantissa, exponent, canonical⟩ else none

def scaleOf (num den : Nat) : Int :=
  let guess : Int := (num.log2 : Int) - den.log2 - 52
  -- The guess is right or one too great.
  let low := num <<< (-guess).toNat < den <<< guess.toNat * leastFull
  max (-1074) (if low then guess - 1 else guess)

def ofQuotient? (num den : Nat) : Option Binary64 :=
  if num = 0 then some zero
  else
    let exponent := scaleOf num den
    let mantissa := roundDiv (num <<< (-exponent).toNat) (den <<< exponent.toNat)
    -- Rounding up may take one more binary digit, and then all others are zero.
    if mantissa = mantissaEnd then ofPair? leastFull (exponent + 1)
    else ofPair? mantissa exponent

def num (x : Binary64) : Nat := x.mantissa <<< x.exponent.toNat

def den (x : Binary64) : Nat := 1 <<< (-x.exponent).toNat

def mul? (x y : Binary64) : Option Binary64 := ofQuotient? (x.num * y.num) (x.den * y.den)

def div? (x y : Binary64) : Option Binary64 := ofQuotient? (x.num * y.den) (x.den * y.num)

def powerOfTen? (exponent : Nat) : Option Binary64 := ofQuotient? (tenTo exponent) 1

def divideBy? (x y : Binary64) : Nat → Option Binary64
  | 0 => some x
  | times + 1 => if x.isZero then some x else do (← x.div? y).divideBy? y times

def greatestPower : Nat := 308

def scaleDown? (x : Binary64) (exponent : Nat) : Option Binary64 := do
  -- Beyond the greatest power in several steps, each of which rounds.
  let times := (exponent - 1) / greatestPower
  let smaller ← x.divideBy? (← powerOfTen? greatestPower) times
  smaller.div? (← powerOfTen? (exponent - greatestPower * times))

def scaleUp? (x : Binary64) (exponent : Nat) : Option Binary64 :=
  if exponent ≤ greatestPower then do x.mul? (← powerOfTen? exponent)
  else if x.isZero then some x
  else none

def scale? (x : Binary64) (exponent : Int) : Option Binary64 :=
  if exponent < 0 then x.scaleDown? exponent.natAbs else x.scaleUp? exponent.natAbs

end Binary64

end QueryConditions
