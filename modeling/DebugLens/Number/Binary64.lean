import DebugLens.Number.Power

/-!
# Binary floating-point numbers

A finite number is a significand below 2^53 times a power of two no smaller than 2^-1074; the
significand is at least 2^52 unless the power is the smallest one. Rounding a ratio of natural
numbers goes to the nearest such number, a tie to the even significand, and is exact integer
arithmetic throughout.
-/
namespace DebugLens

/-- A binary floating-point number of 64 bits. -/
inductive Binary64 where
  /-- A significand times a power of two. -/
  | finite (negative : Bool) (significand : Nat) (exponent : Int)
  /-- An infinity. -/
  | infinite (negative : Bool)
  /-- The result of an undefined operation. -/
  | notANumber
deriving DecidableEq, Repr

namespace Binary64

/-- The smallest significand of 53 bits. -/
def leastSignificand : Nat := 0x10000000000000

/-- Significands are below this number. -/
def significandEnd : Nat := 0x20000000000000

/-- The exponent of the numbers next to zero. -/
def leastExponent : Int := -1074

/-- The exponent of the largest finite numbers. -/
def greatestExponent : Int := 971

/-- The quotient of two natural numbers rounded to nearest, a tie to the even neighbour. -/
def divideToEven (numerator denominator : Nat) : Nat :=
  let quotient := numerator / denominator
  let twice := 2 * (numerator % denominator)
  if twice < denominator then quotient
  else if twice = denominator && quotient % 2 = 0 then quotient
  else quotient + 1

/-- The nearest multiple of a power of two, as the factor of that power. -/
def factorOf (numerator denominator : Nat) (exponent : Int) : Nat :=
  if 0 ≤ exponent then divideToEven numerator (denominator * twoTo exponent.toNat)
  else divideToEven (numerator * twoTo (-exponent).toNat) denominator

/-- The ratio is below 2^53 times a power of two by whole numbers alone. -/
def fitsBelow (bits : Nat) (numerator denominator : Nat) (exponent : Int) : Bool :=
  if 0 ≤ exponent then numerator < twoTo bits * (denominator * twoTo exponent.toNat)
  else numerator * twoTo (-exponent).toNat < twoTo bits * denominator

/-- The exponent at which a positive ratio has a significand of 53 bits, if that is allowed. -/
def exponentOf (numerator denominator : Nat) : Int :=
  let guess : Int := (numerator.log2 : Int) - denominator.log2 - 52
  let exact := if fitsBelow 52 numerator denominator guess then guess - 1 else guess
  max exact leastExponent

/-- The finite number nearest to a ratio, as significand and exponent, or nothing when the
ratio rounds beyond the largest one. -/
def nearest? (numerator denominator : Nat) : Option (Nat × Int) :=
  if numerator = 0 then some (0, leastExponent)
  else
    let exponent := exponentOf numerator denominator
    let significand := factorOf numerator denominator exponent
    let (significand, exponent) :=
      if significand = significandEnd then (leastSignificand, exponent + 1)
      else (significand, exponent)
    if exponent > greatestExponent then none else some (significand, exponent)

/-- The number nearest to a ratio with a sign, or nothing when it is too large to be finite. -/
def ofRatio? (negative : Bool) (numerator denominator : Nat) : Option Binary64 :=
  (nearest? numerator denominator).map fun (significand, exponent) =>
    .finite negative significand exponent

/-- The number nearest to an integer, or nothing when it is too large to be finite. -/
def ofInt? (value : Int) : Option Binary64 := ofRatio? (value < 0) value.natAbs 1

/-- The number nearest to `digits * 10 ^ exponent`; beyond the largest number lies infinity.
Exponents so large or small that the answer is infinity or zero are settled first. -/
def ofDecimal (negative : Bool) (digits : Nat) (exponent : Int) : Binary64 :=
  let size : Int := (Nat.toDigits 10 digits).length
  if digits = 0 || exponent + size < -400 then .finite negative 0 leastExponent
  else if exponent + size > 400 then .infinite negative
  else
    let ratio :=
      if 0 ≤ exponent then ofRatio? negative (digits * tenTo exponent.toNat) 1
      else ofRatio? negative digits (tenTo (-exponent).toNat)
    ratio.getD (.infinite negative)

/-- The number equals zero. -/
def isZero : Binary64 → Bool
  | .finite _ significand _ => significand = 0
  | _ => false

end Binary64

end DebugLens
