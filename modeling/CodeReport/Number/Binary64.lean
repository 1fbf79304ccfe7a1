/-!
# Binary floating point with 64 bits

The values of the format, held exactly: a finite value is a sign and a
magnitude `significand * 2 ^ exponent`. Nothing here computes with machine
floats. A quotient of two naturals is rounded once, to the nearest value and a
tie to the even significand, and everything else is integer arithmetic on the
result.

The rounded values are the canonical ones: the significand is below `2 ^ 53`,
the exponent is at least `-1074`, and the significand is at least `2 ^ 52`
unless the exponent is the least one.
-/

namespace CodeReport

/-- A binary64 value. -/
inductive Binary64 where
  /-- No number at all. -/
  | notANumber
  /-- Beyond every finite value, on one side. -/
  | infinity (negative : Bool)
  /-- `significand * 2 ^ exponent`, negated if `negative`. Zero has both signs. -/
  | finite (negative : Bool) (significand : Nat) (exponent : Int)
  deriving Repr, DecidableEq

namespace Binary64

/-- The quotient of two naturals, to the nearest natural, a tie to the even one. -/
def divideNearest (numerator denominator : Nat) : Nat :=
  let floor := numerator / denominator
  let twice := 2 * (numerator % denominator)
  if twice < denominator then floor
  else if denominator < twice then floor + 1
  else floor + floor % 2

/-- The greatest `k` with `2 ^ k * denominator ≤ numerator`, for positive numbers. -/
def binaryOrder (numerator denominator : Nat) : Int :=
  let estimate : Int := (numerator.log2 : Int) - denominator.log2
  if denominator <<< estimate.toNat ≤ numerator <<< (-estimate).toNat then estimate else estimate - 1

/-- The least exponent of a finite value. -/
def leastExponent : Int := -1074

/-- The greatest exponent of a finite value. -/
def greatestExponent : Int := 971

/-- The value nearest to a quotient of naturals, `denominator` positive. A quotient beyond the
    greatest finite value by half a unit or more is infinite. -/
def ofRatio (negative : Bool) (numerator denominator : Nat) : Binary64 :=
  if numerator = 0 then .finite negative 0 leastExponent
  else
    let exponent := max (binaryOrder numerator denominator - 52) leastExponent
    let significand :=
      divideNearest (numerator <<< (-exponent).toNat) (denominator <<< exponent.toNat)
    let rounded : Nat × Int :=
      if significand = Nat.pow 2 53 then (Nat.pow 2 52, exponent + 1) else (significand, exponent)
    if rounded.2 ≤ greatestExponent then .finite negative rounded.1 rounded.2
    else .infinity negative

/-- The value nearest to an integer. -/
def ofInt (value : Int) : Binary64 :=
  ofRatio (decide (value < 0)) value.natAbs 1

/-- Neither infinite nor not a number. -/
def isFinite : Binary64 → Bool
  | .finite .. => true
  | _ => false

/-- A magnitude `significand * 2 ^ exponent` as a quotient of naturals. -/
def ratio (significand : Nat) (exponent : Int) : Nat × Nat :=
  (significand <<< exponent.toNat, 1 <<< (-exponent).toNat)

/-- Whether a magnitude is a whole number. -/
def isWhole (significand : Nat) (exponent : Int) : Bool :=
  let (numerator, denominator) := ratio significand exponent
  numerator % denominator == 0

/-- The whole number nearest to a magnitude, a half upwards. -/
def roundHalfUp (significand : Nat) (exponent : Int) : Nat :=
  let (numerator, denominator) := ratio significand exponent
  (2 * numerator + denominator) / (2 * denominator)

/-- The whole percentage nearest to a value after it is brought into the range from 0 to 100.
    What is no number has no place in that range. -/
def percentage? : Binary64 → Option Nat
  | .notANumber => none
  | .infinity negative => some (if negative then 0 else 100)
  | .finite negative significand exponent =>
    some (if negative then 0 else min 100 (roundHalfUp significand exponent))

/-- Numeric equality: both zeros are equal, and what is no number equals nothing. -/
def sameValue : Binary64 → Binary64 → Bool
  | .notANumber, _ => false
  | _, .notANumber => false
  | .infinity left, .infinity right => left == right
  | .infinity _, .finite .. => false
  | .finite .., .infinity _ => false
  | .finite leftNegative leftSignificand leftExponent,
    .finite rightNegative rightSignificand rightExponent =>
    let (leftNumerator, leftDenominator) := ratio leftSignificand leftExponent
    let (rightNumerator, rightDenominator) := ratio rightSignificand rightExponent
    leftNumerator * rightDenominator == rightNumerator * leftDenominator &&
      (leftNegative == rightNegative || leftSignificand == 0)

end Binary64

end CodeReport
