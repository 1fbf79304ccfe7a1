import CodeReport.Number.Decimal

/-!
# Shortest digits

The fewest decimal digits that read back as a given binary64 magnitude. A
decimal reads back as the magnitude when it lies in the interval of reals that
round to it; the ends of the interval belong to it when the significand is
even. On the grid of decimals with one digit, then with two, and so on, only
the two neighbours of the magnitude can lie in the interval, so the first grid
with a neighbour inside holds the shortest digits. Of two neighbours inside,
the nearer is taken, and the even one of two that are equally near.
-/

namespace CodeReport

/-- Digits with a scale: `digits * 10 ^ exponent`. -/
structure ScaledDigits where
  digits : Nat
  exponent : Int
  deriving Repr, DecidableEq

namespace ScaledDigits

/-- The power of ten of the leading digit. -/
def leadingExponent (scaled : ScaledDigits) : Int :=
  scaled.exponent + Decimal.digitCount scaled.digits - 1

/-- The same value with up to `count` zeros at the end of the digits moved to the scale. -/
def dropZeros : (count : Nat) → ScaledDigits → ScaledDigits
  | 0, scaled => scaled
  | count + 1, scaled =>
    if scaled.digits % 10 = 0 then dropZeros count ⟨scaled.digits / 10, scaled.exponent + 1⟩
    else scaled

end ScaledDigits

namespace Binary64

/-- A magnitude with the interval of reals that round to it, as numerators over one denominator. -/
structure Interval where
  low : Nat
  value : Nat
  high : Nat
  denominator : Nat
  includesEnds : Bool

namespace Interval

/-- The interval of `significand * 2 ^ exponent`, in quarters of a unit. Below a power of two the
    neighbouring value is only half a unit away. -/
def ofMagnitude (significand : Nat) (exponent : Int) : Interval :=
  let shift := (exponent - 2).toNat
  let below := if significand = Nat.pow 2 52 && leastExponent < exponent then 1 else 2
  { low := (4 * significand - below) <<< shift
    value := (4 * significand) <<< shift
    high := (4 * significand + 2) <<< shift
    denominator := 1 <<< (2 - exponent).toNat
    includesEnds := significand % 2 == 0 }

/-- Whether `point * 10 ^ exponent` rounds to the magnitude. -/
def holds (interval : Interval) (point : Nat) (exponent : Int) : Bool :=
  let scaled := point * Nat.pow 10 exponent.toNat * interval.denominator
  let scale := Nat.pow 10 (-exponent).toNat
  if interval.includesEnds then interval.low * scale ≤ scaled && scaled ≤ interval.high * scale
  else interval.low * scale < scaled && scaled < interval.high * scale

/-- The power of ten of the leading digit of a positive magnitude. -/
def decimalOrder (interval : Interval) : Int :=
  if interval.denominator ≤ interval.value then
    (Decimal.digitCount (interval.value / interval.denominator) : Int) - 1
  else
    let ceiling := (interval.denominator + interval.value - 1) / interval.value
    0 - (Decimal.digitCount (ceiling - 1) : Int)

/-- The neighbour of the magnitude on the grid of multiples of `10 ^ exponent` that rounds to it:
    the nearer of two. -/
def onGrid? (interval : Interval) (exponent : Int) : Option ScaledDigits :=
  let numerator := interval.value * Nat.pow 10 (-exponent).toNat
  let unit := interval.denominator * Nat.pow 10 exponent.toNat
  let floor := numerator / unit
  let nearest := divideNearest numerator unit
  if interval.holds nearest exponent then some ⟨nearest, exponent⟩
  else
    let other := if nearest = floor then floor + 1 else floor
    if interval.holds other exponent then some ⟨other, exponent⟩ else none

/-- The first grid of at most `count` more digits with a neighbour that rounds to the magnitude. -/
def search (interval : Interval) : (count : Nat) → (exponent : Int) → Option ScaledDigits
  | 0, _ => none
  | count + 1, exponent =>
    match interval.onGrid? exponent with
    | some found => some found
    | none => search interval count (exponent - 1)

end Interval

/-- The shortest digits of a finite magnitude; zero is the single digit 0. Seventeen digits always
    suffice. -/
def shortestDigits (significand : Nat) (exponent : Int) : ScaledDigits :=
  if significand = 0 then ⟨0, 0⟩
  else
    let interval := Interval.ofMagnitude significand exponent
    match interval.search 17 interval.decimalOrder with
    | some found => found.dropZeros 17
    | none => ⟨0, 0⟩

end Binary64

end CodeReport
