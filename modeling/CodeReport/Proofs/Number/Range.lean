import CodeReport.Number.Decimal
import CodeReport.Proofs.Number.Integers
import Mathlib.Tactic.Ring

/-!
# Where the finite values end

A quotient is rounded to an infinity from a certain bound on: half a unit beyond the
greatest finite value. The bound itself is as near to the next value, which is none of
the format, and the tie goes there, since the last bit of the greatest value is 1.

A decimal literal is compared with the bound as it stands, without a quotient being
made of it. Literals with so many digits before the point, or so many zeros behind it,
that no power of ten is built for them lie far on either side of the bound.

Natural numbers of at most 300 digits lie before it, so their percentages are those of
the values nearest to them.
-/

namespace CodeReport

namespace Binary64

/-- The least number that is rounded to an infinity. The greatest finite value is
`(2 ^ 53 - 1) * 2 ^ 971`. -/
def infiniteFrom : Nat := (2 ^ 54 - 1) * 2 ^ 970

/-- A great power of two as a product of two powers, none of which is computed. -/
theorem two_pow_split (whole first second : Nat) (sum : first + second = whole) :
    2 ^ whole = 2 ^ first * 2 ^ second := by
  rw [← sum, Nat.pow_add]

/-- The bound has 1024 bits. -/
theorem infiniteFrom_bits : 2 ^ 1023 ≤ infiniteFrom ∧ infiniteFrom ≤ 2 ^ 1024 := by
  have low := two_pow_split 1023 53 970 rfl
  have high := two_pow_split 1024 54 970 rfl
  rw [infiniteFrom, low, high]
  exact ⟨Nat.mul_le_mul_right _ (by decide), Nat.mul_le_mul_right _ (by decide)⟩

section Quotients

variable (numerator denominator : Nat) (positive : 0 < denominator)

include positive in
/-- The order of a quotient is at least that of a power of two below it. -/
theorem le_binaryOrder_iff (nonzero : 0 < numerator) (order : Nat) :
    (order : Int) ≤ binaryOrder numerator denominator ↔ 2 ^ order * denominator ≤ numerator := by
  have numeratorLow : 2 ^ numerator.log2 ≤ numerator := Nat.log2_self_le nonzero.ne'
  have numeratorHigh : numerator < 2 ^ (numerator.log2 + 1) := Nat.lt_log2_self
  have denominatorLow : 2 ^ denominator.log2 ≤ denominator := Nat.log2_self_le positive.ne'
  have denominatorHigh : denominator < 2 ^ (denominator.log2 + 1) := Nat.lt_log2_self
  rw [binaryOrder]
  rcases lt_trichotomy ((numerator.log2 : Int) - denominator.log2) order with below | exact | above
  · -- The estimate is never too small.
    have beyond : numerator < 2 ^ order * denominator := by
      calc numerator
          < 2 ^ (numerator.log2 + 1) := numeratorHigh
        _ ≤ 2 ^ (order + denominator.log2) := Nat.pow_le_pow_right Nat.two_pos (by omega)
        _ = 2 ^ order * 2 ^ denominator.log2 := Nat.pow_add _ _ _
        _ ≤ 2 ^ order * denominator := Nat.mul_le_mul_left _ denominatorLow
    constructor
    · intro atMost
      split at atMost
      · omega
      · omega
    · intro within
      omega
  · have up : ((numerator.log2 : Int) - denominator.log2).toNat = order := by omega
    have down : (-((numerator.log2 : Int) - denominator.log2)).toNat = 0 := by omega
    rw [up, down, Nat.shiftLeft_eq, Nat.shiftLeft_zero, Nat.mul_comm denominator]
    split
    · omega
    · omega
  · -- The estimate is too great by one at most.
    have within : 2 ^ order * denominator ≤ numerator := by
      calc 2 ^ order * denominator
          ≤ 2 ^ order * 2 ^ (denominator.log2 + 1) := Nat.mul_le_mul_left _ denominatorHigh.le
        _ = 2 ^ (order + (denominator.log2 + 1)) := (Nat.pow_add _ _ _).symm
        _ ≤ 2 ^ numerator.log2 := Nat.pow_le_pow_right Nat.two_pos (by omega)
        _ ≤ numerator := numeratorLow
    constructor
    · exact fun _ => within
    · intro _
      split
      · omega
      · omega

/-- Rounding goes up to the next natural number at most. -/
theorem divideNearest_le : divideNearest numerator denominator ≤ numerator / denominator + 1 := by
  unfold divideNearest
  dsimp only
  split_ifs <;> omega

include positive in
/-- A quotient is rounded beyond an odd number from half a unit behind it on. -/
theorem lt_divideNearest_iff (number : Nat) (odd : number % 2 = 1) :
    number < divideNearest numerator denominator ↔
      (2 * number + 1) * denominator ≤ 2 * numerator := by
  have divided := Nat.div_add_mod numerator denominator
  have remainder := Nat.mod_lt numerator positive
  have nearest := divideNearest_le numerator denominator
  rw [Nat.add_mul, Nat.one_mul, Nat.mul_assoc, Nat.mul_comm number]
  rcases lt_trichotomy (numerator / denominator) number with below | exact | above
  · have next : denominator * (numerator / denominator + 1) ≤ denominator * number :=
      Nat.mul_le_mul_left _ below
    rw [Nat.mul_add, Nat.mul_one] at next
    omega
  · rw [exact] at divided
    unfold divideNearest
    dsimp only
    rw [exact]
    split_ifs <;> omega
  · have next : denominator * (number + 1) ≤ denominator * (numerator / denominator) :=
      Nat.mul_le_mul_left _ above
    rw [Nat.mul_add, Nat.mul_one] at next
    have least := div_le_divideNearest numerator denominator
    omega

include positive in
/-- A quotient with 53 bits before the point is rounded to the first number with 54 bits from half
a unit before it on. -/
theorem divideNearest_eq_iff (shift : Nat)
    (short : numerator < 2 ^ 53 * (denominator * 2 ^ shift)) :
    divideNearest numerator (denominator <<< shift) = 2 ^ 53 ↔
      (2 ^ 54 - 1) * (denominator * 2 ^ shift) ≤ 2 * numerator := by
  have unit : 0 < denominator * 2 ^ shift := Nat.mul_pos positive (Nat.two_pow_pos shift)
  have whole : numerator / (denominator * 2 ^ shift) < 2 ^ 53 :=
    (Nat.div_lt_iff_lt_mul unit).mpr short
  have nearest := divideNearest_le numerator (denominator * 2 ^ shift)
  have rounded := lt_divideNearest_iff numerator _ unit (2 ^ 53 - 1) (by decide)
  have ones : 2 * (2 ^ 53 - 1) + 1 = 2 ^ 54 - 1 := rfl
  rw [ones] at rounded
  rw [Nat.shiftLeft_eq, ← rounded]
  omega

/-- A value is finite if its exponent is, after a significand of 54 bits was shortened. -/
theorem isFinite_ofRatio_rounded (negative : Bool) (nonzero : 0 < numerator) :
    (ofRatio negative numerator denominator).isFinite = true ↔
      let exponent := max (binaryOrder numerator denominator - 52) leastExponent
      (if divideNearest (numerator <<< (-exponent).toNat) (denominator <<< exponent.toNat) =
          2 ^ 53 then exponent + 1 else exponent) ≤ 971 := by
  have pow : Nat.pow 2 53 = 2 ^ 53 := rfl
  rw [ofRatio, if_neg nonzero.ne', pow]
  dsimp only [greatestExponent]
  split_ifs <;> simp_all [isFinite]

/-- Just below the bound, a quotient is finite unless it is rounded to a significand of 54 bits. -/
theorem isFinite_ofRatio_top (negative : Bool) (positive : 0 < denominator)
    (nonzero : 0 < numerator) (top : binaryOrder numerator denominator = 1023) :
    (ofRatio negative numerator denominator).isFinite = true ↔
      numerator < infiniteFrom * denominator := by
  have beyond : ¬ ((1024 : Nat) : Int) ≤ binaryOrder numerator denominator := by omega
  rw [le_binaryOrder_iff numerator denominator positive nonzero, Nat.not_le] at beyond
  have short : numerator < 2 ^ 53 * (denominator * 2 ^ 971) := by
    rwa [two_pow_split 1024 53 971 rfl, Nat.mul_assoc, Nat.mul_comm _ denominator] at beyond
  have rounded := divideNearest_eq_iff numerator denominator positive 971 short
  have bound : (2 ^ 54 - 1) * (denominator * 2 ^ 971) = 2 * (infiniteFrom * denominator) := by
    rw [infiniteFrom, two_pow_split 971 1 970 rfl]
    generalize 2 ^ 970 = power
    ring
  rw [bound] at rounded
  have exponent : max ((1023 : Int) - 52) leastExponent = 971 := rfl
  have up : (-(971 : Int)).toNat = 0 := rfl
  have down : (971 : Int).toNat = 971 := rfl
  rw [isFinite_ofRatio_rounded numerator denominator negative nonzero, top]
  dsimp only
  rw [exponent, up, down, Nat.shiftLeft_zero]
  split
  · omega
  · omega

/-- A quotient is rounded to a finite value exactly if it lies before the bound. -/
theorem isFinite_ofRatio_iff (negative : Bool) (positive : 0 < denominator) :
    (ofRatio negative numerator denominator).isFinite = true ↔
      numerator < infiniteFrom * denominator := by
  rcases Nat.eq_zero_or_pos numerator with rfl | nonzero
  · have bound : 0 < infiniteFrom := Nat.lt_of_lt_of_le (Nat.two_pow_pos _) infiniteFrom_bits.1
    exact ⟨fun _ => Nat.mul_pos bound positive, fun _ => rfl⟩
  have atLeast := le_binaryOrder_iff numerator denominator positive nonzero
  rcases lt_trichotomy (binaryOrder numerator denominator) 1023 with below | top | above
  · have small : numerator < 2 ^ 1023 * denominator := by
      rw [← Nat.not_le, ← atLeast]
      omega
    have within := Nat.mul_le_mul_right denominator infiniteFrom_bits.1
    rw [isFinite_ofRatio_rounded numerator denominator negative nonzero]
    dsimp only [leastExponent]
    refine iff_of_true ?_ (Nat.lt_of_lt_of_le small within)
    split <;> omega
  · exact isFinite_ofRatio_top numerator denominator negative positive nonzero top
  · have great : 2 ^ 1024 * denominator ≤ numerator := by
      rw [← atLeast]
      omega
    have within := Nat.mul_le_mul_right denominator infiniteFrom_bits.2
    rw [isFinite_ofRatio_rounded numerator denominator negative nonzero]
    dsimp only [leastExponent]
    refine iff_of_false ?_ (Nat.not_lt.mpr (Nat.le_trans within great))
    split <;> omega

end Quotients

end Binary64

namespace Decimal

/-- A number has at most so many digits exactly if it lies before the power of ten with one more. -/
theorem digitCount_le_iff (number count : Nat) :
    digitCount number ≤ count ↔ number < 10 ^ count := by
  rcases Nat.eq_zero_or_pos number with rfl | positive
  · exact iff_of_true (Nat.zero_le count) (Nat.pow_pos (by decide))
  · rw [digitCount, if_neg positive.ne']
    rcases Nat.eq_zero_or_pos count with rfl | counted
    · have some : 0 < (Nat.toDigits 10 number).length :=
        List.length_pos_iff.mpr Nat.toDigits_ne_nil
      rw [Nat.pow_zero]
      omega
    · exact Nat.length_toDigits_le_iff (by decide) counted

/-- A literal that lies before the bound of the finite values, on either side of zero. -/
def IsBounded (literal : Decimal) : Prop :=
  literal.digits * 10 ^ literal.exponent.toNat <
    Binary64.infiniteFrom * 10 ^ (-literal.exponent).toNat

/-- The bound has fewer than 311 digits. -/
theorem infiniteFrom_le : Binary64.infiniteFrom ≤ 10 ^ 310 :=
  Nat.le_trans Binary64.infiniteFrom_bits.2 (by decide +kernel)

variable (literal : Decimal)

/-- A literal far behind the point lies before the bound. -/
theorem isBounded_of_small (small : literal.exponent + digitCount literal.digits < -330) :
    literal.IsBounded := by
  have unscaled : literal.exponent.toNat = 0 := by omega
  have fewer : digitCount literal.digits ≤ (-literal.exponent).toNat := by omega
  have bound : 0 < Binary64.infiniteFrom :=
    Nat.lt_of_lt_of_le (Nat.two_pow_pos _) Binary64.infiniteFrom_bits.1
  rw [IsBounded, unscaled, Nat.pow_zero, Nat.mul_one]
  calc literal.digits
      < 10 ^ (-literal.exponent).toNat := (digitCount_le_iff _ _).mp fewer
    _ ≤ Binary64.infiniteFrom * 10 ^ (-literal.exponent).toNat := Nat.le_mul_of_pos_left _ bound

/-- A literal with more than 310 digits before the point lies beyond the bound. -/
theorem not_isBounded_of_great (nonzero : literal.digits ≠ 0)
    (great : 310 < literal.exponent + digitCount literal.digits) : ¬ literal.IsBounded := by
  have some : ¬ digitCount literal.digits ≤ 0 := by
    rw [digitCount_le_iff, Nat.pow_zero]
    omega
  have first : ¬ digitCount literal.digits ≤ digitCount literal.digits - 1 := by omega
  rw [digitCount_le_iff, Nat.not_lt] at first
  rw [IsBounded, Nat.not_lt]
  calc Binary64.infiniteFrom * 10 ^ (-literal.exponent).toNat
      ≤ 10 ^ 310 * 10 ^ (-literal.exponent).toNat := Nat.mul_le_mul_right _ infiniteFrom_le
    _ = 10 ^ (310 + (-literal.exponent).toNat) := (pow_add 10 310 _).symm
    _ ≤ 10 ^ (digitCount literal.digits - 1 + literal.exponent.toNat) :=
      Nat.pow_le_pow_right (by decide) (by omega)
    _ = 10 ^ (digitCount literal.digits - 1) * 10 ^ literal.exponent.toNat := pow_add 10 _ _
    _ ≤ literal.digits * 10 ^ literal.exponent.toNat := Nat.mul_le_mul_right _ first

/-- A literal denotes a finite value exactly if it lies before the bound. -/
theorem isFinite_toBinary64_iff : literal.toBinary64.isFinite = true ↔ literal.IsBounded := by
  have zeros (negative : Bool) : (Binary64.ofRatio negative 0 1).isFinite = true := rfl
  have power : 0 < 10 ^ (-literal.exponent).toNat := Nat.pow_pos (by decide)
  rw [toBinary64]
  by_cases none : literal.digits = 0
  · rw [if_pos (by simp [none])]
    refine iff_of_true (zeros _) ?_
    rw [IsBounded, none, Nat.zero_mul]
    exact Nat.mul_pos (Nat.lt_of_lt_of_le (Nat.two_pow_pos _) Binary64.infiniteFrom_bits.1) power
  · by_cases small : literal.exponent + digitCount literal.digits < -330
    · rw [if_pos (by simp [small])]
      exact iff_of_true (zeros _) (isBounded_of_small literal small)
    · rw [if_neg (by simp [none, small])]
      by_cases great : 310 < literal.exponent + digitCount literal.digits
      · rw [if_pos great]
        exact iff_of_false Bool.false_ne_true (not_isBounded_of_great literal none great)
      · rw [if_neg great]
        exact Binary64.isFinite_ofRatio_iff _ _ _ power

/-- A literal of at most 310 digits without point and exponent denotes the value nearest to the
natural number that it writes. -/
theorem toBinary64_natural {number count : Nat} (short : number < 10 ^ count)
    (few : count ≤ 310) : toBinary64 ⟨false, number, 0⟩ = Binary64.ofInt number := by
  have digits : digitCount number ≤ count := (digitCount_le_iff number count).mpr short
  have integer : Binary64.ofInt number = Binary64.ofRatio false number 1 := rfl
  rw [integer, toBinary64]
  dsimp only
  by_cases none : number = 0
  · rw [none]
    rfl
  · have notSmall : ¬ (0 : Int) + digitCount number < -330 := by omega
    have notGreat : ¬ 310 < (0 : Int) + digitCount number := by omega
    have one : Nat.pow 10 (0 : Int).toNat = 1 := rfl
    have one' : Nat.pow 10 (-(0 : Int)).toNat = 1 := rfl
    rw [if_neg (by simp [none]), if_neg notGreat, one, one', Nat.mul_one]

/-- Three decimal digits take no more than ten bits. -/
theorem log2_of_short {number count groups : Nat} (short : number < 10 ^ count)
    (few : count ≤ 3 * groups) : number.log2 < 10 * groups + 1 := by
  have power : 10 ^ (3 * groups) ≤ 2 ^ (10 * groups) := by
    rw [pow_mul, pow_mul]
    exact Nat.pow_le_pow_left (by decide) groups
  rcases Nat.eq_zero_or_pos number with rfl | positive
  · rw [Nat.log2_zero]
    exact Nat.succ_pos _
  · rw [Nat.log2_lt positive.ne']
    calc number
        < 10 ^ count := short
      _ ≤ 10 ^ (3 * groups) := Nat.pow_le_pow_right (by decide) few
      _ ≤ 2 ^ (10 * groups) := power
      _ ≤ 2 ^ (10 * groups + 1) := Nat.pow_le_pow_right (by decide) (Nat.le_succ _)

end Decimal

/-- The value nearest to a natural number of at most 300 digits is finite, with the percentage of
the number. -/
theorem Binary64.percentage?_short {number count : Nat} (short : number < 10 ^ count)
    (few : count ≤ 300) :
    (Binary64.ofInt number).isFinite = true ∧
      (Binary64.ofInt number).percentage? = some (min 100 number) := by
  have bits : number.log2 < 10 * 100 + 1 := Decimal.log2_of_short short few
  have kept : (number : Int).natAbs.log2 < 1023 := Nat.lt_trans bits (by decide)
  obtain ⟨finite, percentage⟩ := Binary64.percentage?_ofInt number kept
  refine ⟨finite, percentage.trans (congrArg some ?_)⟩
  omega

end CodeReport
