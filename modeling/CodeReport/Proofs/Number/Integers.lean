import CodeReport.Json.Value
import CodeReport.Number.Places
import Mathlib.Tactic.NormNum

/-!
# Integers as binary64 values

An integer of at most 53 bits is one of the values of the format, so nothing is
rounded when it is turned into one, and its percentage and its decimal text are
those of the integer. A longer integer may be rounded, but it stays beyond every
percentage: what is rounded has 53 bits and a positive exponent.

This goes for integers of up to 1023 bits, which are below the greatest finite value.
All integers that a JSON text can keep are far below it.
-/

namespace CodeReport.Binary64

/-- A magnitude that is a natural number. -/
def IsNatural (significand : Nat) (exponent : Int) (number : Nat) : Prop :=
  (ratio significand exponent).1 = number * (ratio significand exponent).2

/-- The ratio of a magnitude has a positive denominator. -/
theorem ratio_positive (significand : Nat) (exponent : Int) :
    0 < (ratio significand exponent).2 := by
  have power : 1 <<< (-exponent).toNat = 2 ^ (-exponent).toNat := by
    rw [Nat.shiftLeft_eq, Nat.one_mul]
  exact Nat.lt_of_lt_of_eq (Nat.two_pow_pos _) power.symm

/-- A quotient without remainder is not rounded. -/
theorem divideNearest_mul (number denominator : Nat) (positive : 0 < denominator) :
    divideNearest (number * denominator) denominator = number := by
  rw [divideNearest, Nat.mul_mod_left, Nat.mul_div_cancel number positive]
  exact if_pos positive

/-- Rounding changes a quotient to a natural number next to it. -/
theorem div_le_divideNearest (numerator denominator : Nat) :
    numerator / denominator ≤ divideNearest numerator denominator := by
  unfold divideNearest
  dsimp only
  split_ifs <;> omega

namespace IsNatural

variable {significand number : Nat} {exponent : Int}
  (natural : IsNatural significand exponent number)
include natural

/-- A magnitude that is a natural number is whole. -/
theorem isWhole : Binary64.isWhole significand exponent = true := by
  have product : (ratio significand exponent).1 = number * (ratio significand exponent).2 := natural
  rw [Binary64.isWhole]
  dsimp only
  rw [product, Nat.mul_mod_left]
  rfl

/-- A magnitude that is a natural number is rounded to that number. -/
theorem roundHalfUp : Binary64.roundHalfUp significand exponent = number := by
  have positive := ratio_positive significand exponent
  have product : (ratio significand exponent).1 = number * (ratio significand exponent).2 := natural
  rw [Binary64.roundHalfUp]
  dsimp only
  rw [product, ← Nat.mul_assoc, Nat.mul_comm 2 number, Nat.mul_assoc, Nat.add_comm,
    Nat.add_mul_div_right _ _ (Nat.mul_pos Nat.two_pos positive), Nat.div_eq_of_lt (by omega),
    Nat.zero_add]

/-- Without decimal places, the digits are those of the number. -/
theorem withPlaces (negative : Bool) :
    (finite negative significand exponent).withPlaces 0 =
      (if negative then "-" else "") ++ toString number := by
  have product : (ratio significand exponent).1 = number * (ratio significand exponent).2 := natural
  have digits := divideNearest_mul number _ (ratio_positive significand exponent)
  rw [← product] at digits
  have one : Nat.pow 10 0 = 1 := rfl
  rw [Binary64.withPlaces]
  dsimp only
  rw [one, Nat.mul_one, digits]
  rfl

end IsNatural

/-- The order of a natural number is that of its first bit. -/
theorem binaryOrder_one (number : Nat) (positive : 0 < number) :
    binaryOrder number 1 = number.log2 := by
  have first : 2 ^ number.log2 ≤ number := Nat.log2_self_le positive.ne'
  have one : Nat.log2 1 = 0 := rfl
  rw [binaryOrder, one, if_pos]
  · simp
  · simpa [Nat.shiftLeft_eq] using first

/-- A natural number of at most 53 bits is shifted to a significand of 53 bits. -/
theorem ofRatio_short (negative : Bool) (number : Nat) (positive : 0 < number)
    (short : number < 2 ^ 53) :
    ofRatio negative number 1 =
      .finite negative (number * 2 ^ (52 - number.log2)) (number.log2 - 52) := by
  have bits : number.log2 < 53 := (Nat.log2_lt positive.ne').mpr short
  have exponent : max ((number.log2 : Int) - 52) leastExponent = number.log2 - 52 := by
    rw [leastExponent]
    omega
  have up : (-((number.log2 : Int) - 52)).toNat = 52 - number.log2 := by omega
  have down : ((number.log2 : Int) - 52).toNat = 0 := by omega
  have significand : divideNearest (number <<< (52 - number.log2)) (1 <<< 0) =
      number * 2 ^ (52 - number.log2) := by
    have whole := divideNearest_mul (number <<< (52 - number.log2)) 1 Nat.one_pos
    rw [Nat.mul_one] at whole
    exact whole.trans (Nat.shiftLeft_eq _ _)
  have below : number * 2 ^ (52 - number.log2) < Nat.pow 2 53 := by
    calc number * 2 ^ (52 - number.log2)
        < 2 ^ (number.log2 + 1) * 2 ^ (52 - number.log2) :=
          Nat.mul_lt_mul_of_pos_right Nat.lt_log2_self (Nat.two_pow_pos _)
      _ = 2 ^ 53 := by rw [← Nat.pow_add]; congr 1; omega
  rw [ofRatio, if_neg positive.ne', binaryOrder_one number positive]
  dsimp only
  rw [exponent, up, down, significand, if_neg below.ne]
  dsimp only
  rw [if_pos]
  rw [greatestExponent]
  omega

/-- A longer natural number keeps 53 bits before a positive exponent. -/
theorem ofRatio_long (negative : Bool) (number : Nat) (long : 2 ^ 53 ≤ number)
    (kept : number.log2 < 1023) :
    ∃ significand exponent, ofRatio negative number 1 = .finite negative significand exponent ∧
      2 ^ 52 ≤ significand ∧ 0 ≤ exponent := by
  have positive : 0 < number := Nat.lt_of_lt_of_le (Nat.two_pow_pos 53) long
  have atLeast : 53 ≤ number.log2 := (Nat.le_log2 positive.ne').mpr long
  have exponent : max ((number.log2 : Int) - 52) leastExponent = number.log2 - 52 := by
    rw [leastExponent]
    omega
  have up : (-((number.log2 : Int) - 52)).toNat = 0 := by omega
  have down : ((number.log2 : Int) - 52).toNat = number.log2 - 52 := by omega
  have full : 2 ^ 52 ≤ divideNearest (number <<< 0) (1 <<< (number.log2 - 52)) := by
    refine Nat.le_trans ?_ (div_le_divideNearest _ _)
    rw [Nat.shiftLeft_zero, Nat.shiftLeft_eq, Nat.one_mul,
      Nat.le_div_iff_mul_le (Nat.two_pow_pos _), ← Nat.pow_add]
    have bits : 52 + (number.log2 - 52) = number.log2 := by omega
    rw [bits]
    exact Nat.log2_self_le positive.ne'
  rw [ofRatio, if_neg positive.ne', binaryOrder_one number positive]
  dsimp only
  rw [exponent, up, down]
  split
  · dsimp only
    refine ⟨_, _, if_pos ?_, Nat.le_refl _, by omega⟩
    rw [greatestExponent]
    omega
  · dsimp only
    refine ⟨_, _, if_pos ?_, full, by omega⟩
    rw [greatestExponent]
    omega

/-- An integer of at most 53 bits, and the next one, are values of the format. -/
theorem ofInt_exact (value : Int) (small : value.natAbs ≤ 2 ^ 53) :
    ∃ significand exponent,
      ofInt value = .finite (decide (value < 0)) significand exponent ∧
        IsNatural significand exponent value.natAbs := by
  rcases Nat.eq_zero_or_pos value.natAbs with zero | positive
  · refine ⟨0, leastExponent, ?_, ?_⟩
    · rw [ofInt, zero]
      rfl
    · rw [IsNatural, zero, ratio, Nat.zero_mul, Nat.zero_shiftLeft]
  · rcases Nat.lt_or_eq_of_le small with short | next
    · refine ⟨_, _, ofRatio_short _ _ positive short, ?_⟩
      have bits : value.natAbs.log2 < 53 := (Nat.log2_lt positive.ne').mpr short
      have up : (-((value.natAbs.log2 : Int) - 52)).toNat = 52 - value.natAbs.log2 := by omega
      have down : ((value.natAbs.log2 : Int) - 52).toNat = 0 := by omega
      rw [IsNatural, ratio, up, down, Nat.shiftLeft_zero, Nat.shiftLeft_eq, Nat.one_mul]
    · -- The next one is the first with 54 bits, and its last bit is 0.
      refine ⟨2 ^ 52, 1, ?_, ?_⟩
      · rw [ofInt, next]
        cases decide (value < 0) <;> rfl
      · rw [next]
        rfl

/-- An exponent that is not negative makes a magnitude a natural number. -/
theorem le_roundHalfUp (significand : Nat) (exponent : Int) (whole : 0 ≤ exponent) :
    significand ≤ roundHalfUp significand exponent := by
  have one : (-exponent).toNat = 0 := by omega
  have natural : IsNatural significand exponent (significand * 2 ^ exponent.toNat) := by
    rw [IsNatural, ratio, one, Nat.shiftLeft_zero, Nat.mul_one, Nat.shiftLeft_eq]
  rw [natural.roundHalfUp]
  exact Nat.le_mul_of_pos_right _ (Nat.two_pow_pos _)

/-- Whatever is rounded to the magnitude of an integer, or beyond 100 with it, has its
percentage. -/
theorem percentage?_signed (value : Int) (significand : Nat) (exponent : Int)
    (near : min 100 (roundHalfUp significand exponent) = min 100 value.natAbs) :
    (finite (decide (value < 0)) significand exponent).percentage? =
      some (max 0 (min 100 value)).toNat := by
  rw [percentage?, near]
  by_cases below : value < 0
  · rw [decide_eq_true below, if_pos rfl]
    exact congrArg some (by omega)
  · rw [decide_eq_false below, if_neg Bool.false_ne_true]
    exact congrArg some (by omega)

/-- The percentage of an integer is the integer in the range from 0 to 100. -/
theorem percentage?_ofInt (value : Int) (kept : value.natAbs.log2 < 1023) :
    (ofInt value).isFinite = true ∧
      (ofInt value).percentage? = some (max 0 (min 100 value)).toNat := by
  rcases Nat.le_total value.natAbs (2 ^ 53) with small | large
  · obtain ⟨significand, exponent, exact, natural⟩ := ofInt_exact value small
    rw [exact]
    exact ⟨rfl, percentage?_signed value _ _ (by rw [natural.roundHalfUp])⟩
  · obtain ⟨significand, exponent, rounded, full, whole⟩ :=
      ofRatio_long (decide (value < 0)) value.natAbs large kept
    have beyond := full.trans (le_roundHalfUp significand exponent whole)
    rw [ofInt, rounded]
    exact ⟨rfl, percentage?_signed value _ _ (by omega)⟩

/-- A text of an integer is its sign and its magnitude. -/
theorem toString_int (value : Int) :
    toString value = (if value < 0 then "-" else "") ++ toString value.natAbs := by
  cases value with
  | ofNat number => exact (String.empty_append).symm
  | negSucc number =>
    rw [if_pos (Int.negSucc_lt_zero number)]
    rfl

end CodeReport.Binary64
