import CodeReport.Number.Binary64

/-!
# Decimal literals

A decimal literal is a sign, digits read as one natural number, and a power of
ten. It denotes a binary64 value by one exact rounding. The literals accepted
by `binary64?` have an optional sign and an optional exponent, a point with
digits on at least one side of it, or one of the words for an infinity and for
what is no number, in any letter case. They have no blanks.
-/

namespace CodeReport

/-- `digits * 10 ^ exponent`, negated if `negative`. -/
structure Decimal where
  negative : Bool
  digits : Nat
  exponent : Int
  deriving Repr, DecidableEq

namespace Decimal

/-- The value of a digit, for the characters `0` to `9`. -/
def digitValue (character : Char) : Nat :=
  character.toNat - '0'.toNat

/-- The number that some digits write, most significant first. -/
def numberOfDigits (characters : List Char) : Nat :=
  characters.foldl (fun number character => 10 * number + digitValue character) 0

/-- How many decimal digits a number has; zero has none. -/
def digitCount (number : Nat) : Nat :=
  if number = 0 then 0 else (Nat.toDigits 10 number).length

/-- The nearest binary64 value. A literal of 310 digits or more before the point is infinite and
    one whose first digit stands 330 places behind it is zero, so that no huge power is built. -/
def toBinary64 (literal : Decimal) : Binary64 :=
  let order := literal.exponent + digitCount literal.digits
  if literal.digits = 0 || order < -330 then .ofRatio literal.negative 0 1
  else if 310 < order then .infinity literal.negative
  else
    .ofRatio literal.negative (literal.digits * Nat.pow 10 literal.exponent.toNat)
      (Nat.pow 10 (-literal.exponent).toNat)

/-- Split off an optional sign: whether it is a minus, and the rest. -/
def splitSign : List Char → Bool × List Char
  | '-' :: rest => (true, rest)
  | '+' :: rest => (false, rest)
  | characters => (false, characters)

/-- The exponent that ends a literal: nothing at all, or a mark, an optional sign and digits. -/
def exponentOfText? : List Char → Option Int
  | [] => some 0
  | mark :: rest =>
    if mark = 'e' || mark = 'E' then
      let (negative, digits) := splitSign rest
      if digits.isEmpty || !digits.all Char.isDigit then none
      else
        let magnitude : Int := numberOfDigits digits
        some (if negative then -magnitude else magnitude)
    else none

/-- A literal without its sign. -/
def ofUnsigned? (negative : Bool) (characters : List Char) : Option Decimal :=
  let whole := characters.takeWhile Char.isDigit
  let afterWhole := characters.dropWhile Char.isDigit
  let (fraction, ending) :=
    match afterWhole with
    | '.' :: rest => (rest.takeWhile Char.isDigit, rest.dropWhile Char.isDigit)
    | rest => ([], rest)
  if whole.isEmpty && fraction.isEmpty then none
  else
    (exponentOfText? ending).map fun exponent =>
      ⟨negative, numberOfDigits (whole ++ fraction), exponent - fraction.length⟩

/-- Digits are split off before anything that does not begin with one. -/
theorem span_digits {digits rest : List Char} (each : ∀ digit ∈ digits, digit.isDigit = true)
    (stops : ∀ c ∈ rest.head?, c.isDigit = false) :
    (digits ++ rest).takeWhile Char.isDigit = digits ∧
      (digits ++ rest).dropWhile Char.isDigit = rest := by
  rw [List.takeWhile_append_of_pos each, List.dropWhile_append_of_pos each]
  cases rest with
  | nil => simp
  | cons next others => simp [stops next rfl]

/-- The value of a numeric literal or of a word such as `inf`. -/
def binary64? (text : String) : Option Binary64 :=
  let (negative, unsigned) := splitSign text.toList
  let word := String.ofList (unsigned.map Char.toLower)
  if word == "inf" || word == "infinity" then some (.infinity negative)
  else if word == "nan" then some .notANumber
  else (ofUnsigned? negative unsigned).map toBinary64

end Decimal

end CodeReport
