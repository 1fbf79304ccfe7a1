/-!
# Digits in a base

A natural number is written by digits of a base up to sixteen, most significant
first and in any letter case. Readings are strict: there is at least one digit
and nothing else.
-/

namespace CodeReport.Digits

/-- The value of a digit, whatever the base. -/
def value? (character : Char) : Option Nat :=
  if character.isDigit then some (character.toNat - '0'.toNat)
  else if 'a' ≤ character ∧ character ≤ 'f' then some (character.toNat - 'a'.toNat + 10)
  else if 'A' ≤ character ∧ character ≤ 'F' then some (character.toNat - 'A'.toNat + 10)
  else none

/-- The value of a digit of a base. -/
def valueIn? (base : Nat) (character : Char) : Option Nat :=
  (value? character).filter (· < base)

/-- The number that begins with `number` and goes on with some digits. -/
def continue? (base number : Nat) : List Char → Option Nat
  | [] => some number
  | character :: rest =>
    match valueIn? base character with
    | some value => continue? base (base * number + value) rest
    | none => none

/-- The number that some digits write. -/
def number? (base : Nat) : List Char → Option Nat
  | [] => none
  | characters => continue? base 0 characters

/-- The character whose code some hexadecimal digits write; a code that is half of a pair, or
    beyond the last one, belongs to no character. -/
def character? (characters : List Char) : Option Char :=
  (number? 16 characters).bind fun code =>
    if code.isValidChar then some (Char.ofNat code) else none

end CodeReport.Digits
