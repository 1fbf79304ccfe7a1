import CodeReport.Json.Value
import CodeReport.Number.Shortest

/-!
# JSON text

How values are written. The compact form has no blanks; the pretty form puts
each item and member on a line of its own, two spaces deeper than its bracket.
In both, an empty array or object is its two brackets.

Text is escaped where JSON demands it and nowhere else: quotes, backslashes and
the characters below U+0020. A real number is written with its shortest digits
and always shows that it is no integer, by a fraction or by an exponent.
-/

namespace CodeReport.Json

/-- The powers of ten of the leading digit for which a real number is written without exponent. -/
structure PositionalRange where
  least : Int
  greatest : Int

/-- Real numbers from `0.00001` up to, but not including, `10 ^ 16` have no exponent. -/
def positionalRange : PositionalRange := ⟨-5, 15⟩

namespace Number

/-- Digits with the point put behind the digit of the power `order` of ten. -/
def positionalText (digits : String) (order : Int) : String :=
  let characters := digits.toList
  if order < 0 then
    "0." ++ String.ofList (List.replicate (-order - 1).toNat '0') ++ digits
  else
    let whole := order.toNat + 1
    if characters.length ≤ whole then
      digits ++ String.ofList (List.replicate (whole - characters.length) '0') ++ ".0"
    else String.ofList (characters.take whole) ++ "." ++ String.ofList (characters.drop whole)

/-- Digits with the point behind the first one, if more follow, and the power of ten with its
    sign. -/
def scientificText (digits : String) (order : Int) : String :=
  let fraction := digits.toList.drop 1
  String.ofList (digits.toList.take 1) ++
    (if fraction.isEmpty then "" else "." ++ String.ofList fraction) ++
    (if order < 0 then "e-" else "e+") ++ toString order.natAbs

/-- A finite real number. JSON has no other, so what is not finite is written as null. -/
def realText : Binary64 → String
  | .finite negative significand exponent =>
    let sign := if negative then "-" else ""
    if significand = 0 then sign ++ "0.0"
    else
      let shortest := Binary64.shortestDigits significand exponent
      let digits := toString shortest.digits
      let order := shortest.leadingExponent
      sign ++
        if positionalRange.least ≤ order && order ≤ positionalRange.greatest then
          positionalText digits order
        else scientificText digits order
  | _ => "null"

/-- The text of a number. -/
def text : Number → String
  | .integer value => toString value
  | .real value => realText value

end Number

/-- A hexadecimal digit, small letters. -/
def hexDigit (value : Nat) : Char :=
  "0123456789abcdef".toList.getD (value % 16) '0'

/-- How one character stands in a string. -/
def escapeCharacter (character : Char) : List Char :=
  if character = '"' then ['\\', '"']
  else if character = '\\' then ['\\', '\\']
  else if character = '\x08' then ['\\', 'b']
  else if character = '\x0c' then ['\\', 'f']
  else if character = '\n' then ['\\', 'n']
  else if character = '\r' then ['\\', 'r']
  else if character = '\t' then ['\\', 't']
  else if character.toNat < 0x20 then
    ['\\', 'u', '0', '0', hexDigit (character.toNat / 16), hexDigit character.toNat]
  else [character]

/-- A text in quotes. -/
def quote (text : String) : String :=
  "\"" ++ String.ofList (text.toList.flatMap escapeCharacter) ++ "\""

namespace Value

mutual
/-- The text of a value without blanks. -/
def compact : Value → String
  | .null => "null"
  | .bool value => if value then "true" else "false"
  | .number value => value.text
  | .string value => quote value
  | .array items => "[" ++ compactItems items ++ "]"
  | .object members => "\x7b" ++ compactMembers members ++ "\x7d"

/-- Items with commas between them. -/
def compactItems : List Value → String
  | [] => ""
  | [item] => compact item
  | item :: rest => compact item ++ "," ++ compactItems rest

/-- Members with commas between them. -/
def compactMembers : List (String × Value) → String
  | [] => ""
  | [(name, value)] => quote name ++ ":" ++ compact value
  | (name, value) :: rest => quote name ++ ":" ++ compact value ++ "," ++ compactMembers rest
end

/-- A new line at a depth of nesting. -/
def lineAt (depth : Nat) : String :=
  "\n" ++ String.ofList (List.replicate (2 * depth) ' ')

mutual
/-- The text of a value on several lines; `depth` is that of the line on which it starts. -/
def prettyAt (depth : Nat) : Value → String
  | .array (item :: rest) =>
    "[" ++ lineAt (depth + 1) ++ prettyAt (depth + 1) item ++ prettyItems (depth + 1) rest ++
      lineAt depth ++ "]"
  | .object ((name, value) :: rest) =>
    "\x7b" ++ lineAt (depth + 1) ++ quote name ++ ": " ++ prettyAt (depth + 1) value ++
      prettyMembers (depth + 1) rest ++ lineAt depth ++ "\x7d"
  | .null => "null"
  | .bool value => if value then "true" else "false"
  | .number value => value.text
  | .string value => quote value
  | .array [] => "[]"
  | .object [] => "\x7b\x7d"

/-- The items after the first, each behind a comma and on its own line. -/
def prettyItems (depth : Nat) : List Value → String
  | [] => ""
  | item :: rest => "," ++ lineAt depth ++ prettyAt depth item ++ prettyItems depth rest

/-- The members after the first, each behind a comma and on its own line. -/
def prettyMembers (depth : Nat) : List (String × Value) → String
  | [] => ""
  | (name, value) :: rest =>
    "," ++ lineAt depth ++ quote name ++ ": " ++ prettyAt depth value ++ prettyMembers depth rest
end

/-- The text of a value on several lines. -/
def pretty (value : Value) : String :=
  prettyAt 0 value

end Value

end CodeReport.Json
