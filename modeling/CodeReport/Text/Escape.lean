import CodeReport.Number.Digits

/-!
# Escapes

In a quoted text a backslash announces an escape: a letter that stands for a
character, or one of three letters with a fixed number of hexadecimal digits.
Which letters there are is up to the notation.
-/

namespace CodeReport.Text

/-- How many hexadecimal digits follow a letter. -/
def digitsAfter? : Char → Option Nat
  | 'x' => some 2
  | 'u' => some 4
  | 'U' => some 8
  | _ => none

/-- The character of an escape and the number of characters that write it, from behind the
    backslash on. -/
def escape? (letters : List (Char × Char)) : List Char → Option (Char × Nat)
  | [] => none
  | letter :: rest =>
    match letters.lookup letter with
    | some character => some (character, 1)
    | none => do
      let count ← digitsAfter? letter
      if rest.length < count then none
      else return (← Digits.character? (rest.take count), count + 1)

end CodeReport.Text
