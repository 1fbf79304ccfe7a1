/-!
# Letter case

Names are compared without regard to the case of the twenty-six Latin letters
of ASCII. All other letters keep their case, so `É` and `é` stay different.
-/

namespace CodeReport.Text

/-- The text with the letters `A` to `Z` made small. -/
def lowerCase (text : String) : String :=
  String.ofList (text.toList.map Char.toLower)

/-- Two texts that differ in the case of `A` to `Z` at most. -/
def sameLetters (left right : String) : Bool :=
  lowerCase left == lowerCase right

/-- Whether `characters` begin with `start`, up to the case of `A` to `Z`. -/
def startsWithLetters (start characters : List Char) : Bool :=
  (start.map Char.toLower).isPrefixOf (characters.map Char.toLower)

end CodeReport.Text
