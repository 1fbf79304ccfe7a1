import CodeReport.Text.Escape

/-!
# Gaps in YAML scalars

Between two parts of a scalar stands a gap: blanks within a line, or line breaks
with the blanks around them. When the scalar goes on, a gap is folded. Blanks
stay as they are. A single line break becomes a space; of several the first is
dropped and the others stay. A scalar that ends at a gap does not take it in.

Line breaks are line feeds and the two Unicode separators. The separators are
never dropped. All other ways to end a line are made line feeds beforehand.
-/

namespace CodeReport.Yaml

/-- Characters that end a line. -/
def isBreak (character : Char) : Bool :=
  character = '\n' || character = '\u2028' || character = '\u2029'

/-- Blank characters within a line. -/
def isSpace (character : Char) : Bool :=
  character = ' ' || character = '\t'

/-- Whether a text is at its end, at a blank or at a line break. -/
def atWordEnd : List Char → Bool
  | [] => true
  | character :: _ => isSpace character || isBreak character

/-- The text from the end of its line on, if no more than blanks and a comment stand before that. -/
def lineEnd? (text : List Char) : Option (List Char) :=
  match text.dropWhile isSpace with
  | [] => some []
  | character :: rest =>
    if isBreak character then some (character :: rest)
    else if character = '#' then some (rest.dropWhile (!isBreak ·))
    else none

/-- The text with a line feed for every line end that is no separator. -/
def joinLineEnds : List Char → List Char
  | [] => []
  | '\r' :: '\n' :: rest => '\n' :: joinLineEnds rest
  | character :: rest =>
    (if character = '\r' || character = '\u0085' then '\n' else character) :: joinLineEnds rest

/-- The characters that a document may hold. -/
def isAllowed (character : Char) : Bool :=
  let code := character.toNat
  code = 0x09 || code = 0x0A || code = 0x0D || (0x20 ≤ code && code ≤ 0x7E) || code = 0x85 ||
    (0xA0 ≤ code && code ≤ 0xFFFD) || 0x10000 ≤ code

/-- What stands between two parts of a scalar. -/
inductive Gap where
  /-- Blanks of one line, maybe none. -/
  | blanks (characters : List Char)
  /-- Line breaks; the blanks around them do not count. -/
  | breaks (first : Char) (further : List Char)
  /-- Line breaks behind an escaped one, which does not count. -/
  | escaped (further : List Char)
  deriving Repr, DecidableEq

namespace Gap

/-- No gap. -/
def none : Gap := .blanks []

/-- Whether there is nothing in the gap. -/
def isNone (gap : Gap) : Bool := gap = .none

/-- Whether a line ends in the gap. -/
def hasBreak : Gap → Bool
  | .blanks _ => false
  | _ => true

/-- The gap with one more blank. -/
def addBlank (character : Char) : Gap → Gap
  | .blanks characters => .blanks (characters ++ [character])
  | gap => gap

/-- The gap with one more line break. -/
def addBreak (character : Char) : Gap → Gap
  | .blanks _ => .breaks character []
  | .breaks first further => .breaks first (further ++ [character])
  | .escaped further => .escaped (further ++ [character])

/-- What a gap becomes in a scalar that goes on. -/
def fold : Gap → List Char
  | .blanks characters => characters
  | .escaped further => further
  | .breaks first further =>
    if first != '\n' then first :: further else if further.isEmpty then [' '] else further

end Gap

end CodeReport.Yaml
