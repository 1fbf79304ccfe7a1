import CodeReport.Text.Blank

/-!
# Lines, paragraphs and columns

How a text is divided for display: into lines at line feeds, into paragraphs
at pairs of line feeds, and into columns by padding with spaces. Widths count
characters, that is Unicode scalar values.
-/

namespace CodeReport.Text

/-- Put one character in front of the first of some lines, which it opens if there is none. -/
def openLine (character : Char) : List (List Char) → List (List Char)
  | [] => [[character]]
  | line :: lines => (character :: line) :: lines

/-- The lines of a text. A line feed ends a line and belongs to none, and so does a carriage
    return directly before it. Nothing follows a last line feed, so it opens no further line. -/
def lineCharacters : List Char → List (List Char)
  | [] => []
  | '\r' :: '\n' :: rest => [] :: lineCharacters rest
  | '\n' :: rest => [] :: lineCharacters rest
  | character :: rest => openLine character (lineCharacters rest)

/-- The lines of a text, as texts. -/
def lines (text : String) : List String :=
  (lineCharacters text.toList).map String.ofList

/-- Put one character in front of the first of some chunks. -/
def openChunk (character : Char) : List (List Char) → List (List Char)
  | [] => [[character]]
  | chunk :: chunks => (character :: chunk) :: chunks

/-- The chunks between pairs of line feeds, read from the left: a third line feed in a row opens
    the next chunk. -/
def chunkCharacters : List Char → List (List Char)
  | [] => [[]]
  | '\n' :: '\n' :: rest => [] :: chunkCharacters rest
  | character :: rest => openChunk character (chunkCharacters rest)

/-- The paragraphs of a text: its chunks without their blank ends, blank ones left out. -/
def paragraphs (text : String) : List String :=
  ((chunkCharacters text.toList).map dropBlankEnds).filterMap fun chunk =>
    if chunk.isEmpty then none else some (String.ofList chunk)

/-- The chunks between single separators; there is always one more than there are separators. -/
def split (separator : Char) : List Char → List (List Char)
  | [] => [[]]
  | character :: rest =>
    if character = separator then [] :: split separator rest
    else openChunk character (split separator rest)

/-- A text of `count` copies of one character. -/
def replicate (count : Nat) (character : Char) : String :=
  String.ofList (List.replicate count character)

/-- The text followed by as many spaces as it lacks in `width` characters. It is never cut.

Any width can be asked for. This is an assumption on the formatter that pads: one that takes only
widths up to 65535 would stop at a longer text. -/
def padEnd (width : Nat) (text : String) : String :=
  text ++ replicate (width - text.length) ' '

end CodeReport.Text
