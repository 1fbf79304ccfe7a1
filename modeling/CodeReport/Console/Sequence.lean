/-!
# Escape sequences

An escape character opens a sequence, which a terminal obeys and does not show.
What stands behind it says what kind of sequence it is and where it ends; a
further escape character, or one of the two that cancel, ends any of them. The
control characters are not shown either.

Plain text is what remains without all that. Blanks are kept, also in some
sequences: such a sequence stands still for the text that follows the blank, and
goes on from the next control character.
-/

namespace CodeReport.Console

/-- How far a sequence has come. -/
inductive Sequence where
  /-- Behind the escape character. -/
  | opened
  /-- Behind signs that ask for one more character. -/
  | signed
  /-- In parameters, which a letter or a sign ends. -/
  | parameters
  /-- Behind what announces a text for a device. -/
  | device
  | deviceParameters
  | deviceSigned
  /-- In a text for a device. A terminator ends it. -/
  | text
  /-- In a text for the system. A bell ends it. -/
  | systemText
  deriving Repr, DecidableEq

/-- The characters that cancel a sequence. -/
def isCancel (character : Char) : Bool :=
  character = '\x18' || character = '\x1A'

/-- The characters that stand in no text: those before the space, and the last of ASCII. -/
def isControl (character : Char) : Bool :=
  character < ' ' || character = '\x7F'

/-- The control characters that are blanks. -/
def isControlBlank (character : Char) : Bool :=
  character = '\t' || character = '\n' || character = '\x0C' || character = '\r'

/-- Whether a character lies between two others, or is one of them. -/
def isWithin (first last character : Char) : Bool :=
  first ≤ character && character ≤ last

/-- Whether the terminator is one of the octets that write a character. -/
def holdsTerminator (character : Char) : Bool :=
  (String.utf8EncodeChar character).contains 0x9C

namespace Sequence

/-- Whether blanks within the sequence are kept. -/
def keepsBlanks : Sequence → Bool
  | .opened => true
  | .signed => true
  | .parameters => true
  | _ => false

/-- The sequence behind the character that says of what kind it is. -/
def ofKind? (character : Char) : Option Sequence :=
  if character = '[' then some .parameters
  else if character = ']' then some .systemText
  else if character = 'P' then some .device
  else if character = 'X' || character = '^' || character = '_' then some .text
  else if isWithin ' ' '/' character then some .signed
  else if isWithin '0' '~' character then none
  else some .opened

/-- The sequence in a text for a device, or before one. -/
def nextForDevice (sequence : Sequence) (character : Char) : Sequence :=
  if isWithin '@' '~' character then .text
  else if isWithin ' ' '/' character then .deviceSigned
  else if isWithin '0' '?' character then
    match sequence with
    | .device => .deviceParameters
    | .deviceParameters => if character < '<' then .deviceParameters else .text
    | _ => .text
  else sequence

/-- The sequence behind one more character, unless that ends it. -/
def next? (sequence : Sequence) (character : Char) : Option Sequence :=
  match sequence with
  | .opened => ofKind? character
  | .signed => if isWithin '0' '~' character then none else some sequence
  | .parameters => if isWithin '@' '~' character then none else some sequence
  | .text => if holdsTerminator character then none else some sequence
  | .systemText => if character = '\x07' then none else some sequence
  | _ => some (sequence.nextForDevice character)

end Sequence

/-- A reading of text with sequences. -/
inductive Reading where
  /-- In plain text, maybe with a sequence that stands still. -/
  | inText (still : Option Sequence)
  | inSequence (sequence : Sequence)
  deriving Repr, DecidableEq

namespace Reading

/-- The reading within a sequence, or in text if there is none. -/
def within : Option Sequence → Reading
  | some sequence => .inSequence sequence
  | none => .inText none

/-- The reading behind one more character, and whether that is plain text. -/
def next (reading : Reading) (character : Char) : Reading × Bool :=
  if character = '\x1b' then (.inSequence .opened, false)
  else if isCancel character then (.inText none, false)
  else
    match reading with
    | .inText still =>
      if character > '\x7F' then (.inText none, true)
      else if isControl character && !isControlBlank character then (within still, false)
      else (.inText still, true)
    | .inSequence sequence =>
      if sequence.keepsBlanks && isControlBlank character then (.inText (some sequence), true)
      else (within (sequence.next? character), false)

end Reading

/-- The plain text of characters. -/
def plainFrom (reading : Reading) : List Char → List Char
  | [] => []
  | character :: rest =>
    let (reading, isPlain) := reading.next character
    if isPlain then character :: plainFrom reading rest else plainFrom reading rest

/-- The plain text of a text: what remains of it without sequences and control characters. -/
def plain (text : String) : String :=
  String.ofList (plainFrom (.inText none) text.toList)

end CodeReport.Console
