import CodeReport.Settings.Config
import CodeReport.Text.Escape
import CodeReport.Text.Lines

/-!
# Configuration in TOML

A configuration is a flat document: lines that give names their scalars, blank
lines and comments. Scalars are the four kinds of text and integers that are
not negative. All else that TOML knows, such as tables, dotted names, arrays and
dates, can only write what no configuration holds, so it is refused like any
other text that is no flat document.

A line ends with a line feed, or with a carriage return and a line feed; a text
keeps the line ends within it as they are. A carriage return without a line feed
is a control character, and those are allowed nowhere.
-/

namespace CodeReport.Toml

/-- Characters that may stand between the parts of a line. -/
def isSpace (character : Char) : Bool :=
  character = ' ' || character = '\t'

/-- The control characters, of which only the tab may stand in a line. -/
def isControl (character : Char) : Bool :=
  character.toNat < 0x20 || character.toNat = 0x7F

/-- Characters that may stand in a comment or a text of one line. -/
def isPrintable (character : Char) : Bool :=
  character = '\t' || !isControl character

/-- The text from the first character that is no space. -/
def skipSpaces (text : List Char) : List Char :=
  text.dropWhile isSpace

/-- The text behind a line end, if it begins with one. -/
def behindLineEnd? : List Char → Option (List Char)
  | '\n' :: rest => some rest
  | '\r' :: '\n' :: rest => some rest
  | _ => none

/-- The number of spaces and line-end characters that a text begins with. -/
def gapLength : List Char → Nat
  | '\r' :: '\n' :: rest => gapLength rest + 2
  | character :: rest =>
    if isSpace character || character = '\n' then gapLength rest + 1 else 0
  | [] => 0

/-! ## Texts -/

/-- The letters that stand for a character behind a backslash. -/
def letters : List (Char × Char) :=
  [('b', '\x08'), ('t', '\t'), ('n', '\n'), ('f', '\x0C'), ('r', '\r'), ('e', '\x1B'),
    ('"', '"'), ('\\', '\\')]

/-- How a text is quoted. -/
structure Quoting where
  quote : Char
  /-- Whether three quotes open and close it, so that it may have several lines. -/
  tripled : Bool
  deriving Repr, DecidableEq

/-- Only double quotes let a backslash announce something. -/
def Quoting.escapes (quoting : Quoting) : Bool :=
  quoting.quote = '"'

/-- The length of the blank rest of a line and of all blanks and line ends behind it, if the text
    begins with such a rest. -/
def lineRest? (text : List Char) : Option Nat :=
  (behindLineEnd? (skipSpaces text)).map fun _ => gapLength text

/-- What a backslash announces: characters, and how many behind it write them. At the end of a line
    it takes away the line end and all blanks up to what follows. -/
def announced? (quoting : Quoting) (text : List Char) : Option (List Char × Nat) :=
  match Text.escape? letters text with
  | some (character, count) => some ([character], count)
  | none => if quoting.tripled then (lineRest? text).map fun count => ([], count) else none

/-- Whether a character may stand for itself in a text, where it is followed by `rest`. -/
def Quoting.admits (quoting : Quoting) (character : Char) (rest : List Char) : Bool :=
  isPrintable character || (quoting.tripled && (behindLineEnd? (character :: rest)).isSome)

/-- Put characters in front of what was read. -/
def inFront (characters : List Char) (read : Option (List Char × List Char)) :
    Option (List Char × List Char) :=
  read.map fun (content, rest) => (characters ++ content, rest)

/-- The content of a text and what follows its closing quotes, after `skip` characters that were
    read already. Up to two quotes may stand directly before three that close the text. -/
def content? (quoting : Quoting) : Nat → List Char → Option (List Char × List Char)
  | _, [] => none
  | skip + 1, _ :: rest => content? quoting skip rest
  | 0, character :: rest =>
    if character = quoting.quote then
      let run := 1 + (rest.takeWhile (· = quoting.quote)).length
      if !quoting.tripled then some ([], rest)
      else if run < 3 then inFront [character] (content? quoting 0 rest)
      else some (List.replicate (min (run - 3) 2) character, rest.drop (min run 5 - 1))
    else if character = '\\' && quoting.escapes then
      match announced? quoting rest with
      | some (characters, count) => inFront characters (content? quoting count rest)
      | none => none
    else if quoting.admits character rest then inFront [character] (content? quoting 0 rest)
    else none

/-- A quoted text of one line. -/
def line? (quote : Char) (text : List Char) : Option (String × List Char) :=
  (content? ⟨quote, false⟩ 0 text).map fun (content, rest) => (String.ofList content, rest)

/-- A quoted text of several lines. A line end directly behind the opening quotes is no part. -/
def lines? (quote : Char) (text : List Char) : Option (String × List Char) :=
  (content? ⟨quote, true⟩ 0 ((behindLineEnd? text).getD text)).map fun (content, rest) =>
    (String.ofList content, rest)

/-! ## Numbers -/

/-- Characters of a number with its sign, its base and its separators. -/
def isNumberCharacter (character : Char) : Bool :=
  character.isAlphanum || character = '_' || character = '+' || character = '-' ||
    character = '.' || character = ':'

/-- The number that digits of a base write. An underscore may stand between two digits. -/
def digits? (base : Nat) (written : List Char) : Option Nat :=
  let groups := Text.split '_' written
  if groups.any List.isEmpty then none else Digits.number? base groups.flatten

/-- The number that decimal digits write; no zero stands before other digits. -/
def decimal? : List Char → Option Nat
  | '0' :: _ :: _ => none
  | written => digits? 10 written

/-- The number that an integer writes, unless it is negative. -/
def natural? : List Char → Option Nat
  | '+' :: written => decimal? written
  | ['-', '0'] => some 0
  | '0' :: 'x' :: written => digits? 16 written
  | '0' :: 'o' :: written => digits? 8 written
  | '0' :: 'b' :: written => digits? 2 written
  | written => decimal? written

/-! ## Documents -/

/-- A scalar and what follows it. -/
def scalar? : List Char → Option (Config.Scalar × List Char)
  | '"' :: '"' :: '"' :: rest => (lines? '"' rest).map fun (text, rest) => (.text text, rest)
  | '\'' :: '\'' :: '\'' :: rest => (lines? '\'' rest).map fun (text, rest) => (.text text, rest)
  | '"' :: rest => (line? '"' rest).map fun (text, rest) => (.text text, rest)
  | '\'' :: rest => (line? '\'' rest).map fun (text, rest) => (.text text, rest)
  | text =>
    (natural? (text.takeWhile isNumberCharacter)).map fun number =>
      (.number number, text.dropWhile isNumberCharacter)

/-- Characters of a name without quotes. -/
def isNameCharacter (character : Char) : Bool :=
  character.isAlphanum || character = '_' || character = '-'

/-- A name and what follows it. -/
def name? : List Char → Option (String × List Char)
  | '"' :: rest => line? '"' rest
  | '\'' :: rest => line? '\'' rest
  | text =>
    let name := text.takeWhile isNameCharacter
    if name.isEmpty then none else some (String.ofList name, text.dropWhile isNameCharacter)

/-- What follows the end of a line, if no more than a comment stands before it. -/
def endOfLine? (text : List Char) : Option (List Char) :=
  match skipSpaces text with
  | [] => some []
  | '#' :: comment =>
    let rest := comment.dropWhile isPrintable
    if rest.isEmpty then some [] else behindLineEnd? rest
  | rest => behindLineEnd? rest

/-- A name with its scalar, and what follows the line. -/
def assignment? (text : List Char) : Option ((String × Config.Scalar) × List Char) := do
  let (name, rest) ← name? (skipSpaces text)
  match skipSpaces rest with
  | '=' :: rest =>
    let (scalar, rest) ← scalar? (skipSpaces rest)
    return ((name, scalar), ← endOfLine? rest)
  | _ => none

/-- The entries of a document that has no more than `fuel` lines. -/
def entries? : Nat → List Char → Option (List (String × Config.Scalar))
  | _, [] => some []
  | 0, _ => none
  | fuel + 1, text =>
    match endOfLine? text with
    | some rest => entries? fuel rest
    | none => do
      let (entry, rest) ← assignment? text
      return entry :: (← entries? fuel rest)

/-- The text without a byte-order mark at its start. -/
def dropMark : List Char → List Char
  | '\uFEFF' :: rest => rest
  | text => text

/-- The configuration that a document writes. Each line has at least one character, so a document
    has no more lines than characters. -/
def config? (document : String) : Option Config :=
  let text := dropMark document.toList
  (entries? text.length text).bind Config.ofScalars?

end CodeReport.Toml
