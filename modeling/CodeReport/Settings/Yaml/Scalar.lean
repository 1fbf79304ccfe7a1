import CodeReport.Settings.Yaml.Gap

/-!
# YAML scalars

A scalar stands in one of five notations: plain, in single or double quotes, or
as a literal or folded block. Every reading takes the characters from behind
what announces the notation and gives the content with what follows it.

A reading keeps what it has read in reverse.
-/

namespace CodeReport.Yaml

/-- How a scalar stands. -/
inductive Style where
  | plain
  | quoted
  | literal
  | folded
  deriving Repr, DecidableEq

/-- Whether a line begins with three characters and no word goes on behind them. -/
def startsMarker (mark : Char) : List Char → Bool
  | a :: b :: c :: rest => a = mark && b = mark && c = mark && atWordEnd rest
  | _ => false

/-- Whether a line begins or ends a document. -/
def isMarker (line : List Char) : Bool :=
  startsMarker '-' line || startsMarker '.' line

/-! ## Plain scalars -/

/-- Where a plain scalar stands. -/
inductive Surroundings where
  /-- In lines that are indented by at least so many spaces. -/
  | block (least : Nat)
  /-- Between brackets. -/
  | flow
  deriving Repr, DecidableEq

/-- The characters that divide what stands between brackets. -/
def isFlowIndicator (character : Char) : Bool :=
  [',', '[', ']', '\x7b', '\x7d'].contains character

/-- The characters that announce something other than a plain scalar. -/
def indicators : List Char :=
  ['-', '?', ':', ',', '[', ']', '\x7b', '\x7d', '#', '&', '*', '!', '|', '>', '\x27', '"', '%',
    '@', '`']

/-- Whether a plain scalar begins here. Three of the indicators begin one if a word goes on behind
    them, two of these in a block only. -/
def beginsPlain (surroundings : Surroundings) : List Char → Bool
  | [] => false
  | character :: rest =>
    if character = '-' then !atWordEnd rest
    else if character = '?' || character = ':' then
      match surroundings with
      | .block _ => !atWordEnd rest
      | .flow => false
    else !(isSpace character || isBreak character || indicators.contains character)

/-- Whether a line at a column is too far left to belong to a scalar. -/
def Surroundings.excludes (surroundings : Surroundings) (column : Nat) : Bool :=
  match surroundings with
  | .block least => column < least
  | .flow => false

/-- Whether a plain scalar ends before a character that is not blank, behind a gap. -/
def endsPlain (surroundings : Surroundings) (gap : Gap) (column : Nat) (character : Char)
    (rest : List Char) : Bool :=
  (gap.hasBreak && (surroundings.excludes column ||
      (column = 0 && isMarker (character :: rest)))) ||
    (character = '#' && !gap.isNone) || (character = ':' && atWordEnd rest) ||
    (surroundings = .flow && isFlowIndicator character)

/-- Whether a colon stands between brackets where it could divide and could belong to a scalar. -/
def isUnclearColon (surroundings : Surroundings) (character : Char) (rest : List Char) : Bool :=
  surroundings = .flow && character = ':' &&
    rest.head?.any fun next => next = '?' || isFlowIndicator next

/-- What a reading of a plain scalar brings. -/
structure Plain where
  content : List Char
  /-- Whether a line ends behind the scalar, before what follows it. -/
  endsLine : Bool
  rest : List Char
  deriving Repr, DecidableEq

/-- A plain scalar. A tab in the indentation of a line of a block is refused. -/
def plain? (surroundings : Surroundings) (read : List Char) (gap : Gap) (column : Nat) :
    List Char → Option Plain
  | [] => some ⟨read.reverse, gap.hasBreak, []⟩
  | character :: rest =>
    if isBreak character then plain? surroundings read (gap.addBreak character) 0 rest
    else if isSpace character then
      if character = '\t' && gap.hasBreak && surroundings.excludes column then none
      else plain? surroundings read (gap.addBlank character) (column + 1) rest
    else if isUnclearColon surroundings character rest then none
    else if endsPlain surroundings gap column character rest then
      some ⟨read.reverse, gap.hasBreak, character :: rest⟩
    else plain? surroundings (character :: (gap.fold.reverse ++ read)) .none (column + 1) rest

/-! ## Quoted scalars -/

/-- The letters that stand for a character behind a backslash. -/
def letters : List (Char × Char) :=
  [('0', '\x00'), ('a', '\x07'), ('b', '\x08'), ('t', '\t'), ('\t', '\t'), ('n', '\n'),
    ('v', '\x0B'), ('f', '\x0C'), ('r', '\r'), ('e', '\x1B'), (' ', ' '), ('"', '"'), ('/', '/'),
    ('\\', '\\'), ('N', '\u0085'), ('_', '\u00A0'), ('L', '\u2028'), ('P', '\u2029')]

/-- A quoted scalar and what follows its closing quote, after `skip` characters that were read
    already. Quotes of the single kind are written twice; a backslash between double quotes
    announces a character or takes away a line break. `opening` says that a line begins here, which
    then must not mark a document. -/
def quoted? (quote : Char) :
    (skip : Nat) → (read : List Char) → Gap → (opening : Bool) →
      List Char → Option (List Char × List Char)
  | _, _, _, _, [] => none
  | skip + 1, read, gap, opening, _ :: rest => quoted? quote skip read gap opening rest
  | 0, read, gap, opening, character :: rest =>
    if opening && isMarker (character :: rest) then none
    else if isBreak character then quoted? quote 0 read (gap.addBreak character) true rest
    else if isSpace character then quoted? quote 0 read (gap.addBlank character) false rest
    else
      let read := gap.fold.reverse ++ read
      if character = quote then
        if quote = '\x27' && rest.head? = some quote then
          quoted? quote 1 (quote :: read) .none false rest
        else some (read.reverse, rest)
      else if character = '\\' && quote = '"' then
        if rest.head?.any isBreak then quoted? quote 1 read (.escaped []) true rest
        else
          match Text.escape? letters rest with
          | some (escaped, count) => quoted? quote count (escaped :: read) .none false rest
          | none => none
      else quoted? quote 0 (character :: read) .none false rest

/-! ## Block scalars -/

/-- What becomes of the line breaks at the end of a block. -/
inductive Chomping where
  | strip
  | clip
  | keep
  deriving Repr, DecidableEq

/-- What the line says that opens a block. -/
structure BlockHeader where
  folded : Bool
  chomping : Chomping
  /-- By how many spaces the block is indented, if that is not told from its lines. -/
  indent : Option Nat
  deriving Repr, DecidableEq

/-- What a sign says about the end of a block. -/
def chomping? : Char → Option Chomping
  | '-' => some .strip
  | '+' => some .keep
  | _ => none

/-- A digit from one to nine. -/
def indentDigit? (character : Char) : Option Nat :=
  (Digits.valueIn? 10 character).filter (0 < ·)

/-- The sign and the digit behind the character that opens a block, in any order, and what follows
    them. -/
def blockSigns : List Char → Option Chomping × Option Nat × List Char
  | [] => (none, none, [])
  | first :: rest =>
    match chomping? first, indentDigit? first with
    | some chomping, _ =>
      match rest.head?.bind indentDigit? with
      | some digit => (some chomping, some digit, rest.tail)
      | none => (some chomping, none, rest)
    | none, some digit =>
      match rest.head?.bind chomping? with
      | some chomping => (some chomping, some digit, rest.tail)
      | none => (none, some digit, rest)
    | none, none => (none, none, first :: rest)

/-- What the line that opens a block says, and the lines behind it. -/
def blockHeader? (folded : Bool) (text : List Char) : Option (BlockHeader × List Char) :=
  let (chomping, indent, rest) := blockSigns text
  let header : BlockHeader := ⟨folded, chomping.getD .clip, indent⟩
  (lineEnd? rest).map fun rest => (header, rest.tail)

/-- The indentation of the first line that is not empty, or of an empty one before it if that is
    longer. A tab must not stand in it. -/
def firstIndent? (greatest column : Nat) : List Char → Option Nat
  | [] => some (max greatest column)
  | character :: rest =>
    if character = ' ' then firstIndent? greatest (column + 1) rest
    else if isBreak character then firstIndent? (max greatest column) 0 rest
    else if character = '\t' then none
    else some (max greatest column)

/-- What was read of a block. -/
structure Block where
  /-- The content up to the end of a line, in reverse. -/
  read : List Char
  /-- The line break behind it. -/
  last : Option Char
  /-- The breaks of the empty lines that follow, in reverse. -/
  empty : List Char
  /-- Whether the line begins with a blank; such lines are not folded. -/
  blank : Bool
  deriving Repr, DecidableEq

namespace Block

/-- A block of which nothing was read. -/
def start : Block := ⟨[], none, [], false⟩

/-- The block when a line follows that begins with a character. -/
def openLine (folded : Bool) (block : Block) (character : Char) : Block :=
  let between :=
    if folded && block.last = some '\n' && !block.blank && !isSpace character then
      if block.empty.isEmpty then [' '] else block.empty
    else block.empty ++ block.last.toList
  ⟨character :: (between ++ block.read), none, [], isSpace character⟩

/-- The content of a block that has ended. -/
def content (block : Block) : Chomping → List Char
  | .strip => block.read.reverse
  | .clip => (block.last.toList ++ block.read).reverse
  | .keep => (block.empty ++ block.last.toList ++ block.read).reverse

end Block

/-- The lines of a block that are indented by `indent` spaces, and what follows them. The column is
    absent behind the indentation of a line. -/
def blockLines? (folded : Bool) (indent : Nat) (block : Block) :
    Option Nat → List Char → Option (Block × List Char)
  | _, [] => some (block, [])
  | none, character :: rest =>
    if isBreak character then
      blockLines? folded indent { block with last := some character } (some 0) rest
    else blockLines? folded indent { block with read := character :: block.read } none rest
  | some column, character :: rest =>
    if isBreak character then
      blockLines? folded indent { block with empty := character :: block.empty } (some 0) rest
    else if column < indent then
      if character = ' ' then blockLines? folded indent block (some (column + 1)) rest
      else if character = '\t' then none
      else some (block, character :: rest)
    else blockLines? folded indent (block.openLine folded character) none rest

/-- A block scalar below lines that are indented by `parent` spaces. -/
def block? (folded : Bool) (parent : Nat) (text : List Char) : Option (List Char × List Char) := do
  let (header, lines) ← blockHeader? folded text
  let indent ← match header.indent with
    | some more => some (parent + more)
    | none => (firstIndent? 0 0 lines).map (max (parent + 1))
  let (block, rest) ← blockLines? folded indent .start (some 0) lines
  return (block.content header.chomping, rest)

end CodeReport.Yaml
