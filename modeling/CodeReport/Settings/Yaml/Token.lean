import CodeReport.Settings.Yaml.Scalar
import CodeReport.Settings.Yaml.Tag

/-!
# YAML tokens

A document comes down to tokens. Most of them are written; that a mapping begins
or ends in a block is told from the columns of its keys. A configuration holds no
collection within its mapping and no sequence, so a text that opens one is
refused here.

A key before a colon is found only at the colon. What could be one is therefore
held back: tokens are gathered until the colon puts the key in front of them. It
has to come in the same line, after no more than 1024 characters. Where a block
needs a key, the lack of its colon is a fault.
-/

namespace CodeReport.Yaml

/-- A part of a document. -/
inductive Token where
  | directive (directive : Directive)
  | documentStart
  | documentEnd
  | mappingStart (flow : Bool)
  | mappingEnd (flow : Bool)
  | comma
  | key
  | value
  | alias (name : String)
  | anchor (name : String)
  | tag (tag : Tag)
  | scalar (style : Style) (content : String)
  deriving Repr, DecidableEq

/-- A place in a text. -/
structure Place where
  line : Nat
  column : Nat
  deriving Repr, DecidableEq

/-- The place behind a character. -/
def Place.next (place : Place) (character : Char) : Place :=
  if isBreak character then ⟨place.line + 1, 0⟩ else { place with column := place.column + 1 }

/-- The number of characters in which a colon makes a key of what stands before it. -/
def keyReach : Nat := 1024

/-- What could be a key. -/
structure Held where
  place : Place
  /-- Whether it has to be one. -/
  required : Bool
  /-- The tokens from its first on, in reverse. -/
  tokens : List Token
  deriving Repr, DecidableEq

/-- A reading of tokens. -/
structure Reading where
  place : Place
  rest : List Char
  /-- Whether a mapping between braces is open. -/
  flow : Bool
  /-- The column of the keys of a mapping that is open in a block. -/
  column : Option Nat
  /-- Whether a key may begin here. -/
  keyAllowed : Bool
  held : Option Held
  /-- The tokens before those held back, in reverse. -/
  tokens : List Token
  deriving Repr, DecidableEq

namespace Reading

/-- The reading of a text at its start. -/
def start (text : List Char) : Reading :=
  ⟨⟨0, 0⟩, text, false, none, true, none, []⟩

/-- The reading with one more token. -/
def put (reading : Reading) (token : Token) : Reading :=
  match reading.held with
  | some held => { reading with held := some { held with tokens := token :: held.tokens } }
  | none => { reading with tokens := token :: reading.tokens }

/-- The reading at a later place, where the text still goes on with `rest`. -/
def advance (reading : Reading) (rest : List Char) : Reading :=
  let passed := reading.rest.take (reading.rest.length - rest.length)
  { reading with place := passed.foldl Place.next reading.place, rest }

/-- The reading with or without leave to begin a key. -/
def allow (reading : Reading) (keyAllowed : Bool) : Reading :=
  { reading with keyAllowed }

/-! ## Keys that are held back -/

/-- What was held back is no key. -/
def release? (reading : Reading) : Option Reading :=
  match reading.held with
  | none => some reading
  | some held =>
    if held.required then none
    else some { reading with held := none, tokens := held.tokens ++ reading.tokens }

/-- What was held back too long is no key. -/
def dropStale? (reading : Reading) : Option Reading :=
  match reading.held with
  | none => some reading
  | some held =>
    if held.place.line < reading.place.line ||
        held.place.column + keyReach < reading.place.column then
      reading.release?
    else some reading

/-- Hold back what follows, if it could be a key. -/
def hold? (reading : Reading) : Option Reading := do
  if reading.keyAllowed then
    let released ← reading.release?
    let required := !reading.flow && reading.column = some reading.place.column
    return { released with held := some ⟨reading.place, required, []⟩ }
  else return reading

/-! ## Mappings in a block -/

/-- A key or a value stands at a column: a mapping opens there, unless it is the column of the one
    that is open. -/
def enter? (reading : Reading) (column : Nat) : Option Reading :=
  match reading.column with
  | none => some { reading.put (.mappingStart false) with column := some column }
  | some opened => if opened = column then some reading else none

/-- The same where no key was held back. Between braces nothing opens. -/
def enterHere? (reading : Reading) : Option Reading :=
  if reading.flow then some reading
  else if reading.keyAllowed then reading.enter? reading.place.column
  else none

/-- The mapping that is open in a block ends. -/
def leave (reading : Reading) : Reading :=
  match reading.column with
  | none => reading
  | some _ => { reading.put (.mappingEnd false) with column := none }

/-- At a column left of its keys the mapping ends. -/
def leaveLeft (reading : Reading) : Reading :=
  if reading.column.any (reading.place.column < ·) then reading.leave else reading

/-- All that is open ends. Braces have to be closed before. -/
def close? (reading : Reading) : Option Reading :=
  if reading.flow then none else (reading.leave.allow false).release?

/-! ## Between tokens -/

/-- Whether a key may begin at the next token, and the text from that on. A tab is a blank between
    braces, and in a block where no key may begin. A byte-order mark at the start of a line is
    passed over, but has a column. -/
def skipped (flow : Bool) : (keyAllowed comment : Bool) → Place → List Char →
    Bool × List Char
  | keyAllowed, _, _, [] => (keyAllowed, [])
  | keyAllowed, comment, place, character :: rest =>
    let next := place.next character
    if isBreak character then skipped flow (keyAllowed || !flow) false next rest
    else if comment || character = ' ' || (character = '\t' && (flow || !keyAllowed)) ||
        (character = '\uFEFF' && place.column = 0) then
      skipped flow keyAllowed comment next rest
    else if character = '#' then skipped flow keyAllowed true next rest
    else (keyAllowed, character :: rest)

/-- The reading at the next token, with nothing held back or open that ends before it. -/
def atToken? (reading : Reading) : Option Reading :=
  let (keyAllowed, rest) := skipped reading.flow reading.keyAllowed false reading.place reading.rest
  (((reading.advance rest).allow keyAllowed).dropStale?).map leaveLeft

/-! ## Tokens -/

/-- A key behind a question mark, or what begins there. -/
def explicitKey? (reading : Reading) (rest : List Char) : Option Reading := do
  let entered ← (← reading.enterHere?).release?
  return ((entered.put .key).advance rest).allow !reading.flow

/-- A value behind a colon. The colon makes a key of what is held back. -/
def value? (reading : Reading) (rest : List Char) : Option Reading := do
  let keyed ← match reading.held with
    | some held =>
      let before := { reading with held := none }
      let entered ← if reading.flow then some before else before.enter? held.place.column
      pure { entered with tokens := held.tokens ++ Token.key :: entered.tokens }
    | none => reading.enterHere?
  return ((keyed.put .value).advance rest).allow (!reading.flow && reading.held.isNone)

/-- A token that could belong to a key. -/
def inKey? (reading : Reading) (token : Token) (rest : List Char) (keyAllowed : Bool) :
    Option Reading := do
  let held ← reading.hold?
  return ((held.put token).advance rest).allow keyAllowed

/-- The name of an anchor and what follows it. -/
def name? (text : List Char) : Option (String × List Char) :=
  let name := text.takeWhile isWord
  let rest := text.dropWhile isWord
  let ends := atWordEnd rest ||
    rest.head?.any ['?', ':', ',', ']', '\x7d', '%', '@', '`'].contains
  if !name.isEmpty && ends then some (String.ofList name, rest) else none

/-- A tag. -/
def tag? (reading : Reading) (text : List Char) : Option Reading := do
  let (tag, rest) ← Tag.read? text
  if atWordEnd rest || (reading.flow && rest.head? = some ',') then
    reading.inKey? (.tag tag) rest false
  else none

/-- A quoted scalar from behind its quote. -/
def quotedScalar? (reading : Reading) (quote : Char) (text : List Char) : Option Reading := do
  let (content, rest) ← quoted? quote 0 [] .none false text
  reading.inKey? (.scalar .quoted (String.ofList content)) rest false

/-- A block scalar from behind the character that opens it. -/
def blockScalar? (reading : Reading) (style : Style) (text : List Char) : Option Reading :=
  match reading.flow, reading.column with
  | false, some column => do
    let (content, rest) ← block? (style = .folded) column text
    let released ← reading.release?
    return ((released.put (.scalar style (String.ofList content))).advance rest).allow true
  | _, _ => none

/-- A plain scalar. A key may begin behind it if it is the last in its line. -/
def plainScalar? (reading : Reading) : Option Reading := do
  let surroundings :=
    if reading.flow then .flow
    else .block (match reading.column with | some column => column + 1 | none => 0)
  if beginsPlain surroundings reading.rest then
    let read ← plain? surroundings [] .none 0 reading.rest
    reading.inKey? (.scalar .plain (String.ofList read.content)) read.rest read.endsLine
  else none

/-- A token that a character of its own begins, or a plain scalar. -/
def part? (reading : Reading) : Option Reading :=
  match reading.rest with
  | '\x7b' :: rest => do
    if reading.flow || reading.column.isSome then none
    else
      let opened := { ← reading.release? with flow := true }
      return ((opened.put (.mappingStart true)).advance rest).allow true
  | '\x7d' :: rest => do
    if reading.flow then
      let closed := { ← reading.release? with flow := false }
      return ((closed.put (.mappingEnd true)).advance rest).allow false
    else none
  | ',' :: rest => do
    if reading.flow then
      let released ← reading.release?
      return ((released.put .comma).advance rest).allow true
    else none
  | '*' :: rest => do
    let (name, rest) ← name? rest
    reading.inKey? (.alias name) rest false
  | '&' :: rest => do
    let (name, rest) ← name? rest
    reading.inKey? (.anchor name) rest false
  | '!' :: rest => reading.tag? rest
  | '|' :: rest => reading.blockScalar? .literal rest
  | '>' :: rest => reading.blockScalar? .folded rest
  | '"' :: rest => reading.quotedScalar? '"' rest
  | '\x27' :: rest => reading.quotedScalar? '\x27' rest
  | '?' :: rest =>
    if reading.flow || atWordEnd rest then reading.explicitKey? rest else reading.plainScalar?
  | ':' :: rest =>
    if reading.flow || atWordEnd rest then reading.value? rest else reading.plainScalar?
  | _ => reading.plainScalar?

/-- What stands at the start of a line and ends all before it. -/
def mark? (reading : Reading) (token : Token) (rest : List Char) : Option Reading :=
  reading.close?.map fun closed => (closed.put token).advance rest

/-- The next token, where there is one. -/
def next? (reading : Reading) : Option Reading :=
  if reading.place.column = 0 then
    if reading.rest.head? = some '%' then do
      let (directive, rest) ← directive? reading.rest.tail
      reading.mark? (.directive directive) rest
    else if startsMarker '-' reading.rest then reading.mark? .documentStart (reading.rest.drop 3)
    else if startsMarker '.' reading.rest then reading.mark? .documentEnd (reading.rest.drop 3)
    else reading.part?
  else reading.part?

/-- The tokens of a text of fewer than `fuel` characters. -/
def tokens? : (fuel : Nat) → Reading → Option (List Token)
  | 0, _ => none
  | fuel + 1, reading => do
    let reading ← reading.atToken?
    if reading.rest.isEmpty then return (← reading.close?).tokens.reverse
    else tokens? fuel (← reading.next?)

end Reading

/-- The tokens of a text. Each of them that is written has at least one character. -/
def tokens? (text : List Char) : Option (List Token) :=
  Reading.tokens? (text.length + 1) (.start text)

end CodeReport.Yaml
