import CodeReport.Number.Digits
import CodeReport.Settings.Yaml.Gap

/-!
# Tags in YAML

A tag says of what kind a node is. It stands between angle brackets in full, or
behind a handle, which is short for a stem. Stems are what directives at the
head of a document give to handles; two handles have one without that.

A tag is a row of octets. Some characters stand for themselves in it. An octet
may also be escaped by a percent sign and two hexadecimal digits, where those
that write one character stand together. Nothing counts from an escaped zero on.
-/

namespace CodeReport.Yaml

/-- The characters of names. -/
def isWord (character : Char) : Bool :=
  character.isAlphanum || character = '_' || character = '-'

/-- The characters that stand for themselves in a tag besides those of names. Three more do where
    they cannot divide what stands between brackets. -/
def isTagSign (divided : Bool) (character : Char) : Bool :=
  [';', '/', '?', ':', '@', '&', '=', '+', '$', '.', '!', '~', '*', '\x27', '(', ')'].contains
      character ||
    (!divided && [',', '[', ']'].contains character)

/-- How many octets follow the first of those that write one character. -/
def followers? (octet : Nat) : Option Nat :=
  if octet < 0x80 then some 0
  else if 0xC0 ≤ octet && octet < 0xE0 then some 1
  else if 0xE0 ≤ octet && octet < 0xF0 then some 2
  else if 0xF0 ≤ octet && octet < 0xF8 then some 3
  else none

/-- How many octets are awaited behind an escaped one, of which some number was awaited before. -/
def awaitedBehind? (octet : Nat) : Nat → Option Nat
  | 0 => followers? octet
  | awaited + 1 => if 0x80 ≤ octet && octet < 0xC0 then some awaited else none

/-- The octets that a text begins with, and what follows them. Escaped octets must follow while
    `awaited` is not zero. -/
def octets? (divided : Bool) : (awaited : Nat) → List Char → Option (List UInt8 × List Char)
  | awaited, '%' :: first :: second :: rest => do
    let octet ← Digits.number? 16 [first, second]
    let (octets, rest) ← octets? divided (← awaitedBehind? octet awaited) rest
    return (octet.toUInt8 :: octets, rest)
  | 0, character :: rest =>
    if isWord character || isTagSign divided character then do
      let (octets, rest) ← octets? divided 0 rest
      return (character.toNat.toUInt8 :: octets, rest)
    else some ([], character :: rest)
  | 0, [] => some ([], [])
  | _ + 1, _ => none

/-- The octets that count. -/
def cut (octets : List UInt8) : List UInt8 :=
  octets.takeWhile (· != 0)

/-- At least one octet, and what follows. -/
def someOctets? (divided : Bool) (text : List Char) : Option (List UInt8 × List Char) :=
  match octets? divided 0 text with
  | some ([], _) => none
  | some (octets, rest) => some (cut octets, rest)
  | none => none

/-- A tag as it is written. -/
structure Tag where
  /-- What is short for the stem, if the tag is not written in full. -/
  handle : Option String
  octets : List UInt8
  deriving Repr, DecidableEq

namespace Tag

/-- The octets of a text. -/
def ofText (text : String) : List UInt8 :=
  text.toUTF8.toList

/-- The tag that says no more than that there is one. -/
def mark : List UInt8 := ofText "!"

/-- A tag from behind its exclamation mark, and what follows it. -/
def read? : List Char → Option (Tag × List Char)
  | '<' :: rest => do
    let (octets, rest) ← someOctets? false rest
    match rest with
    | '>' :: rest => return (⟨none, octets⟩, rest)
    | _ => none
  | text =>
    match text.dropWhile isWord with
    | '!' :: rest => do
      let (octets, rest) ← someOctets? true rest
      return (⟨some ("!" ++ String.ofList (text.takeWhile isWord) ++ "!"), octets⟩, rest)
    | _ => do
      let (octets, rest) ← octets? true 0 text
      return (if (cut octets).isEmpty then ⟨none, mark⟩ else ⟨some "!", cut octets⟩, rest)

/-- The stems of the handles that have one without a directive. -/
def stems : List (String × List UInt8) :=
  [("!", mark), ("!!", ofText "tag:yaml.org,2002:")]

/-- The full tag, if its handle has a stem. -/
def full? (stems : List (String × List UInt8)) (tag : Tag) : Option (List UInt8) :=
  match tag.handle with
  | none => some tag.octets
  | some handle => (stems.lookup handle).map (· ++ tag.octets)

end Tag

/-! ## Directives -/

/-- What a line says that begins with a percent sign. -/
inductive Directive where
  | version (major minor : Nat)
  | stem (handle : String) (octets : List UInt8)
  deriving Repr, DecidableEq

/-- A number of at most nine digits and what follows it. -/
def shortNumber? (text : List Char) : Option (Nat × List Char) :=
  let digits := text.takeWhile Char.isDigit
  if digits.length ≤ 9 then
    (Digits.number? 10 digits).map fun number => (number, text.dropWhile Char.isDigit)
  else none

/-- The two numbers of a version and what follows them. -/
def version? (text : List Char) : Option (Directive × List Char) := do
  let (major, rest) ← shortNumber? text
  match rest with
  | '.' :: rest =>
    let (minor, rest) ← shortNumber? rest
    return (.version major minor, rest)
  | _ => none

/-- A handle and what follows it. A handle that is more than an exclamation mark ends with one. -/
def handle? : List Char → Option (String × List Char)
  | '!' :: rest =>
    let word := rest.takeWhile isWord
    match rest.dropWhile isWord with
    | '!' :: rest => some ("!" ++ String.ofList word ++ "!", rest)
    | rest => if word.isEmpty then some ("!", rest) else none
  | _ => none

/-- A handle with its stem and what follows them. -/
def stem? (text : List Char) : Option (Directive × List Char) := do
  let (handle, rest) ← handle? text
  if rest.head?.any isSpace then
    let (octets, rest) ← someOctets? false (rest.dropWhile isSpace)
    if atWordEnd rest then return (.stem handle octets, rest) else none
  else none

/-- A directive from behind its percent sign, and the text from the end of its line on. -/
def directive? (text : List Char) : Option (Directive × List Char) := do
  let name := String.ofList (text.takeWhile isWord)
  let rest := text.dropWhile isWord
  if atWordEnd rest then
    let read? := if name = "YAML" then version? else if name = "TAG" then stem? else fun _ => none
    let (directive, rest) ← read? (rest.dropWhile isSpace)
    return (directive, ← lineEnd? rest)
  else none

end CodeReport.Yaml
