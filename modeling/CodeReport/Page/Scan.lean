/-!
# Pieces of a page

A page as a browser takes it apart, character by character: start tags with
their attributes, end tags, and characters of text. What stands between `<!` and
the next `>` is left out. Names and attribute values are kept as they are
written, in their letter case and with their escapes.

The reader is stricter than a browser in two ways. An end tag consists of its
name alone, and the content of a style sheet or a script ends at the first `</`,
whatever name follows. A page that this reader takes apart without fault does
not depend on either.
-/

namespace CodeReport.Page

/-- A piece of a page. -/
inductive Token where
  | character (character : Char)
  | opening (name : String) (attributes : List (String × String))
  | closing (name : String)
  deriving Repr, DecidableEq

/-- A start tag as far as it is read. -/
structure StartTag where
  name : String
  attributes : List (String × String)
  deriving Repr, DecidableEq

/-- A start tag with one more attribute. -/
def StartTag.add (tag : StartTag) (name value : List Char) : StartTag :=
  { tag with attributes := tag.attributes ++ [(String.ofList name, String.ofList value)] }

/-- Where in a page its reader is. -/
inductive Place where
  | text
  /-- Behind `<`. -/
  | sign
  | tagName (name : List Char)
  /-- In a start tag, where attributes can begin. -/
  | attributes (tag : StartTag)
  | attributeName (tag : StartTag) (name : List Char)
  /-- Behind the name of an attribute and a blank. -/
  | afterName (tag : StartTag) (name : List Char)
  | beforeValue (tag : StartTag) (name : List Char)
  | quoted (tag : StartTag) (name : List Char) (quote : Char) (value : List Char)
  | unquoted (tag : StartTag) (name value : List Char)
  | closing (name : List Char)
  /-- Behind `<!`. -/
  | declaration
  /-- In content that is no markup. -/
  | verbatim
  /-- Behind `<` in content that is no markup. -/
  | verbatimSign
  deriving Repr, DecidableEq

/-- The elements whose content is no markup. -/
def verbatimNames : List String := ["style", "script"]

/-- The blanks of markup. -/
def isMarkupBlank (character : Char) : Bool :=
  character = ' ' || character = '\t' || character = '\n' || character = '\r' || character = '\x0C'

/-- The characters that end the name of a tag. -/
def endsTagName (character : Char) : Bool :=
  isMarkupBlank character || character = '/' || character = '>'

namespace Place

/-- The place behind a start tag, with the tag. -/
def behindTag (tag : StartTag) : Place × List Token :=
  (if verbatimNames.contains tag.name then .verbatim else .text, [.opening tag.name tag.attributes])

/-- The place behind one character where attributes can begin. -/
def inTag (tag : StartTag) (character : Char) : Place × List Token :=
  if character = '>' then behindTag tag
  else if isMarkupBlank character || character = '/' then (.attributes tag, [])
  else (.attributeName tag [character], [])

/-- The place behind one character, and the pieces that are complete with it. -/
def next (place : Place) (character : Char) : Place × List Token :=
  match place with
  | .text => if character = '<' then (.sign, []) else (.text, [.character character])
  | .sign =>
    if character.isAlpha then (.tagName [character], [])
    else if character = '/' then (.closing [], [])
    else if character = '!' || character = '?' then (.declaration, [])
    else if character = '<' then (.sign, [.character '<'])
    else (.text, [.character '<', .character character])
  | .tagName name =>
    if endsTagName character then inTag ⟨String.ofList name, []⟩ character
    else (.tagName (name ++ [character]), [])
  | .attributes tag => inTag tag character
  | .attributeName tag name =>
    if character = '=' then (.beforeValue tag name, [])
    else if isMarkupBlank character then (.afterName tag name, [])
    else if endsTagName character then inTag (tag.add name []) character
    else (.attributeName tag (name ++ [character]), [])
  | .afterName tag name =>
    if character = '=' then (.beforeValue tag name, [])
    else if isMarkupBlank character then (.afterName tag name, [])
    else inTag (tag.add name []) character
  | .beforeValue tag name =>
    if isMarkupBlank character then (.beforeValue tag name, [])
    else if character = '"' || character = '\x27' then (.quoted tag name character [], [])
    else if character = '>' then behindTag (tag.add name [])
    else (.unquoted tag name [character], [])
  | .quoted tag name quote value =>
    if character = quote then (.attributes (tag.add name value), [])
    else (.quoted tag name quote (value ++ [character]), [])
  | .unquoted tag name value =>
    if isMarkupBlank character then (.attributes (tag.add name value), [])
    else if character = '>' then behindTag (tag.add name value)
    else (.unquoted tag name (value ++ [character]), [])
  | .closing name =>
    if character = '>' then (.text, [.closing (String.ofList name)])
    else (.closing (name ++ [character]), [])
  | .declaration => if character = '>' then (.text, []) else (.declaration, [])
  | .verbatim =>
    if character = '<' then (.verbatimSign, []) else (.verbatim, [.character character])
  | .verbatimSign =>
    if character = '/' then (.closing [], [])
    else if character = '<' then (.verbatimSign, [.character '<'])
    else (.verbatim, [.character '<', .character character])

end Place

/-- The place behind characters, and the pieces that are complete with them. -/
def scan (place : Place) : List Char → Place × List Token
  | [] => (place, [])
  | character :: rest =>
    let (next, tokens) := place.next character
    let (last, later) := scan next rest
    (last, tokens ++ later)

/-- A character is read before those behind it. -/
theorem scan_cons (place : Place) (character : Char) (rest : List Char) :
    scan place (character :: rest) =
      ((scan (place.next character).1 rest).1,
        (place.next character).2 ++ (scan (place.next character).1 rest).2) := rfl

end CodeReport.Page
