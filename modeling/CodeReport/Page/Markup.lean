/-!
# Markup

Pages are trees of elements, and `Markup.write` is the only place where a tree
becomes text. The names of tags and attributes are a closed vocabulary, so
nothing that is shown can add one. Texts and attribute values are escaped when
they are written; only a style sheet and a script are written as they are.

An empty text is written as a space, so that every text shows in the page. Two
texts in a row are kept apart by the marker `<!>`, which also ends a list of
children and takes the place of an absent child.
-/

namespace CodeReport.Page

/-- The elements that have an end tag. -/
inductive Tag where
  | a
  | body
  | button
  | code
  | details
  | div
  | footer
  | g
  | h1
  | h2
  | h4
  | head
  | header
  | html
  | li
  | main
  | ol
  | p
  | path
  | pre
  | rect
  | sectioning
  | span
  | strong
  | summary
  | svg
  | table
  | tbody
  | td
  | text
  | th
  | thead
  | title
  | tr
  | ul
  deriving Repr, DecidableEq

/-- The name of an element. -/
def Tag.name : Tag → String
  | .a => "a"
  | .body => "body"
  | .button => "button"
  | .code => "code"
  | .details => "details"
  | .div => "div"
  | .footer => "footer"
  | .g => "g"
  | .h1 => "h1"
  | .h2 => "h2"
  | .h4 => "h4"
  | .head => "head"
  | .header => "header"
  | .html => "html"
  | .li => "li"
  | .main => "main"
  | .ol => "ol"
  | .p => "p"
  | .path => "path"
  | .pre => "pre"
  | .rect => "rect"
  | .sectioning => "section"
  | .span => "span"
  | .strong => "strong"
  | .summary => "summary"
  | .svg => "svg"
  | .table => "table"
  | .tbody => "tbody"
  | .td => "td"
  | .text => "text"
  | .th => "th"
  | .thead => "thead"
  | .title => "title"
  | .tr => "tr"
  | .ul => "ul"

/-- The elements whose content is no markup. -/
inductive VerbatimTag where
  | style
  | script
  deriving Repr, DecidableEq

/-- The name of an element whose content is no markup. -/
def VerbatimTag.name : VerbatimTag → String
  | .style => "style"
  | .script => "script"

/-- The attributes. -/
inductive AttributeName where
  | ariaExpanded
  | ariaHidden
  | ariaLabel
  | charset
  | classes
  | colspan
  | content
  | d
  | dataCopy
  | dataExpected
  | dataKind
  | dataMode
  | dataSectionBody
  | dataSectionKey
  | dataSeverity
  | dataToggle
  | fill
  | height
  | href
  | httpEquiv
  | id
  | inlineStyle
  | name
  | rel
  | role
  | target
  | title
  | viewBox
  | width
  | x
  | xmlns
  | y
  deriving Repr, DecidableEq

/-- The name of an attribute as it is written. -/
def AttributeName.written : AttributeName → String
  | .ariaExpanded => "aria-expanded"
  | .ariaHidden => "aria-hidden"
  | .ariaLabel => "aria-label"
  | .charset => "charset"
  | .classes => "class"
  | .colspan => "colspan"
  | .content => "content"
  | .d => "d"
  | .dataCopy => "data-copy"
  | .dataExpected => "data-expected"
  | .dataKind => "data-kind"
  | .dataMode => "data-mode"
  | .dataSectionBody => "data-section-body"
  | .dataSectionKey => "data-section-key"
  | .dataSeverity => "data-severity"
  | .dataToggle => "data-toggle"
  | .fill => "fill"
  | .height => "height"
  | .href => "href"
  | .httpEquiv => "http-equiv"
  | .id => "id"
  | .inlineStyle => "style"
  | .name => "name"
  | .rel => "rel"
  | .role => "role"
  | .target => "target"
  | .title => "title"
  | .viewBox => "viewBox"
  | .width => "width"
  | .x => "x"
  | .xmlns => "xmlns"
  | .y => "y"

/-- Attributes in the order in which they are written. -/
abbrev Attributes := List (AttributeName × String)

/-- A piece of a page. -/
inductive Markup where
  | text (content : String)
  /-- The marker `<!>`. -/
  | marker
  | element (tag : Tag) (attributes : Attributes) (children : List Markup)
  /-- The element `meta`, which has no content and no end tag. -/
  | metadata (attributes : Attributes)
  /-- A style sheet or a script. -/
  | verbatim (tag : VerbatimTag) (content : String)
  deriving Repr

/-- How a character stands in a text. -/
def escapeInText (character : Char) : List Char :=
  if character = '&' then "&amp;".toList
  else if character = '<' then "&lt;".toList
  else if character = '>' then "&gt;".toList
  else [character]

/-- How a character stands in an attribute value. -/
def escapeInValue (character : Char) : List Char :=
  if character = '"' then "&quot;".toList else escapeInText character

/-- A text as it is written. -/
def writeText (content : String) : String :=
  if content.isEmpty then " " else String.ofList (content.toList.flatMap escapeInText)

/-- An attribute as it is written, with a space before it. -/
def writeAttribute (pair : AttributeName × String) : String :=
  " " ++ pair.1.written ++ "=\"" ++
    String.ofList (pair.2.toList.flatMap escapeInValue) ++ "\""

/-- Attributes as they are written. -/
def writeAttributes (attributes : Attributes) : String :=
  String.join (attributes.map writeAttribute)

namespace Markup

/-- Whether a piece is a text. -/
def isText : Markup → Bool
  | .text _ => true
  | _ => false

mutual
/-- A piece as it is written. -/
def write : Markup → String
  | .text content => writeText content
  | .marker => "<!>"
  | .element tag attributes children =>
    "<" ++ tag.name ++ writeAttributes attributes ++ ">" ++ writeAll false children ++
      "</" ++ tag.name ++ ">"
  | .metadata attributes => "<meta" ++ writeAttributes attributes ++ ">"
  | .verbatim tag content => "<" ++ tag.name ++ ">" ++ content ++ "</" ++ tag.name ++ ">"

/-- Pieces in a row; `afterText` says whether a text comes directly before them. -/
def writeAll (afterText : Bool) : List Markup → String
  | [] => ""
  | piece :: rest =>
    (if afterText && piece.isText then "<!>" else "") ++ write piece ++
      writeAll piece.isText rest
end

/-- An element whose only attribute is its class. -/
def classed (tag : Tag) (classes : String) (children : List Markup) : Markup :=
  .element tag [(.classes, classes)] children

/-- An element without attributes. -/
def plain (tag : Tag) (children : List Markup) : Markup :=
  .element tag [] children

/-- A piece that may be absent. -/
def ofOption (piece : Option Markup) : Markup :=
  piece.getD .marker

/-- A list of pieces with its end. -/
def listed (pieces : List Markup) : List Markup :=
  pieces ++ [.marker]

/-- What is written where there is nothing to show. -/
def nothing : Markup := .text ""

end Markup

end CodeReport.Page
