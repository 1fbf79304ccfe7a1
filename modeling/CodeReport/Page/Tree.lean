import CodeReport.Page.Markup
import CodeReport.Page.Scan

/-!
# The tree of a page

What a page holds when it is read back. A page has a tree only if it is well
nested: each end tag names the innermost element that is still open, and no
element stays open. Only `meta` has no end tag. Characters stand in the tree as
they are written, with their escapes.
-/

namespace CodeReport.Page

/-- A part of a page that was read. -/
inductive Node where
  | character (character : Char)
  | element (name : String) (attributes : List (String × String)) (children : List Node)
  deriving Repr

/-- The characters of a text, each for itself. -/
def characterNodes (characters : List Char) : List Node :=
  characters.map Node.character

/-- An element without its end tag, and what stands before it in the element around it. -/
structure Unclosed where
  tag : StartTag
  before : List Node
  deriving Repr

/-- A tree as far as it is read: the nodes of the innermost open element, and the open elements
    from the inside out. -/
structure Growth where
  nodes : List Node
  unclosed : List Unclosed
  deriving Repr

namespace Growth

/-- Nothing is read. -/
def empty : Growth := ⟨[], []⟩

/-- Put nodes behind those of the innermost open element. -/
def add (growth : Growth) (nodes : List Node) : Growth :=
  { growth with nodes := growth.nodes ++ nodes }

/-- The tree with one more piece. An end tag closes the innermost element, if it has its name. -/
def next? (growth : Growth) : Token → Option Growth
  | .character character => some (growth.add [.character character])
  | .opening name attributes =>
    if name = "meta" then some (growth.add [.element name attributes []])
    else some ⟨[], ⟨⟨name, attributes⟩, growth.nodes⟩ :: growth.unclosed⟩
  | .closing name =>
    match growth.unclosed with
    | [] => none
    | innermost :: around =>
      if innermost.tag.name = name then
        some ⟨innermost.before ++ [.element name innermost.tag.attributes growth.nodes], around⟩
      else none

end Growth

/-- The nodes of a page, unless it is not well nested or ends within a tag. -/
def readPage? (page : String) : Option (List Node) :=
  match scan .text page.toList with
  | (.text, tokens) =>
    match tokens.foldlM Growth.next? Growth.empty with
    | some ⟨nodes, []⟩ => some nodes
    | _ => none
  | _ => none

mutual
/-- The elements in a node, itself included, in the order of their start tags. -/
def Node.elements : Node → List Node
  | .character _ => []
  | .element name attributes children =>
    .element name attributes children :: elementsOf children

/-- The elements in nodes, in the order of their start tags. -/
def elementsOf : List Node → List Node
  | [] => []
  | node :: rest => node.elements ++ elementsOf rest
end

/-- Whether a node is an element of a name. -/
def Node.isNamed (name : String) : Node → Bool
  | .character _ => false
  | .element other _ _ => other == name

/-- The elements of a name in a node, in the order of their start tags. -/
def Node.named (name : String) (node : Node) : List Node :=
  node.elements.filter (Node.isNamed name)

/-- An attribute with its value as it is written. -/
def writtenAttribute (pair : AttributeName × String) : String × String :=
  (pair.1.written, String.ofList (pair.2.toList.flatMap escapeInValue))

namespace Markup

mutual
/-- The pieces that markup is written in. -/
def tokens : Markup → List Token
  | .text content => (writeText content).toList.map .character
  | .marker => []
  | .element tag attributes children =>
    .opening tag.name (attributes.map writtenAttribute) :: tokensOf children ++ [.closing tag.name]
  | .metadata attributes => [.opening "meta" (attributes.map writtenAttribute)]
  | .verbatim tag content =>
    .opening tag.name [] :: content.toList.map .character ++ [.closing tag.name]

/-- The pieces that markup in a row is written in. -/
def tokensOf : List Markup → List Token
  | [] => []
  | piece :: rest => tokens piece ++ tokensOf rest
end

mutual
/-- The nodes that markup stands for. -/
def nodes : Markup → List Node
  | .text content => characterNodes (writeText content).toList
  | .marker => []
  | .element tag attributes children =>
    [.element tag.name (attributes.map writtenAttribute) (nodesOf children)]
  | .metadata attributes => [.element "meta" (attributes.map writtenAttribute) []]
  | .verbatim tag content => [.element tag.name [] (characterNodes content.toList)]

/-- The nodes that markup in a row stands for. -/
def nodesOf : List Markup → List Node
  | [] => []
  | piece :: rest => nodes piece ++ nodesOf rest
end

mutual
/-- The contents of the style sheets, or of the scripts, in markup. -/
@[simp] def verbatims (wanted : VerbatimTag) : Markup → List String
  | .text _ => []
  | .marker => []
  | .element _ _ children => verbatimsOf wanted children
  | .metadata _ => []
  | .verbatim tag content => if tag = wanted then [content] else []

/-- The contents of the style sheets, or of the scripts, in markup in a row. -/
@[simp] def verbatimsOf (wanted : VerbatimTag) : List Markup → List String
  | [] => []
  | piece :: rest => verbatims wanted piece ++ verbatimsOf wanted rest
end

end Markup

end CodeReport.Page
