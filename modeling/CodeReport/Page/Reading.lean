import CodeReport.Page.Tree
import CodeReport.Text.Lines

/-!
# What is read in a page

The texts and attribute values of a page that was read, with their escapes taken
back. An escape is taken back once: what it stands for is text, even if it looks
like a part of another escape. An ampersand that begins no escape stands for
itself.
-/

namespace CodeReport.Page

/-- Characters with their escapes taken back. -/
def unescape : List Char → List Char
  | '&' :: 'a' :: 'm' :: 'p' :: ';' :: rest => '&' :: unescape rest
  | '&' :: 'l' :: 't' :: ';' :: rest => '<' :: unescape rest
  | '&' :: 'g' :: 't' :: ';' :: rest => '>' :: unescape rest
  | '&' :: 'q' :: 'u' :: 'o' :: 't' :: ';' :: rest => '"' :: unescape rest
  | character :: rest => character :: unescape rest
  | [] => []

/-- What a text is read as. An empty text is a space in a page. -/
def readable (content : String) : String :=
  if content.isEmpty then " " else content

mutual
/-- The characters in a node, as they are written. -/
def Node.characters : Node → List Char
  | .character character => [character]
  | .element _ _ children => charactersOf children

/-- The characters in nodes, as they are written. -/
def charactersOf : List Node → List Char
  | [] => []
  | node :: rest => node.characters ++ charactersOf rest
end

namespace Node

/-- The text in a node. -/
def text (node : Node) : String :=
  String.ofList (unescape node.characters)

/-- The value of an attribute of a node. -/
def value? (label : String) : Node → Option String
  | .character _ => none
  | .element _ attributes _ =>
    (attributes.lookup label).map fun written => String.ofList (unescape written.toList)

/-- Whether a name is among the classes of a node. -/
def hasClass (name : String) (node : Node) : Bool :=
  (node.value? "class").any fun classes => (Text.split ' ' classes.toList).contains name.toList

end Node

/-- The texts of the elements of a name, in the order of their start tags. -/
def textsNamed (name : String) (nodes : List Node) : List String :=
  ((elementsOf nodes).filter (Node.isNamed name)).map Node.text

/-- A character that begins no escape stands for itself. -/
theorem unescape_cons (character : Char) (rest : List Char) (ordinary : character ≠ '&') :
    unescape (character :: rest) = character :: unescape rest := by
  rw [unescape]
  all_goals exact fun _ same _ => ordinary same

end CodeReport.Page
