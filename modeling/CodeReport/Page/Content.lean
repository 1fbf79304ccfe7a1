import CodeReport.Page.Reading
import CodeReport.Report.Body

/-!
# The content of a card

What a card shows of the body of its section: the cells of tables, the items of
lists and code. It is looked up by the names of elements alone, and by the class
that tells a list of items from a list of references. Code is read twice, where
it is shown and where it is copied from.
-/

namespace CodeReport.Page

/-- Content of bodies, as it is read. -/
structure Content where
  headers : List String := []
  rows : List (List String) := []
  /-- The cells of all rows. None stands elsewhere. -/
  cells : List String := []
  lists : List (ListKind × List String) := []
  codes : List String := []
  /-- What buttons copy. -/
  copies : List String := []
  deriving Repr, DecidableEq

namespace Node

/-- The cells of the rows in the body of a table. -/
def rows (node : Node) : List (List String) :=
  (node.named "tr").map fun row => (row.named "td").map text

/-- Whether a node is a list of items. -/
def isItemList (node : Node) : Bool :=
  (node.isNamed "ul" || node.isNamed "ol") && node.hasClass "content-list"

/-- The items of a list, with its kind. -/
def items (node : Node) : ListKind × List String :=
  (if node.isNamed "ol" then .numbered else .bullet, (node.named "li").map text)

/-- Whether a node is a button that copies. -/
def isCopyButton (node : Node) : Bool :=
  node.isNamed "button" && node.hasClass "copy-btn" && (node.value? "data-copy").isSome

end Node

/-- The content that is read in nodes. -/
def Content.read (nodes : List Node) : Content where
  headers := textsNamed "th" nodes
  rows := ((elementsOf nodes).filter (Node.isNamed "tbody")).flatMap Node.rows
  cells := textsNamed "td" nodes
  lists := ((elementsOf nodes).filter Node.isItemList).map Node.items
  codes := textsNamed "code" nodes
  copies := ((elementsOf nodes).filter Node.isCopyButton).filterMap (Node.value? "data-copy")

end CodeReport.Page

namespace CodeReport.Section.Body

open Page (readable)

/-- The content of a body as it is to be read. Texts are paragraphs, and are not looked up. -/
def content : Body → Page.Content
  | .text _ => {}
  | .list kind items => { lists := [(kind, items.map readable)] }
  | .table headers rows =>
    { headers := headers.map readable
      rows := rows.map fun row => row.map readable
      cells := rows.flatten.map readable }
  | .code _ content => { codes := [readable content], copies := [content] }
  | .degraded .. => {}

/-- Whether a body has something to show: a table has rows, and a list has items. -/
def isFilled : Body → Bool
  | .list _ items => !items.isEmpty
  | .table _ rows => !rows.isEmpty
  | _ => true

end CodeReport.Section.Body
