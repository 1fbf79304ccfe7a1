/-!
# Section bodies

The content of a section is a text, a list, a table or code. A body that could
not be made as its section declared it is degraded: it keeps the declared kind
and says what is wrong, so there is always something to show.

Tables are not rectangular by construction, since a report can be written by
hand. `Body.tableDefect?` finds the first fault of a table's shape.
-/

namespace CodeReport

/-- How a list is marked. -/
inductive ListKind where
  | bullet
  | numbered
  deriving Repr, DecidableEq

/-- The name of a kind of list. -/
def ListKind.name : ListKind → String
  | .bullet => "bullet"
  | .numbered => "numbered"

/-- The kinds of content that a section can declare. -/
inductive Section.Kind where
  | text
  | list
  | table
  | code
  deriving Repr, DecidableEq

/-- The name of a kind of content. -/
def Section.Kind.name : Section.Kind → String
  | .text => "text"
  | .list => "list"
  | .table => "table"
  | .code => "code"

/-- The content of a section. -/
inductive Section.Body where
  | text (content : String)
  | list (kind : ListKind) (items : List String)
  | table (headers : List String) (rows : List (List String))
  | code (language : Option String) (content : String)
  /-- Content that is not as it was declared. -/
  | degraded (expected : Section.Kind) (reason : String)
  deriving Repr, DecidableEq

namespace Section

/-- What is wrong with the shape of a table. -/
inductive TableDefect where
  | noHeaders
  /-- Rows are counted from 1. -/
  | rowLength (row cells expected : Nat)
  deriving Repr, DecidableEq

/-- The wording of a defect. -/
def TableDefect.message : TableDefect → String
  | .noHeaders => "table has no headers"
  | .rowLength row cells expected => s!"row {row} has {cells} cells, expected {expected}"

/-- The first row, counted from `number`, that has not `width` cells. -/
def rowDefect? (width : Nat) : (number : Nat) → (rows : List (List String)) → Option TableDefect
  | _, [] => none
  | number, row :: rest =>
    if row.length = width then rowDefect? width (number + 1) rest
    else some (.rowLength number row.length width)

/-- The first defect of a table: it has no headers, or a row has not one cell for each header. -/
def tableDefect? (headers : List String) (rows : List (List String)) : Option TableDefect :=
  if headers.isEmpty then some .noHeaders else rowDefect? headers.length 1 rows

namespace Body

/-- The declared kind, also of a degraded body. -/
def kind : Body → Kind
  | .text _ => .text
  | .list .. => .list
  | .table .. => .table
  | .code .. => .code
  | .degraded expected _ => expected

/-- The first defect of a body that is a table; no other body has one. -/
def defect? : Body → Option TableDefect
  | .table headers rows => tableDefect? headers rows
  | _ => none

/-- Whether a body takes the place of one that could not be made. -/
def isDegraded : Body → Bool
  | .degraded .. => true
  | _ => false

end Body

/-- No row is found at fault exactly when each row has `width` cells. -/
theorem rowDefect?_eq_none_iff (width number : Nat) (rows : List (List String)) :
    rowDefect? width number rows = none ↔ ∀ row ∈ rows, row.length = width := by
  induction rows generalizing number with
  | nil => simp [rowDefect?]
  | cons row rest ih =>
    by_cases fits : row.length = width <;> simp [rowDefect?, fits, ih]

/-- A table without defect has headers, and one cell for each of them in every row. -/
theorem tableDefect?_eq_none_iff (headers : List String) (rows : List (List String)) :
    tableDefect? headers rows = none ↔
      headers ≠ [] ∧ ∀ row ∈ rows, row.length = headers.length := by
  cases headers with
  | nil => simp [tableDefect?]
  | cons header rest => simp [tableDefect?, rowDefect?_eq_none_iff]

end Section

end CodeReport
