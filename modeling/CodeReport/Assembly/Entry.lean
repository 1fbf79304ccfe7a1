import CodeReport.Answer.Field
import CodeReport.Number.Decimal
import CodeReport.Report.Basic
import CodeReport.Text.Letters

/-!
# Sections made by the service

An answer may bring its own sections. Each entry that is an object becomes one
section, and other entries are left out. What an entry declares is read loosely;
content that does not fit the declared kind makes a degraded body. A table is
shown only if it is rectangular.
-/

namespace CodeReport.Entry

open Json (Value Members)

/-- The title of a section whose entry has none. -/
def untitled : String := "Untitled section"

/-- The declared kind of content; what is not known is text. -/
def kindOf (entry : Members) : Section.Kind :=
  let word := ((entry.get? "type").bind Value.string?).map fun text =>
    Text.lowerCase (Text.trim text)
  match word with
  | some "list" => .list
  | some "table" => .table
  | some "code" => .code
  | _ => .text

/-- The words for numbered lists. -/
def numberedWords : List String := ["number", "numbered", "ordered"]

/-- How a list is marked. The words are read in any letter case but without blanks around them. -/
def listKindOf (entry : Members) : ListKind :=
  match ((entry.get? "listType").or (entry.get? "listKind")).bind Value.string? with
  | some word => if numberedWords.contains (Text.lowerCase word) then .numbered else .bullet
  | none => .bullet

/-- Content as one text: the single values of an array make one line each. -/
def textOf : Option Value → String
  | some (.array items) => "\n".intercalate (items.filterMap Value.scalarText?)
  | some value => value.scalarText?.getD ""
  | none => ""

/-- The text of a table cell: nothing for null, JSON text for what is no single value. -/
def cellText : Value → String
  | .null => ""
  | value => value.scalarText?.getD value.compact

/-- Why an entry's table is not shown. -/
inductive TableRefusal where
  /-- Rows are counted from 1. -/
  | rowNotAList (row : Nat)
  | misshapen (defect : Section.TableDefect)
  deriving Repr, DecidableEq

/-- The wording of a refusal. -/
def TableRefusal.message : TableRefusal → String
  | .rowNotAList row => s!"row {row} is not a list of cells"
  | .misshapen defect => defect.message

/-- The cells of rows that are counted from `number`, if all of them are arrays. -/
def rowsOf (number : Nat) : List Value → Except TableRefusal (List (List String))
  | [] => .ok []
  | .array cells :: rest => (rowsOf (number + 1) rest).map (cells.map cellText :: ·)
  | _ :: _ => .error (.rowNotAList number)

/-- The items of an optional array, none if it is no array. -/
def itemsOf (value : Option Value) : List Value :=
  (value.bind Value.array?).getD []

/-- The headers and rows of a table without defect. -/
def tableOf (entry : Members) : Except TableRefusal (List String × List (List String)) :=
  let headers := (itemsOf (entry.get? "tableHeaders")).map cellText
  match rowsOf 1 (itemsOf ((entry.get? "tableData").or (entry.get? "tableRows"))) with
  | .error refusal => .error refusal
  | .ok rows =>
    match Section.tableDefect? headers rows with
    | some defect => .error (.misshapen defect)
    | none => .ok (headers, rows)

/-- The table of an entry, or what takes its place. -/
def tableBody (entry : Members) : Section.Body :=
  match tableOf entry with
  | .ok (headers, rows) => .table headers rows
  | .error refusal => .degraded .table refusal.message

/-- The body of an entry. Only a table may have an object for its content, since it does not look
    at it. -/
def bodyOf (entry : Members) : Section.Body :=
  let content := entry.get? "content"
  let isObject := (content.bind Value.object?).isSome
  match kindOf entry with
  | .table => tableBody entry
  | kind =>
    if isObject then .degraded kind s!"{kind.name} content is an object"
    else
      match kind with
      | .list => .list (listKindOf entry) ((content.map Value.looseTexts).getD [])
      | .code => .code (entry.trimmedText? "language") (textOf content)
      | _ => .text (textOf content)

/-- The text without the percent signs at its end. -/
def dropPercentSigns (text : List Char) : List Char :=
  (text.reverse.dropWhile (· == '%')).reverse

/-- The number that a confidence text writes: blanks around it are ignored, and percent signs at
    its end with blanks before them. -/
def confidenceNumber? (text : String) : Option Binary64 :=
  Decimal.binary64? <| String.ofList <|
    Text.dropBlankEnd (dropPercentSigns (Text.dropBlankEnds text.toList))

/-- A confidence: a number or a text that writes one, as a percentage. What is not finite is no
    confidence. -/
def confidenceOf (value : Value) : Option UInt8 :=
  let number :=
    match value with
    | .number number => some number.toBinary64
    | .string text => confidenceNumber? text
    | _ => none
  ((number.filter Binary64.isFinite).bind Binary64.percentage?).map UInt8.ofNat

/-- The rationale of an entry. -/
def rationaleOf (entry : Members) : Section.Rationale where
  explanation := entry.verbatimText? "explanation"
  impact := entry.verbatimText? "impact"
  confidence := (entry.get? "confidence").bind confidenceOf
  references := ((entry.get? "references").map Value.looseTexts).getD []

/-- The section that an entry makes, with its base key. -/
def toSection (entry : Members) : Section :=
  { Section.ofBody ((entry.verbatimText? "title").getD untitled) (bodyOf entry) with
    severity := ((entry.get? "severity").bind Value.string?).bind Severity.ofWord?
    rationale := rationaleOf entry
    steps := ((entry.get? "steps").map Value.looseTexts).getD [] }

/-- The sections that some entries make, in order. -/
def toSections (entries : List Value) : List Section :=
  entries.filterMap fun entry => entry.object?.map toSection

/-- An entry declares a kind with its name, in any letter case and with blanks around it. -/
theorem kindOf_of_word (entry : Members) (word : String) (kind : Section.Kind)
    (declared : entry.get? "type" = some (.string word))
    (named : Text.lowerCase (Text.trim word) = kind.name) : kindOf entry = kind := by
  have read : ((entry.get? "type").bind Value.string?).map
      (fun text => Text.lowerCase (Text.trim text)) = some kind.name := by
    rw [declared, ← named]
    rfl
  unfold kindOf
  rw [read]
  cases kind with
  | text => rfl
  | list => rfl
  | table => rfl
  | code => rfl

end CodeReport.Entry
