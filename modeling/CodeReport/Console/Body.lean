import CodeReport.Console.Style
import CodeReport.Report.Basic
import CodeReport.Text.Lines

/-!
# Parts of a section on the console

The lines of a body, a chart, steps and a rationale. All of them are indented by
four spaces. The columns of a table and the labels of a chart are padded to the
widest of them, counted in characters; padding and trimming come before styles,
so that styles change no position.
-/

namespace CodeReport.Console

/-- What every line of a section but its header begins with. -/
def indent : String := "    "

/-- How many marks a full bar has. -/
def barWidth : Nat := 20

/-- A percentage as a bar; what is beyond 100 is shown as 100. -/
def bar (colour : Bool) (percentage : UInt8) : String :=
  let value := min percentage.toNat 100
  let filled := value * barWidth / 100
  "[" ++ paint colour .green (Text.replicate filled '#') ++
    paint colour .dimmed (Text.replicate (barWidth - filled) '-') ++ "] " ++ toString value ++ "%"

/-- The greatest number of characters among some texts. -/
def widest (texts : List String) : Nat :=
  (texts.map String.length).foldl max 0

/-- The width of each column: that of its header or of its widest cell. -/
def columnWidths (headers : List String) (rows : List (List String)) : List Nat :=
  headers.zipIdx.map fun (header, column) =>
    widest (header :: rows.filterMap fun row => row[column]?)

/-- Cells in columns, two spaces apart, without blanks at the end of the line. -/
def columns (widths : List Nat) (cells : List String) : String :=
  Text.trimEnd ("  ".intercalate (List.zipWith Text.padEnd widths cells))

/-- What stands in the place of a body without content. -/
def nothingReported (colour : Bool) : String :=
  paint colour .dimmed "Nothing reported."

/-- Items with numbers from 1 on, written by `mark`. -/
def numbered (mark : Nat → String) (items : List String) : List String :=
  items.zipIdx.map fun (item, index) => mark (index + 1) ++ item

/-- The line that says why a body is not shown. -/
def notShown (colour : Bool) (kind : Section.Kind) (reason : String) : String :=
  paint colour .yellow s!"Could not display this {kind.name} section:" ++ " " ++ reason

/-- The lines of a table: headers, then rows or that there are none. -/
def tableLines (colour : Bool) (headers : List String) (rows : List (List String)) :
    List String :=
  let widths := columnWidths headers rows
  paint colour .bold (columns widths headers) ::
    (if rows.isEmpty then [paint colour .dimmed "No data."] else []) ++
    rows.map (columns widths)

/-- The lines of a body without indentation. A table with a defect is not shown. -/
def bodyLines (colour : Bool) (body : Section.Body) : List String :=
  match body.defect? with
  | some defect => [notShown colour .table defect.message]
  | none =>
    match body with
    | .text content =>
      (if Text.isBlankText content then [nothingReported colour] else []) ++ Text.lines content
    | .list kind items =>
      (if items.isEmpty then [nothingReported colour] else []) ++
        match kind with
        | .bullet => items.map ("- " ++ ·)
        | .numbered => numbered (fun number => s!"{number}. ") items
    | .table headers rows => tableLines colour headers rows
    | .code language content =>
      (language.map fun name => paint colour .dimmed ("```" ++ name)).toList ++
        (Text.lines content).map (paint colour .cyan)
    | .degraded expected reason => [notShown colour expected reason]

/-- The lines of a chart: labels in one column, bars behind it. -/
def chartLines (colour : Bool) (bars : List ScoreBar) : List String :=
  let width := widest (bars.map ScoreBar.label)
  bars.map fun scoreBar =>
    Text.padEnd width scoreBar.label ++ "  " ++ bar colour scoreBar.score

/-- The lines of steps. -/
def stepLines (colour : Bool) (steps : List String) : List String :=
  if steps.isEmpty then []
  else
    paint colour .bold "Steps:" :: numbered (fun number => s!"  ({number}) ") steps

/-- A part of a rationale behind its name. -/
def named (colour : Bool) (name value : String) : String :=
  paint colour .bold name ++ " " ++ value

/-- The lines of a rationale. -/
def rationaleLines (colour : Bool) (rationale : Section.Rationale) : List String :=
  (rationale.explanation.map fun text =>
    named colour "Why this matters:" (paint colour .dimmed text)).toList ++
  (rationale.impact.map fun text =>
    named colour "Impact:" (paint colour .dimmed text)).toList ++
  (rationale.confidence.map fun confidence =>
    named colour "Confidence:" (bar colour confidence)).toList ++
  rationale.references.map fun reference =>
    named colour "See:" (paint colour .underlined reference)

end CodeReport.Console
