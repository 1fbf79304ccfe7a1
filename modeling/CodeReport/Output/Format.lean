import CodeReport.Console.Report
import CodeReport.Page.Document
import CodeReport.Json.Printer
import CodeReport.Report.Json

/-!
# Output formats

A report is shown as a page, as text for a console or as JSON. A format is named
in any letter case and with blanks around it; the console has two names more.
JSON holds the report alone and does not say what is open.
-/

namespace CodeReport

/-- How a report is shown. -/
inductive Format where
  | html
  | text
  | json
  deriving Repr, DecidableEq

/-- A word that names no format, in small letters and without blanks around it. -/
structure UnknownFormat where
  word : String
  deriving Repr, DecidableEq

/-- The wording of the error. -/
def UnknownFormat.message (error : UnknownFormat) : String :=
  s!"unknown format '{error.word}' (expected html, text or json)"

namespace Format

/-- The name of a format. -/
def name : Format → String
  | .html => "html"
  | .text => "text"
  | .json => "json"

/-- The format that a text names. -/
def parse (text : String) : Except UnknownFormat Format :=
  let word := Text.lowerCase (Text.trim text)
  if word = "html" then .ok .html
  else if word = "text" || word = "txt" || word = "console" then .ok .text
  else if word = "json" then .ok .json
  else .error ⟨word⟩

end Format

/-- A report in a format; `colour` switches the styles of the console on. -/
def Report.render (report : Report) (openness : Openness) (colour : Bool) : Format → String
  | .html => Page.document report openness
  | .text => Console.report colour report openness
  | .json => report.toJson.pretty ++ "\n"

end CodeReport
