import CodeReport.Text.Blank
import CodeReport.Text.Letters

/-!
# Modes

A report is made in one of two modes, which choose its sections, its title and
the introduction it has when the answer brings none. A mode is named in any
letter case and with blanks around it; `analyze` is a second name for analysis.
-/

namespace CodeReport

/-- What kind of report is made. -/
inductive Mode where
  /-- The quality of the code: metrics, issues, recommendations. -/
  | analysis
  /-- A fault of the code: error, steps, variables, solution. -/
  | debug
  deriving Repr, DecidableEq

/-- A word that names no mode, in small letters and without blanks around it. -/
structure UnknownMode where
  word : String
  deriving Repr, DecidableEq

/-- The wording of the error. -/
def UnknownMode.message (error : UnknownMode) : String :=
  s!"unknown mode '{error.word}' (expected analysis or debug)"

namespace Mode

/-- The name of a mode. -/
def name : Mode → String
  | .analysis => "analysis"
  | .debug => "debug"

/-- The mode that a text names. -/
def parse (text : String) : Except UnknownMode Mode :=
  let word := Text.lowerCase (Text.trim text)
  if word = "analysis" || word = "analyze" then .ok .analysis
  else if word = "debug" then .ok .debug
  else .error ⟨word⟩

/-- The title of every report in a mode. -/
def reportTitle : Mode → String
  | .analysis => "Code Analysis Results"
  | .debug => "Debug Results"

/-- The introduction of a report whose answer has no text of its own. -/
def defaultIntroduction : Mode → String
  | .analysis => "Detailed analysis of code quality and potential improvements."
  | .debug => "Step-by-step analysis of code execution and issues."

end Mode

end CodeReport
