import CodeReport.Text.Blank
import CodeReport.Text.Letters

/-!
# Severities

A severity is shown as a badge: an icon, a label and a colour of the palette.
Words for severities are read loosely, in any letter case and with blanks
around them; a word that is not listed is no severity.
-/

namespace CodeReport

/-- How much a section or an issue matters. -/
inductive Severity where
  | info
  | warning
  | error
  | success
  deriving Repr, DecidableEq

namespace Severity

/-- The name of a severity. -/
def name : Severity → String
  | .info => "info"
  | .warning => "warning"
  | .error => "error"
  | .success => "success"

/-- The text of the badge. -/
def label : Severity → String
  | .info => "Info"
  | .warning => "Warning"
  | .error => "Error"
  | .success => "Success"

/-- The icon of the badge. -/
def icon : Severity → String
  | .info => "📝"
  | .warning => "⚠️"
  | .error => "❌"
  | .success => "✅"

/-- The colour of the badge. -/
def palette : Severity → String
  | .info => "indigo"
  | .warning => "amber"
  | .error => "rose"
  | .success => "emerald"

/-- The words that are read as each severity. -/
def words : Severity → List String
  | .info => ["info", "information", "note", "hint", "low"]
  | .warning => ["warning", "warn", "medium"]
  | .error => ["error", "err", "critical", "high", "fatal"]
  | .success => ["success", "ok", "pass", "passed"]

/-- The severity that a text names. -/
def ofWord? (text : String) : Option Severity :=
  let word := Text.lowerCase (Text.trim text)
  [info, warning, error, success].find? fun severity => severity.words.contains word

end Severity

end CodeReport
