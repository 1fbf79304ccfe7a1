import CodeReport.Console.Body
import CodeReport.Viewing.Openness

/-!
# Reports on the console

A report is a head, one block per section and a tail. The block of a closed
section is its header alone. Only the blocks look at what is open, and each of
them only at its own section.
-/

namespace CodeReport.Console

/-- Lines as one text, each with its line feed. -/
def unlines (lines : List String) : String :=
  String.join (lines.map (· ++ "\n"))

/-- The style of a severity's badge. -/
def badgeStyle : Severity → Style
  | .info => .blue
  | .warning => .yellow
  | .error => .red
  | .success => .green

/-- The badge of a severity. -/
def badge (colour : Bool) (severity : Severity) : String :=
  paint colour (badgeStyle severity) s!"[{severity.icon} {severity.label}]"

/-- The header of a section: whether it is open, title, severity and key. -/
def header (colour : Bool) (block : Section) (isOpen : Bool) : String :=
  paint colour .dimmed (if isOpen then "[-]" else "[+]") ++ " " ++
    paint colour .bold block.title ++
    ((block.severity.map fun severity => " " ++ badge colour severity).getD "") ++ " " ++
    paint colour .dimmed block.key.text

/-- What an open section shows below its header. -/
def contentLines (colour : Bool) (block : Section) : List String :=
  bodyLines colour block.body ++ chartLines colour block.chart ++
    stepLines colour block.steps ++ rationaleLines colour block.rationale

/-- One section, behind an empty line. -/
def block (colour : Bool) (shown : Section) (isOpen : Bool) : String :=
  "\n" ++ header colour shown isOpen ++ "\n" ++
    unlines (if isOpen then (contentLines colour shown).map (indent ++ ·) else [])

/-- Title, introduction and warning, and that there are no sections. -/
def head (colour : Bool) (report : Report) : String :=
  unlines
    ([paint colour .bold report.title ++ " " ++ paint colour .dimmed s!"({report.mode.name})"] ++
      (if Text.isBlankText report.introduction then [] else [report.introduction]) ++
      (report.warning.map fun warning =>
        paint colour .boldYellow "Warning:" ++ " " ++ warning).toList) ++
    if report.sections.isEmpty then
      "\n" ++ paint colour .dimmed "The analysis returned no sections." ++ "\n"
    else ""

/-- The model that made the analysis. -/
def tail (colour : Bool) (report : Report) : String :=
  match report.model with
  | some model => "\n" ++ paint colour .dimmed s!"Analyzed using: {model}" ++ "\n"
  | none => ""

/-- A report as text. -/
def report (colour : Bool) (shown : Report) (openness : Openness) : String :=
  head colour shown ++
    String.join (shown.sections.map fun one => block colour one (openness.isOpen one.key)) ++
    tail colour shown

end CodeReport.Console
