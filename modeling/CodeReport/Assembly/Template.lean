import CodeReport.Answer.Basic
import CodeReport.Json.Printer
import CodeReport.Number.Places
import CodeReport.Report.Basic

/-!
# Section templates

The sections of a report whose answer brings none of its own. Each mode has a
fixed list of them, filled with the parts of the answer, and a section whose
part is missing is shown empty.
-/

namespace CodeReport

namespace Section.Rationale

/-- A rationale of a section that is always made. -/
def why (explanation impact : String) (confidence : UInt8) : Rationale :=
  ⟨some explanation, some impact, some confidence, []⟩

end Section.Rationale

namespace Template

open Section.Rationale (why)

/-- A score as a percentage: a whole one without decimal places, any other with one. -/
def scoreText : Option Binary64 → String
  | none => "n/a"
  | some (.finite negative significand exponent) =>
    let places := if Binary64.isWhole significand exponent then 0 else 1
    (Binary64.finite negative significand exponent).withPlaces places ++ "%"
  | some score => score.withPlaces 1 ++ "%"

/-- The table of all metrics, with a chart of those that have a score. -/
def metrics (metrics : List Answer.Metric) : Section :=
  let rows := metrics.map fun metric => [metric.name, scoreText metric.score]
  let bars := metrics.filterMap fun metric =>
    metric.score.map fun score => ScoreBar.ofScore metric.name score
  { Section.ofBody "Code Quality Metrics" (.table ["Metric", "Score"] rows) with
    severity := some .info
    rationale := why "These metrics provide a quantitative assessment of your code quality."
      "Higher scores indicate better code quality and maintainability." 85
    chart := bars }

/-- The list of all issues. -/
def issues (issues : List Answer.Issue) : Section :=
  { Section.ofBody "Identified Issues" (.list .bullet (issues.map Answer.Issue.message)) with
    severity := some .warning
    rationale := why "These issues could affect code quality, performance, or security."
      "Addressing these issues will improve code reliability and maintainability." 90 }

/-- The list of all recommendations. -/
def recommendations (recommendations : List String) : Section :=
  { Section.ofBody "Recommendations" (.list .numbered recommendations) with
    severity := some .success
    rationale :=
      why "These recommendations will help improve your code quality and maintainability."
        "Implementing these recommendations will lead to better code quality and performance." 95 }

/-- The error that was found in the code, or that there is none. -/
def errorDetection : Option Answer.Fault → Section
  | some (.found message) =>
    { Section.ofBody "Error Detection" (.text message) with
      severity := some .error
      rationale := why "This error needs to be addressed to make the code work properly."
        "The code cannot execute properly until this error is fixed." 95 }
  | _ =>
    { Section.ofBody "Error Detection" (.text "No errors detected") with
      severity := some .success
      rationale := why "No errors were found in your code." "Your code is ready to run." 95 }

/-- The steps of the fault's analysis, as a list and as cards. -/
def debugSteps (steps : List String) : Section :=
  { Section.ofBody "Debug Steps" (.list .numbered steps) with
    steps
    rationale := why "These steps will help you understand and fix the issues in your code."
      "Following these steps will help you resolve the debugging issues." 90 }

/-- The table of all variables. -/
def variableState (bindings : List Answer.Variable) : Section :=
  let rows := bindings.map fun shown =>
    [shown.name, shown.typeName, shown.value.compact]
  { Section.ofBody "Variable State" (.table ["Variable", "Type", "Value"] rows) with
    rationale := why "This shows the current state of variables in your code."
      "Understanding variable states helps in debugging and fixing issues." 85 }

/-- The solution, or that none is needed. -/
def solution (solution : Option String) : Section :=
  { Section.ofBody "Solution" (.text (solution.getD "No fixes required")) with
    severity := some .success
    rationale := why "This solution will help resolve the debugging issues."
      "Implementing this solution will fix the identified issues." 95 }

/-- The sections of a mode, with base keys. -/
def sections (answer : Answer) : Mode → List Section
  | .analysis =>
    [metrics answer.metrics, issues answer.issues, recommendations answer.recommendations]
  | .debug =>
    [errorDetection answer.fault, debugSteps answer.debugSteps, variableState answer.bindings,
      solution answer.solution]

end Template

end CodeReport
