import CodeReport.Json.Value
import CodeReport.Report.Severity

/-!
# Answers of the analysis service

What is understood of one answer. Each part may be missing, and an empty answer
has none. A fault in an answer is of two kinds: the analysis itself failed, or
it succeeded and found an error in the code.

Answers are compared by `Answer.agrees`: scores as numbers, so both zeros are
one score, and values of variables and sections as JSON values.
-/

namespace CodeReport

open Json (Value)

namespace Answer

/-- Something to be improved at a place in the code. -/
structure Issue where
  /-- Counted from 1. -/
  line : Nat
  column : Option Nat
  message : String
  severity : Severity
  deriving Repr, DecidableEq

/-- A measured property of the code. -/
structure Metric where
  name : String
  score : Option Binary64
  status : Option String
  deriving Repr, DecidableEq

/-- A variable with its value at the time of a fault. -/
structure Variable where
  name : String
  typeName : String
  value : Value
  deriving Repr

/-- What went wrong. -/
inductive Fault where
  /-- The analysis failed. -/
  | failed (message : String)
  /-- The analysis found an error in the code. -/
  | found (message : String)
  deriving Repr, DecidableEq

/-- The message of a fault of either kind. -/
def Fault.message : Fault → String
  | .failed message => message
  | .found message => message

/-- The message for a fault that has none of its own. -/
def unknownError : String := "An unknown error occurred"

end Answer

/-- An answer of the analysis service. -/
structure Answer where
  analysis : Option String
  issues : List Answer.Issue
  recommendations : List String
  metrics : List Answer.Metric
  correctedCode : Option String
  language : Option String
  fault : Option Answer.Fault
  warning : Option String
  success : Option Bool
  model : Option String
  debugSteps : List String
  bindings : List Answer.Variable
  solution : Option String
  /-- Sections that the service has made itself. -/
  sections : Option (List Value)
  deriving Repr

namespace Answer

/-- The answer that says nothing. -/
def empty : Answer where
  analysis := none
  issues := []
  recommendations := []
  metrics := []
  correctedCode := none
  language := none
  fault := none
  warning := none
  success := none
  model := none
  debugSteps := []
  bindings := []
  solution := none
  sections := none

/-- The answer that stands for a failure outside the analysis. -/
def ofFailure (message : String) : Answer :=
  { empty with fault := some (.failed message), success := some false }

/-- Equality of optional things. -/
def optionsAgree {α : Type} (agree : α → α → Bool) : Option α → Option α → Bool
  | none, none => true
  | some left, some right => agree left right
  | _, _ => false

/-- Equality of lists, item by item. -/
def listsAgree {α : Type} (agree : α → α → Bool) : List α → List α → Bool
  | [], [] => true
  | left :: lefts, right :: rights => agree left right && listsAgree agree lefts rights
  | _, _ => false

/-- Equality of metrics. -/
def Metric.agrees (left right : Metric) : Bool :=
  left.name == right.name && optionsAgree Binary64.sameValue left.score right.score &&
    left.status == right.status

/-- Equality of variables. -/
def Variable.agrees (left right : Variable) : Bool :=
  left.name == right.name && left.typeName == right.typeName && left.value.agrees right.value

/-- Equality of answers. -/
def agrees (left right : Answer) : Bool :=
  left.analysis == right.analysis && left.issues == right.issues &&
    left.recommendations == right.recommendations &&
    listsAgree Metric.agrees left.metrics right.metrics &&
    left.correctedCode == right.correctedCode && left.language == right.language &&
    left.fault == right.fault && left.warning == right.warning &&
    left.success == right.success && left.model == right.model &&
    left.debugSteps == right.debugSteps &&
    listsAgree Variable.agrees left.bindings right.bindings &&
    left.solution == right.solution &&
    optionsAgree (listsAgree Value.agrees) left.sections right.sections

end Answer

end CodeReport
