import CodeReport.Answer.Basic
import CodeReport.Answer.Field
import CodeReport.Json.Reader

/-!
# Reading answers

The service is not under control here, so each field of an answer is read on
its own, and a field of an unexpected shape is absent. A value that is no object
is the empty answer. Only a text that is no JSON cannot be read at all.
-/

namespace CodeReport.Answer

open Json (Value Members)

/-- The greatest line or column number that is kept. -/
def greatestPosition : Nat := 0xFFFFFFFF

/-- A line number, brought into the range from 1 on. Any other value than a natural number is
    line 1. -/
def lineOf (value : Option Value) : Nat :=
  match value.bind Value.nat? with
  | some line => max 1 (min line greatestPosition)
  | none => 1

/-- A column number; one beyond the range is dropped. -/
def columnOf (value : Option Value) : Option Nat :=
  (value.bind Value.nat?).filter (· ≤ greatestPosition)

/-- A severity by its name. -/
def severityOf (value : Option Value) : Option Severity :=
  (value.bind Value.string?).bind Severity.ofWord?

/-- An issue: a text is its message, and an object has its message in one of two members. -/
def Issue.ofJson? : Value → Option Issue
  | .string message => some ⟨1, none, message, .info⟩
  | .object members =>
    let fields : Members := members
    ((fields.trimmedText? "message").or (fields.trimmedText? "description")).map fun message =>
      { line := lineOf ((fields.get? "lineNumber").or (fields.get? "line"))
        column := columnOf (fields.get? "column")
        message
        severity := (severityOf (fields.get? "severity")).getD .info }
  | _ => none

/-- The issues of an array. -/
def issuesOf (value : Value) : List Issue :=
  (value.array?.getD []).filterMap Issue.ofJson?

/-- A number as a score. -/
def scoreOf (value : Value) : Option Binary64 :=
  value.number?.map Json.Number.toBinary64

/-- A metric by its name and its value: a score, or an object with a score and a status. -/
def Metric.ofMember (name : String) : Value → Metric
  | .object members =>
    let fields : Members := members
    ⟨name, (fields.get? "score").bind scoreOf, fields.trimmedText? "status"⟩
  | value => ⟨name, scoreOf value, none⟩

/-- The metrics that are the members of an object. -/
def metricsOf (value : Value) : List Metric :=
  (value.object?.getD []).map fun member => Metric.ofMember member.1 member.2

/-- The name of a value's JSON type. -/
def jsonTypeName : Value → String
  | .null => "null"
  | .bool _ => "boolean"
  | .number _ => "number"
  | .string _ => "string"
  | .array _ => "array"
  | .object _ => "object"

/-- A variable by its name and its value. An object with a value or a type describes the variable;
    any other value is the variable's own. -/
def Variable.ofMember (name : String) (value : Value) : Variable :=
  let fields : Members := value.object?.getD []
  if (fields.get? "value").isSome || (fields.get? "type").isSome then
    ⟨name, (fields.trimmedText? "type").getD "unknown", (fields.get? "value").getD .null⟩
  else ⟨name, jsonTypeName value, value⟩

/-- The variables that are the members of an object. -/
def variablesOf (value : Value) : List Variable :=
  (value.object?.getD []).map fun member => Variable.ofMember member.1 member.2

/-- A fault: a text says that the analysis failed, an object what it found. -/
def Fault.ofJson? : Value → Option Fault
  | .string message => if Text.isBlankText message then none else some (.failed message)
  | .object members =>
    let fields : Members := members
    some <| .found <|
      ((fields.trimmedText? "message").or (fields.trimmedText? "description")).getD unknownError
  | _ => none

/-- The first list that is not empty among the members that may hold recommendations. -/
def recommendationsOf (members : Members) : List String :=
  let lists := ["recommendations", "solutions", "suggestions"].filterMap fun name =>
    (members.get? name).map Value.looseTexts
  (lists.find? fun list => !list.isEmpty).getD []

/-- The answer that some members make. -/
def ofMembers (members : Members) : Answer where
  analysis := members.trimmedText? "analysis"
  issues := ((members.get? "issues").map issuesOf).getD []
  recommendations := recommendationsOf members
  metrics := ((members.get? "metrics").map metricsOf).getD []
  correctedCode := members.trimmedText? "correctedCode"
  language := members.trimmedText? "language"
  fault := (members.get? "error").bind Fault.ofJson?
  warning := members.trimmedText? "warning"
  success := (members.get? "success").bind Value.bool?
  model := members.trimmedText? "model"
  debugSteps := ((members.get? "debugSteps").map Value.looseTexts).getD []
  bindings := ((members.get? "variables").map variablesOf).getD []
  solution := members.trimmedText? "solution"
  sections := (members.get? "sections").bind Value.array?

/-- The answer that a value makes. -/
def ofJson : Value → Answer
  | .object members => ofMembers members
  | _ => empty

/-- The answer that a text makes. -/
def ofText (text : String) : Except Json.ReadError Answer :=
  (Value.ofText text).map ofJson

end CodeReport.Answer
