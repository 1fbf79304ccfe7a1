import CodeReport.Json.Shape
import CodeReport.Report.Basic

/-!
# Reports as JSON

The written form of a report, and its reading. The body of a section stands
among the other members of the section, with its kind under `type`. What is
absent or empty is left out: an optional text, an empty rationale, a section
without steps or chart. Reading puts back what was left out.
-/

namespace CodeReport

open Json (Value Members)

namespace Mode

/-- The modes by name. -/
def named : List (String × Mode) :=
  [Mode.analysis, .debug].map fun mode => (mode.name, mode)

end Mode

namespace Severity

/-- The severities by name. -/
def named : List (String × Severity) :=
  [info, warning, error, success].map fun severity => (severity.name, severity)

end Severity

namespace ListKind

/-- The kinds of lists by name. -/
def named : List (String × ListKind) :=
  [bullet, numbered].map fun kind => (kind.name, kind)

end ListKind

namespace Section

/-- The kinds of content by name. -/
def Kind.named : List (String × Kind) :=
  [Kind.text, .list, .table, .code].map fun kind => (kind.name, kind)

namespace Body

/-- What stands under `type`: the kind of a body, or that it is degraded. -/
inductive Tag where
  | text
  | list
  | table
  | code
  | degraded
  deriving Repr, DecidableEq

namespace Tag

/-- All tags, in order. -/
def all : List Tag := [text, list, table, code, degraded]

/-- The name of a tag. -/
def name : Tag → String
  | .text => "text"
  | .list => "list"
  | .table => "table"
  | .code => "code"
  | .degraded => "degraded"

/-- The tags by name. -/
def named : List (String × Tag) :=
  all.map fun tag => (tag.name, tag)

/-- The fields of a body with a tag, in order. -/
def fields : Tag → List String
  | .text => ["content"]
  | .list => ["listKind", "items"]
  | .table => ["headers", "rows"]
  | .code => ["language", "content"]
  | .degraded => ["expected", "reason"]

/-- A tag that is written by name. -/
def ofName? (value : Value) : Option Tag :=
  value.string?.bind fun name => named.lookup name

/-- A tag among the members of a section, by name or by its place in the order of all tags. -/
def ofNameOrPlace? (value : Value) : Option Tag :=
  match value.nat? with
  | some place => all[place]?
  | none => ofName? value

end Tag

/-- The tag of a body. -/
def tag : Body → Tag
  | .text _ => .text
  | .list .. => .list
  | .table .. => .table
  | .code .. => .code
  | .degraded .. => .degraded

/-- The fields of a body as members. -/
def fieldMembers : Body → Members
  | .text content => [("content", .string content)]
  | .list kind items => [("listKind", .string kind.name), ("items", .ofTexts items)]
  | .table headers rows => [("headers", .ofTexts headers), ("rows", .array (rows.map Value.ofTexts))]
  | .code language content =>
    Members.optional "language" Value.string language ++ [("content", .string content)]
  | .degraded expected reason => [("expected", .string expected.name), ("reason", .string reason)]

/-- A body as members, its kind first. -/
def members (body : Body) : Members :=
  ("type", .string body.tag.name) :: body.fieldMembers

/-- Null or an empty object, which both stand for nothing inside a body. -/
def isNothing : Value → Bool
  | .null => true
  | .object members => members.isEmpty
  | _ => false

/-- The body with a tag that some members write. -/
def ofMembers? (tag : Tag) (members : Members) : Option Body :=
  match tag with
  | .text => do
    return .text (← members.required? "content" Value.string?)
  | .list => do
    let kind ← members.orDefault? "listKind" .bullet (Value.namedThing? isNothing ListKind.named)
    return .list kind (← members.required? "items" Value.texts?)
  | .table => do
    let headers ← members.required? "headers" Value.texts?
    return .table headers (← members.required? "rows" (Value.listOf? Value.texts?))
  | .code => do
    let language ← members.orDefault? "language" none (Value.orNull? Value.string?)
    return .code language (← members.required? "content" Value.string?)
  | .degraded => do
    let expected ← members.required? "expected" (Value.namedThing? isNothing Kind.named)
    return .degraded expected (← members.required? "reason" Value.string?)

/-- The body that a value writes on its own: an object with a tag, or an array of the tag and the
    fields. -/
def ofJson? : Value → Option Body
  | .object members => do
    ofMembers? (← Members.required? members "type" Tag.ofName?) members
  | .array (first :: fields) => do
    let tag ← Tag.ofName? first
    ofMembers? tag (← Value.record? tag.fields (.array fields))
  | _ => none

end Body

namespace Rationale

/-- The fields of a rationale, in order. -/
def fields : List String := ["explanation", "impact", "confidence", "references"]

/-- A rationale as members. -/
def members (rationale : Rationale) : Members :=
  Members.optional "explanation" Value.string rationale.explanation ++
  Members.optional "impact" Value.string rationale.impact ++
  Members.optional "confidence" Value.ofByte rationale.confidence ++
  Members.unlessEmpty "references" Value.ofTexts rationale.references

/-- The written form of a rationale. -/
def toJson (rationale : Rationale) : Value :=
  .object rationale.members

/-- The rationale that a value writes. -/
def ofJson? (value : Value) : Option Rationale := do
  let members ← value.record? fields
  return {
    explanation := ← members.orDefault? "explanation" none (Value.orNull? Value.string?)
    impact := ← members.orDefault? "impact" none (Value.orNull? Value.string?)
    confidence := ← members.orDefault? "confidence" none (Value.orNull? Value.byte?)
    references := ← members.orDefault? "references" [] Value.texts? }

end Rationale

end Section

namespace ScoreBar

/-- The fields of a bar, in order. -/
def fields : List String := ["label", "score"]

/-- A bar as members. -/
def members (bar : ScoreBar) : Members :=
  [("label", .string bar.label), ("score", .ofByte bar.score)]

/-- The written form of a bar. -/
def toJson (bar : ScoreBar) : Value :=
  .object bar.members

/-- The bar that a value writes. -/
def ofJson? (value : Value) : Option ScoreBar := do
  let members ← value.record? fields
  return {
    label := ← members.required? "label" Value.string?
    score := ← members.required? "score" Value.byte? }

end ScoreBar

namespace Section

/-- What stands behind the body of a section, as members. -/
def furtherMembers (block : Section) : Members :=
  Members.optional "severity" (fun severity => Value.string severity.name) block.severity ++
  (if block.rationale.isEmpty then [] else [("meta", block.rationale.toJson)]) ++
  Members.unlessEmpty "steps" Value.ofTexts block.steps ++
  Members.unlessEmpty "chart" (fun bars => .array (bars.map ScoreBar.toJson)) block.chart

/-- A section as members, those of its body among them. -/
def members (block : Section) : Members :=
  [("key", .string block.key.text), ("title", .string block.title)] ++
  block.body.members ++
  block.furtherMembers

/-- The written form of a section. -/
def toJson (block : Section) : Value :=
  .object block.members

/-- The section that a value writes. It is always an object. -/
def ofJson? (value : Value) : Option Section := do
  let members ← value.object?
  let tag ← members.required? "type" Body.Tag.ofNameOrPlace?
  return {
    key := ⟨← members.required? "key" Value.string?⟩
    title := ← members.required? "title" Value.string?
    body := ← Body.ofMembers? tag members
    severity :=
      ← members.orDefault? "severity" none (Value.orNull? (Value.named? Severity.named))
    rationale := ← members.orDefault? "meta" .empty Rationale.ofJson?
    steps := ← members.orDefault? "steps" [] Value.texts?
    chart := ← members.orDefault? "chart" [] (Value.listOf? ScoreBar.ofJson?) }

end Section

namespace Report

/-- The fields of a report, in order. -/
def fields : List String := ["title", "introduction", "mode", "warning", "model", "sections"]

/-- A report as members. -/
def members (report : Report) : Members :=
  [("title", .string report.title), ("introduction", .string report.introduction),
    ("mode", .string report.mode.name)] ++
  Members.optional "warning" Value.string report.warning ++
  Members.optional "model" Value.string report.model ++
  [("sections", .array (report.sections.map Section.toJson))]

/-- The written form of a report. -/
def toJson (report : Report) : Value :=
  .object report.members

/-- The report that a value writes. -/
def ofJson? (value : Value) : Option Report := do
  let members ← value.record? fields
  return {
    title := ← members.required? "title" Value.string?
    introduction := ← members.required? "introduction" Value.string?
    mode := ← members.required? "mode" (Value.named? Mode.named)
    warning := ← members.orDefault? "warning" none (Value.orNull? Value.string?)
    model := ← members.orDefault? "model" none (Value.orNull? Value.string?)
    sections := ← members.required? "sections" (Value.listOf? Section.ofJson?) }

end Report

end CodeReport
