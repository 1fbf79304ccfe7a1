import CodeReport.Number.Binary64
import CodeReport.Report.Body
import CodeReport.Report.Key
import CodeReport.Report.Mode
import CodeReport.Report.Severity

/-!
# Reports

A report is a title, an introduction and sections in display order. A section
has a key, a title and a body; it may have a severity, steps, a chart of scores
and a rationale, which says why the section matters.

Confidences and scores are bytes. Those that are read from an answer lie
between 0 and 100, those of a report written by hand may be greater.
-/

namespace CodeReport

/-- Why a section matters. -/
structure Section.Rationale where
  explanation : Option String
  impact : Option String
  /-- A percentage. -/
  confidence : Option UInt8
  references : List String
  deriving Repr, DecidableEq

namespace Section.Rationale

/-- A rationale that says nothing. -/
def empty : Rationale := ⟨none, none, none, []⟩

/-- Whether there is nothing to show. -/
def isEmpty (rationale : Rationale) : Bool :=
  rationale.explanation.isNone && rationale.impact.isNone && rationale.confidence.isNone &&
    rationale.references.isEmpty

end Section.Rationale

/-- One bar of a chart. -/
structure ScoreBar where
  label : String
  /-- A percentage. -/
  score : UInt8
  deriving Repr, DecidableEq

/-- The bar for a score: the score is brought into the range from 0 to 100 and rounded. What is no
    number has the score 0. -/
def ScoreBar.ofScore (label : String) (score : Binary64) : ScoreBar :=
  ⟨label, UInt8.ofNat (score.percentage?.getD 0)⟩

/-- One block of a report. -/
structure Section where
  key : Section.Key
  title : String
  body : Section.Body
  severity : Option Severity
  rationale : Section.Rationale
  steps : List String
  chart : List ScoreBar
  deriving Repr, DecidableEq

namespace Section

/-- A section with a base key, and nothing beside its body. -/
def ofBody (title : String) (body : Body) : Section :=
  { key := Key.derive title body.kind, title, body, severity := none, rationale := .empty,
    steps := [], chart := [] }

/-- The declared kind of a section's body. -/
def kind (block : Section) : Kind :=
  block.body.kind

/-- The base key that the title and the kind of a section give under a digest. -/
def baseKeyWith (digest : List UInt8 → List UInt8) (block : Section) : Key :=
  Key.deriveWith digest block.title block.kind

/-- The base key that the title and the kind of a section give. -/
def baseKey (block : Section) : Key :=
  block.baseKeyWith Digest.sha256

end Section

/-- What is shown. -/
structure Report where
  title : String
  introduction : String
  mode : Mode
  warning : Option String
  /-- The model that made the analysis. -/
  model : Option String
  sections : List Section
  deriving Repr, DecidableEq

namespace Report

/-- The keys of the sections, in display order. -/
def keys (report : Report) : List Section.Key :=
  report.sections.map Section.key

/-- The first section with a given title. -/
def sectionTitled? (report : Report) (title : String) : Option Section :=
  report.sections.find? fun block => block.title == title

end Report

/-- A rationale shows nothing only if it is the empty one. -/
theorem Section.Rationale.isEmpty_iff (rationale : Section.Rationale) :
    rationale.isEmpty = true ↔ rationale = .empty := by
  obtain ⟨explanation, impact, confidence, references⟩ := rationale
  simp [isEmpty, empty, and_assoc]

end CodeReport
