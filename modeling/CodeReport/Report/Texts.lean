import CodeReport.Report.Basic

/-!
# The texts of a report

All strings that a report holds, whatever they are shown as.
-/

namespace CodeReport

namespace Section

/-- The texts of a rationale. -/
def Rationale.texts (rationale : Rationale) : List String :=
  rationale.explanation.toList ++ rationale.impact.toList ++ rationale.references

/-- The texts of a body. -/
def Body.texts : Body → List String
  | .text content => [content]
  | .list _ items => items
  | .table headers rows => headers ++ rows.flatten
  | .code language content => language.toList ++ [content]
  | .degraded _ reason => [reason]

/-- The texts of a section, with its key. -/
def texts (block : Section) : List String :=
  block.key.text :: block.title :: block.body.texts ++ block.rationale.texts ++ block.steps ++
    block.chart.map ScoreBar.label

end Section

/-- The texts of a report, with those of all its sections. -/
def Report.texts (report : Report) : List String :=
  report.title :: report.introduction :: report.warning.toList ++ report.model.toList ++
    report.sections.flatMap Section.texts

end CodeReport
