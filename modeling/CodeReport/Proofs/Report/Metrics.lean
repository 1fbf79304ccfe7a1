import CodeReport.Proofs.Assembly.Measured
import CodeReport.Proofs.Assembly.Tables
import CodeReport.Proofs.Console.Blocks
import CodeReport.Proofs.Page.Charts
import CodeReport.Proofs.Text.Blank

/-!
# Metrics are shown in the same order everywhere

The first section of an analysis that brings no sections of its own tells the
metrics of its answer. The members of the metrics are followed into the report,
into the lines that are printed for the section and into its card on a page: in
all three places each member has one row, and those with a score have one bar.

On the console the text of a score stands behind the padded name and ends its
line, since it ends with a character that is not blank. A table without rows shows
a line or a row that says so, which is no row of a metric.
-/

namespace CodeReport

open Answer (Charted metricRow metricBar? metricsOf)
open Json (Members)

/-- The text of a score, or of none, is blank at neither end that a line could lose. -/
theorem Template.scoreText_ends (score : Option Binary64) :
    ∃ c, (scoreText score).toList.getLast? = some c ∧ Text.isBlank c = false := by
  cases score with
  | none => exact ⟨'a', rfl, rfl⟩
  | some score => exact ⟨'%', Answer.getLast?_scoreText score, rfl⟩

/-- A section that tells metrics. Its table has a row for each of them, and its chart a bar for each
one whose text in the table is not `n/a`: the bar of its own score. -/
structure Section.ChartsMetrics (measured : Members) (block : Section) : Prop where
  charted : ∃ rows, block.body = .table ["Metric", "Score"] rows ∧
    rows.map List.head? = measured.map (fun member => some member.1) ∧
    block.chart.map (fun bar => some bar.label) =
      (rows.filter fun row => row[1]? ≠ some "n/a").map List.head? ∧
    Charted (fun name cell row => row = [name, cell])
      (fun name score bar => bar = ScoreBar.ofScore name score) measured rows block.chart

/-- What is printed for an open section: below the header of the table one line for each metric,
with its name and its text in columns, and below them one line for each bar. -/
structure Console.PrintsMetrics (colour : Bool) (measured : Members) (block : Section)
    (text : String) : Prop where
  charted : ∃ width labelWidth headerLine rowLines barLines,
    text =
      "\n" ++ header colour block true ++ "\n" ++
        unlines (headerLine ::
          (if measured.isEmpty then [indent ++ paint colour .dimmed "No data."] else []) ++
          rowLines ++ barLines ++ (rationaleLines colour block.rationale).map (indent ++ ·)) ∧
    Charted (fun name cell line => line = indent ++ Text.padEnd width name ++ "  " ++ cell)
      (fun name score line =>
        line = indent ++ Text.padEnd labelWidth name ++ "  " ++
          bar colour (ScoreBar.ofScore name score).score)
      measured rowLines barLines

/-- What is read in a card: one row for each metric, with its name and its text, and one bar for
each that has a score. -/
structure Page.ShowsMetrics (measured : Members) (card : Node) : Prop where
  charted : ∃ rows,
    (Content.read [card]).rows = (if measured.isEmpty then [["No data."]] else []) ++ rows ∧
    Charted (fun name cell row => row = [readable name, cell])
      (fun name score shown => shown = ShownBar.of (ScoreBar.ofScore name score))
      measured rows (barsIn card)

namespace Console

/-- What is printed for the first section of a report stands between the head and what is printed
for the others. -/
theorem report_first (colour : Bool) (shown : Report) (openness : Openness) (first : Section)
    (rest : List Section) (divided : shown.sections = first :: rest) :
    report colour shown openness =
      head colour shown ++ block colour first (openness.isOpen first.key) ++
        String.join (rest.map fun other => block colour other (openness.isOpen other.key)) ++
        tail colour shown := by
  rw [report, divided, List.map_cons, String.join_cons]
  simp only [String.append_assoc]

/-- A name and the text of a score in two columns. -/
theorem columns_score (width other : Nat) (name : String) (score : Option Binary64) :
    columns [width, other] [name, Template.scoreText score] =
      Text.padEnd width name ++ "  " ++ Template.scoreText score := by
  obtain ⟨c, last, written⟩ := Template.scoreText_ends score
  generalize Template.scoreText score = cell at last ⊢
  have line : "  ".intercalate (List.zipWith Text.padEnd [width, other] [name, cell]) =
      Text.padEnd width name ++ "  " ++ cell ++ Text.replicate (other - cell.length) ' ' := by
    have padded : Text.padEnd other cell = cell ++ Text.replicate (other - cell.length) ' ' := rfl
    rw [List.zipWith_cons_cons, List.zipWith_cons_cons, List.zipWith_nil_left,
      String.intercalate_cons_cons, String.intercalate_singleton, padded, ← String.append_assoc]
  have spaces : ∀ d ∈ (Text.replicate (other - cell.length) ' ').toList, Text.isBlank d = true := by
    intro d member
    rw [Text.replicate, String.toList_ofList] at member
    rw [List.eq_of_mem_replicate member]
    rfl
  have ends : ∀ d ∈ (Text.padEnd width name ++ "  " ++ cell).toList.getLast?,
      Text.isBlank d = false := by
    intro d isLast
    rw [String.toList_append, List.getLast?_append, last] at isLast
    obtain rfl := Option.some.inj isLast
    exact written
  rw [columns, line, Text.trimEnd, String.toList_append, Text.dropBlankEnd_append _ _ spaces ends,
    String.ofList_toList]

/-- What an open section of metrics prints: the header of the table, one line for each row, one line
for each bar, and the rationale. -/
theorem block_metrics (colour : Bool) (block : Section) (rows : List (List String))
    (isTable : block.body = .table ["Metric", "Score"] rows)
    (faultless : block.body.defect? = none) (withoutSteps : block.steps = []) :
    ∃ width other labelWidth headerLine,
      Console.block colour block true =
        "\n" ++ header colour block true ++ "\n" ++
          unlines (headerLine ::
            (if rows.isEmpty then [indent ++ paint colour .dimmed "No data."] else []) ++
            (rows.map fun row => indent ++ columns [width, other] row) ++
            (block.chart.map fun bar => indent ++ Text.padEnd labelWidth bar.label ++ "  " ++
              Console.bar colour bar.score) ++
            (rationaleLines colour block.rationale).map (indent ++ ·)) := by
  obtain ⟨width, other, widths⟩ : ∃ width other,
      columnWidths ["Metric", "Score"] rows = [width, other] := ⟨_, _, rfl⟩
  have body : bodyLines colour block.body =
      paint colour .bold (columns [width, other] ["Metric", "Score"]) ::
        (if rows.isEmpty then [paint colour .dimmed "No data."] else []) ++
        rows.map (columns [width, other]) := by
    unfold bodyLines
    rw [faultless, isTable]
    dsimp only
    rw [tableLines, widths]
  have placeholder : (if rows.isEmpty then [paint colour .dimmed "No data."] else []).map
      (indent ++ ·) = if rows.isEmpty then [indent ++ paint colour .dimmed "No data."] else [] := by
    cases rows.isEmpty <;> rfl
  refine ⟨width, other, widest (block.chart.map ScoreBar.label),
    indent ++ paint colour .bold (columns [width, other] ["Metric", "Score"]), ?_⟩
  rw [block_open, body, chartLines, withoutSteps, stepLines]
  simp only [List.isEmpty_nil, if_true, List.map_nil, List.append_nil, List.map_append,
    List.map_cons, List.map_map, placeholder, Function.comp_def, String.append_assoc]

end Console

namespace Page

/-- The text of a score is not empty, so it is shown as it is. -/
theorem readable_scoreText (score : Option Binary64) :
    readable (Template.scoreText score) = Template.scoreText score := by
  obtain ⟨c, last, -⟩ := Template.scoreText_ends score
  rw [readable, if_neg]
  intro none
  rw [String.isEmpty_iff.mp none] at last
  cases last

/-- The rows of a table of two columns in a card. -/
theorem rows_metrics (block : Section) (place : Nat) (isOpen : Bool) (rows : List (List String))
    (isTable : block.body = .table ["Metric", "Score"] rows)
    (faultless : block.body.defect? = none) :
    (Content.read [cardNode block place isOpen]).rows =
      (if rows.isEmpty then [["No data."]] else []) ++ rows.map fun row => row.map readable := by
  rw [← nodes_card, read_card]
  cases rows with
  | nil =>
    rw [isTable]
    decide +kernel
  | cons row others =>
    rw [ofView_bodyView block.body faultless (by rw [isTable]; rfl), isTable]
    rfl

end Page

namespace Answer

/-- The section of the metrics that an object holds, with some key. -/
def measuredSection (measured : Members) (key : Section.Key) : Section :=
  { Template.metrics (metricsOf (.object measured)) with key }

section Shown

variable (measured : Members) (key : Section.Key)

/-- The body of the section of the metrics is a table of two columns. -/
theorem body_measuredSection : (measuredSection measured key).body =
    .table ["Metric", "Score"] ((metricsOf (.object measured)).map metricRow) := rfl

/-- The table of the metrics has no defect. -/
theorem measuredSection_faultless : (measuredSection measured key).body.defect? = none :=
  Template.defect?_metrics _

/-- There are no rows exactly if there are no metrics. -/
theorem isEmpty_metricRows :
    ((metricsOf (.object measured)).map metricRow).isEmpty = measured.isEmpty := by
  rw [List.isEmpty_map]
  exact List.isEmpty_map

/-- In the section of the metrics each metric has its row and, with a score, its bar. -/
theorem chartsMetrics_measuredSection : (measuredSection measured key).ChartsMetrics measured := by
  have charted := charted_metrics measured
  exact ⟨_, rfl, charted.names_eq.1, charted.names_eq.2, charted⟩

/-- What is printed for the section of the metrics, if it is open, tells all of them. -/
theorem printsMetrics_measuredSection (colour : Bool) :
    Console.PrintsMetrics colour measured (measuredSection measured key)
      (Console.block colour (measuredSection measured key) true) := by
  obtain ⟨width, other, labelWidth, headerLine, printed⟩ :=
    Console.block_metrics colour (measuredSection measured key) _
      (body_measuredSection measured key) (measuredSection_faultless measured key) rfl
  rw [isEmpty_metricRows] at printed
  refine ⟨width, labelWidth, headerLine, _, _, printed, (charted_metrics measured).map _ _ ?_ ?_⟩
  · rintro name score _ rfl
    rw [Console.columns_score, ← String.append_assoc, ← String.append_assoc]
  · rintro name score _ rfl
    rfl

/-- The card of the section of the metrics tells all of them, whether it is open or not. -/
theorem showsMetrics_measuredSection (place : Nat) (isOpen : Bool) :
    Page.ShowsMetrics measured (Page.cardNode (measuredSection measured key) place isOpen) := by
  have rows := Page.rows_metrics (measuredSection measured key) place isOpen _
    (body_measuredSection measured key) (measuredSection_faultless measured key)
  rw [isEmpty_metricRows] at rows
  refine ⟨_, rows, ?_⟩
  rw [Page.barsIn_cardNode]
  refine (charted_metrics measured).map _ _ ?_ ?_
  · rintro name score _ rfl
    rw [List.map_cons, List.map_singleton, Page.readable_scoreText]
  · rintro name score _ rfl
    rfl

end Shown

variable {members measured : Members}

/-- The metrics of an answer are the members of one object. -/
theorem metrics_ofJson (held : members.get? "metrics" = some (.object measured)) :
    (ofJson (.object members)).metrics = metricsOf (.object measured) := by
  have metrics : (ofJson (.object members)).metrics =
      ((members.get? "metrics").map metricsOf).getD [] := rfl
  rw [metrics, held]
  rfl

/-- The sections behind that of the metrics have other titles. -/
theorem title_of_others (answer : Answer) (block : Section)
    (member : block ∈ [Template.issues answer.issues,
      Template.recommendations answer.recommendations] ++ answer.correction) :
    block.title ≠ "Code Quality Metrics" := by
  rcases List.mem_append.mp member with own | corrected
  · have titled : block.title ∈ ["Identified Issues", "Recommendations"] :=
      List.mem_map_of_mem (f := Section.title) own
    intro same
    rw [same] at titled
    revert titled
    decide
  · rw [answer.title_correction block corrected]
    decide

/-- The metrics stand in the first section of the template, and in no other one. -/
theorem toSections_measured (held : members.get? "metrics" = some (.object measured))
    (absent : (ofJson (.object members)).sections = none)
    (succeeded : ¬ (ofJson (.object members)).IsFailure .analysis) :
    ∃ key rest,
      (ofJson (.object members)).toSections .analysis = measuredSection measured key :: rest ∧
        ∀ other ∈ rest, other.title ≠ "Code Quality Metrics" := by
  let answer := ofJson (.object members)
  let others := [Template.issues answer.issues, Template.recommendations answer.recommendations] ++
    answer.correction
  have content : answer.contentSections .analysis =
      Template.metrics (metricsOf (.object measured)) :: others := by
    rw [contentSections_correction, absent, ← metrics_ofJson held]
    rfl
  refine ⟨_, _, by rw [toSections, toSectionsWith,
    unnumberedSections_of_not_failure _ _ succeeded, content, Section.numberKeysWith,
    Section.numberKeysAfter, measuredSection], ?_⟩
  intro other member
  have inside := List.mem_map_of_mem (f := Section.withoutKey) member
  rw [Section.withoutKey_numberKeysAfter] at inside
  obtain ⟨source, present, same⟩ := List.mem_map.mp inside
  exact Section.title_of_withoutKey same ▸ answer.title_of_others source present

end Answer

end CodeReport
