import CodeReport.Page.Markup
import CodeReport.Report.Basic

/-!
# Charts of scores

A chart draws one bar for each score, in rows of equal height, with the label on
the left and the score on the right. A bar grows with its score up to 100; the
score itself is written as it is. Colours repeat after four bars.
-/

namespace CodeReport.Page.Chart

/-- The width of the column of labels. -/
def labelWidth : Nat := 140

/-- The width of a full bar. -/
def barSpan : Nat := 200

/-- The height of a row. -/
def rowHeight : Nat := 24

/-- The width of a chart, with room for the scores. -/
def width : Nat := labelWidth + barSpan + 48

/-- The colours of bars. -/
def colours : List String := ["#FF5A5A", "#50C878", "#5B9BD5", "#FFD700"]

/-- The width of the bar of a score. -/
def barWidth (score : UInt8) : Nat :=
  min score.toNat 100 * barSpan / 100

/-- The colour of the bar in a row, counted from 0. -/
def colour (row : Nat) : String :=
  colours.getD (row % colours.length) ""

/-- A bar in a row with its label and score. -/
def row (bar : ScoreBar) (index : Nat) : Markup :=
  let top := index * rowHeight
  let baseline := toString (top + 16)
  let box (width : Nat) : Attributes :=
    [(.x, toString labelWidth), (.y, toString (top + 6)), (.width, toString width),
      (.height, "12")]
  .classed .g "score-row" [
    .element .text [(.x, "0"), (.y, baseline), (.classes, "score-label")] [.text bar.label],
    .element .rect (box barSpan ++ [(.classes, "score-track")]) [],
    .element .rect (box (barWidth bar.score) ++
      [(.fill, colour index), (.classes, "score-bar")]) [],
    .element .text
      [(.x, toString (labelWidth + barSpan + 8)), (.y, baseline), (.classes, "score-value")]
      [.text s!"{bar.score.toNat}%"]]

/-- A chart behind a summary that opens it; nothing without bars. -/
def view (bars : List ScoreBar) : Markup :=
  if bars.isEmpty then .nothing
  else
    let height := bars.length * rowHeight
    .classed .details "score-chart" [
      .plain .summary [.text "Show Visualization"],
      .element .svg
        [(.xmlns, "http://www.w3.org/2000/svg"), (.viewBox, s!"0 0 {width} {height}"),
          (.width, toString width), (.height, toString height), (.role, "img"),
          (.ariaLabel, "Metric scores")]
        (Markup.listed (bars.zipIdx.map fun (bar, index) => row bar index))]

end CodeReport.Page.Chart
