import CodeReport.Answer.Reader
import CodeReport.Proofs.Assembly.Outcome

/-!
# Metrics in a table and in a chart

The members of an object are shown twice: all of them as the rows of a table, and
those with a score as the bars of a chart. The two lists are made by separate
passes over the metrics. They are compared with the members by one relation that
goes through all three lists at once, so no row and no bar can change its place or
belong to another member.

The relation leaves open what a row and a bar are, since a table, a line of text
and an element of a page are rows in different ways.
-/

namespace CodeReport.Answer

open Json (Value Members Number)

/-- The score of a metric is its value, if that is a number, or the number in its value. -/
inductive HasScore : Value → Number → Prop
  | value (score : Number) : HasScore (.number score) score
  | member (fields : Members) (score : Number) (held : fields.get? "score" = some (.number score)) :
    HasScore (.object fields) score

/-- No metric has two scores. -/
theorem HasScore.unique {value : Value} {first second : Number} (one : HasScore value first)
    (other : HasScore value second) : first = second := by
  cases one with
  | value =>
    cases other
    rfl
  | member fields _ held =>
    cases other with
    | member _ _ heldToo =>
      rw [held] at heldToo
      injection heldToo with same
      injection same

/-- The score that is read is the one that a metric has. -/
theorem score_ofMember (name : String) {value : Value} {score : Number}
    (has : HasScore value score) : (Metric.ofMember name value).score = some score.toBinary64 := by
  cases has with
  | value => rfl
  | member fields _ held =>
    rw [Metric.ofMember]
    dsimp only
    rw [held]
    rfl

/-- A metric without a score has none when it is read. -/
theorem score_ofMember_none (name : String) {value : Value}
    (lacks : ∀ score, ¬ HasScore value score) : (Metric.ofMember name value).score = none := by
  cases value with
  | number score => exact absurd (.value score) (lacks score)
  | object fields =>
    rw [Metric.ofMember]
    dsimp only
    cases held : Members.get? fields "score" with
    | none => rfl
    | some inner =>
      cases inner with
      | number score => exact absurd (.member fields score held) (lacks score)
      | null | bool _ | string _ | array _ | object _ => rfl
  | null | bool _ | string _ | array _ => rfl

/-- A score is written with a percent sign at its end. -/
theorem getLast?_scoreText (score : Binary64) :
    (Template.scoreText (some score)).toList.getLast? = some '%' := by
  have ends (digits : String) : (digits ++ "%").toList.getLast? = some '%' := by
    rw [String.toList_append]
    exact List.getLast?_concat
  cases score with
  | notANumber => exact ends _
  | infinity negative => exact ends _
  | finite negative significand exponent => exact ends _

/-- The text of a score is never the one for no score. -/
theorem scoreText_filled (score : Binary64) : Template.scoreText (some score) ≠ "n/a" := by
  intro same
  have last := getLast?_scoreText score
  rw [same] at last
  revert last
  decide

/-- Metrics as they are shown: each has its row, and those with a score have their bars, in the
order of the metrics. The text in the row of a metric without a score is `n/a`, and in no other. -/
inductive Charted {Row Bar : Type} (row : String → String → Row → Prop)
    (bar : String → Binary64 → Bar → Prop) : Members → List Row → List Bar → Prop
  | empty : Charted row bar [] [] []
  | scored {name : String} {value : Value} {score : Number} {cell : String} {shownRow : Row}
    {shownBar : Bar} {members : Members} {rows : List Row} {bars : List Bar}
    (has : HasScore value score) (text : cell = Template.scoreText (some score.toBinary64))
    (filled : cell ≠ "n/a") (inRow : row name cell shownRow)
    (inBar : bar name score.toBinary64 shownBar) (further : Charted row bar members rows bars) :
    Charted row bar ((name, value) :: members) (shownRow :: rows) (shownBar :: bars)
  | unscored {name : String} {value : Value} {shownRow : Row} {members : Members}
    {rows : List Row} {bars : List Bar} (lacks : ∀ score, ¬ HasScore value score)
    (inRow : row name "n/a" shownRow) (further : Charted row bar members rows bars) :
    Charted row bar ((name, value) :: members) (shownRow :: rows) bars

namespace Charted

variable {Row Bar OtherRow OtherBar : Type} {row : String → String → Row → Prop}
  {bar : String → Binary64 → Bar → Prop} {members : Members} {rows : List Row} {bars : List Bar}

/-- What is shown of rows and bars one by one shows the metrics in the same way. -/
theorem map {otherRow : String → String → OtherRow → Prop}
    {otherBar : String → Binary64 → OtherBar → Prop} (viewRow : Row → OtherRow)
    (viewBar : Bar → OtherBar)
    (rowViewed : ∀ name score shown, row name (Template.scoreText score) shown →
      otherRow name (Template.scoreText score) (viewRow shown))
    (barViewed : ∀ name score shown, bar name score shown → otherBar name score (viewBar shown))
    (charted : Charted row bar members rows bars) :
    Charted otherRow otherBar members (rows.map viewRow) (bars.map viewBar) := by
  induction charted with
  | empty => exact .empty
  | scored has text filled inRow inBar _ inductionHypothesis =>
    refine .scored has text filled ?_ (barViewed _ _ _ inBar) inductionHypothesis
    rw [text] at inRow ⊢
    exact rowViewed _ _ _ inRow
  | unscored lacks inRow _ inductionHypothesis =>
    exact .unscored lacks (rowViewed _ none _ inRow) inductionHypothesis

/-- Every metric has its row, and only those whose text is not `n/a` have bars, with their names. -/
theorem names_eq {bars : List ScoreBar} {rows : List (List String)}
    (charted : Charted (fun name cell row => row = [name, cell])
      (fun name score bar => bar = ScoreBar.ofScore name score) members rows bars) :
    rows.map List.head? = members.map (fun member => some member.1) ∧
      bars.map (fun bar => some bar.label) =
        (rows.filter fun row => row[1]? ≠ some "n/a").map List.head? := by
  induction charted with
  | empty => exact ⟨rfl, rfl⟩
  | scored _ _ filled inRow inBar _ inductionHypothesis =>
    obtain ⟨names, labels⟩ := inductionHypothesis
    subst inRow inBar
    constructor
    · rw [List.map_cons, List.map_cons, names]
      rfl
    · rw [List.map_cons, labels, List.filter_cons_of_pos (by simpa using filled)]
      rfl
  | unscored _ inRow _ inductionHypothesis =>
    obtain ⟨names, labels⟩ := inductionHypothesis
    subst inRow
    constructor
    · rw [List.map_cons, List.map_cons, names]
      rfl
    · rw [labels, List.filter_cons_of_neg (by simp)]

/-- A metric with a score is among the rows with the text of the score, and among the bars. -/
theorem exists_of_mem (charted : Charted row bar members rows bars) {name : String} {value : Value}
    {score : Number} (member : (name, value) ∈ members) (has : HasScore value score) :
    ∃ shownRow ∈ rows, row name (Template.scoreText (some score.toBinary64)) shownRow ∧
      ∃ shownBar ∈ bars, bar name score.toBinary64 shownBar := by
  induction charted with
  | empty => cases member
  | scored hasHere text _ inRow inBar _ inductionHypothesis =>
    rcases List.mem_cons.mp member with here | later
    · injection here with sameName sameValue
      subst sameName sameValue
      obtain rfl := has.unique hasHere
      rw [text] at inRow
      exact ⟨_, List.mem_cons_self, inRow, _, List.mem_cons_self, inBar⟩
    · obtain ⟨shownRow, isRow, told, shownBar, isBar, drawn⟩ := inductionHypothesis later
      exact ⟨shownRow, List.mem_cons_of_mem _ isRow, told, shownBar,
        List.mem_cons_of_mem _ isBar, drawn⟩
  | unscored lacks _ _ inductionHypothesis =>
    rcases List.mem_cons.mp member with here | later
    · injection here with _ sameValue
      exact absurd (sameValue ▸ has) (lacks score)
    · obtain ⟨shownRow, isRow, told, drawn⟩ := inductionHypothesis later
      exact ⟨shownRow, List.mem_cons_of_mem _ isRow, told, drawn⟩

end Charted

/-- The rows of metrics, by their names and scores. -/
def metricRow (metric : Metric) : List String :=
  [metric.name, Template.scoreText metric.score]

/-- The bar of a metric, if it has a score. -/
def metricBar? (metric : Metric) : Option ScoreBar :=
  metric.score.map (ScoreBar.ofScore metric.name)

/-- The rows and the bars of metrics show the members that the metrics are. -/
theorem charted_metrics (measured : Members) :
    Charted (fun name cell row => row = [name, cell])
      (fun name score bar => bar = ScoreBar.ofScore name score) measured
      ((metricsOf (.object measured)).map metricRow)
      ((metricsOf (.object measured)).filterMap metricBar?) := by
  induction measured with
  | nil => exact .empty
  | cons member rest inductionHypothesis =>
    obtain ⟨name, value⟩ := member
    have named : (Metric.ofMember name value).name = name := by
      cases value <;> rfl
    have split : metricsOf (.object ((name, value) :: rest)) =
        Metric.ofMember name value :: metricsOf (.object rest) := rfl
    rw [split, List.map_cons, List.filterMap_cons, metricBar?]
    by_cases has : ∃ score, HasScore value score
    · obtain ⟨score, has⟩ := has
      have read := score_ofMember name has
      rw [read]
      refine .scored has rfl (scoreText_filled _) ?_ ?_ inductionHypothesis
      · rw [metricRow, named, read]
      · rw [named]
    · have lacks : ∀ score, ¬ HasScore value score := not_exists.mp has
      have read := score_ofMember_none name lacks
      rw [read]
      refine .unscored lacks ?_ inductionHypothesis
      rw [metricRow, named, read]
      rfl

end CodeReport.Answer
