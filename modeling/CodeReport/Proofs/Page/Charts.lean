import CodeReport.Proofs.Page.Classes
import CodeReport.Proofs.Page.Links

/-!
# Bars and confidences on a page

The bars of a chart and the confidence of a rationale are read back from the card
of their section: the label of a bar and the percentage beside it, how wide the
bar is drawn, and the percentage beside a confidence with the part that it fills.

No other component of a card has elements of their classes, so a card shows the
bars and the confidence of its own section and nothing else.
-/

namespace CodeReport.Page

open Markup

/-- A bar as it is read. -/
structure ShownBar where
  labels : List String
  scores : List String
  widths : List String
  deriving Repr, DecidableEq

/-- What is read in the row of a chart. -/
def ShownBar.read (row : Node) : ShownBar where
  labels := (row.ofClass "score-label").map Node.text
  scores := (row.ofClass "score-value").map Node.text
  widths := (row.ofClass "score-bar").filterMap (Node.value? "width")

/-- A bar as it is shown: one label, one percentage and one width. -/
def ShownBar.of (bar : ScoreBar) : ShownBar :=
  ⟨[readable bar.label], [s!"{bar.score.toNat}%"], [toString (Chart.barWidth bar.score)]⟩

/-- The bars in a card, in order. -/
def barsIn (card : Node) : List ShownBar :=
  (card.ofClass "score-row").map ShownBar.read

/-- A confidence as it is read. -/
structure ShownConfidence where
  values : List String
  fills : List String
  deriving Repr, DecidableEq

/-- What the values and the fills in a part of a card tell. -/
def ShownConfidence.read (part : Node) : ShownConfidence where
  values := (part.ofClass "confidence-value").map Node.text
  fills := (part.ofClass "confidence-fill").filterMap (Node.value? "style")

/-- A confidence as it is shown: one percentage, which the bar fills. -/
def ShownConfidence.of (confidence : UInt8) : ShownConfidence :=
  let value := min confidence.toNat 100
  ⟨[s!"{value}%"], [s!"width:{value}%;"]⟩

/-- The confidences in a card. -/
def confidencesIn (card : Node) : List ShownConfidence :=
  (card.ofClass "confidence").map ShownConfidence.read

/-- The attributes that a bar and the track behind it have in common. -/
def boxAttributes (index width : Nat) : Attributes :=
  [(.x, toString Chart.labelWidth), (.y, toString (index * Chart.rowHeight + 6)),
    (.width, toString width), (.height, "12")]

/-- The attributes of a text in a row. -/
def captionAttributes (index place : Nat) (classes : String) : Attributes :=
  [(.x, toString place), (.y, toString (index * Chart.rowHeight + 16)), (.classes, classes)]

/-- The attributes of a bar. -/
def barAttributes (bar : ScoreBar) (index : Nat) : Attributes :=
  boxAttributes index (Chart.barWidth bar.score) ++
    [(.fill, Chart.colour index), (.classes, "score-bar")]

/-- What stands in the row of a bar. -/
def rowPieces (bar : ScoreBar) (index : Nat) : List Markup :=
  [.element .text (captionAttributes index 0 "score-label") [.text bar.label],
    .element .rect (boxAttributes index Chart.barSpan ++ [(.classes, "score-track")]) [],
    .element .rect (barAttributes bar index) [],
    .element .text (captionAttributes index (Chart.labelWidth + Chart.barSpan + 8) "score-value")
      [.text s!"{bar.score.toNat}%"]]

/-- The row of a bar, as it is read. -/
def rowNode (bar : ScoreBar) (index : Nat) : Node :=
  elementNode .g [(.classes, "score-row")] (rowPieces bar index)

/-- A percentage is not empty, so it is shown as it is. -/
theorem readable_percentage (number : Nat) : readable s!"{number}%" = s!"{number}%" := by
  rw [readable, if_neg]
  intro none
  have length := congrArg String.length (String.isEmpty_iff.mp none)
  rw [String.length_append] at length
  exact absurd length (Nat.succ_ne_zero _)

/-- A row is read as the bar that it shows. -/
theorem read_rowNode (bar : ScoreBar) (index : Nat) :
    ShownBar.read (rowNode bar index) = .of bar := by
  have label : (rowNode bar index).ofClass "score-label" =
      [elementNode .text (captionAttributes index 0 "score-label") [.text bar.label]] :=
    ofClass_elementNode _ _ _ _
  have score : (rowNode bar index).ofClass "score-value" =
      [elementNode .text (captionAttributes index (Chart.labelWidth + Chart.barSpan + 8)
        "score-value") [.text s!"{bar.score.toNat}%"]] :=
    ofClass_elementNode _ _ _ _
  have drawn : (rowNode bar index).ofClass "score-bar" =
      [elementNode .rect (barAttributes bar index) []] :=
    ofClass_elementNode _ _ _ _
  have width : [elementNode .rect (barAttributes bar index) []].filterMap (Node.value? "width") =
      [toString (Chart.barWidth bar.score)] :=
    List.filterMap_cons_some (value?_elementNode .rect (barAttributes bar index) [] .width)
  rw [ShownBar.read, label, score, drawn, width, List.map_singleton, List.map_singleton,
    text_elementNode, text_elementNode, readable_percentage, ShownBar.of]

/-- In a chart the rows of all bars are found, in order. -/
theorem picked_chart_rows (bars : List ScoreBar) :
    (Chart.view bars).picked (byClass "score-row") =
      bars.zipIdx.map fun numbered => Chart.row numbered.1 numbered.2 := by
  have rows : pickedOf (byClass "score-row")
      (bars.zipIdx.map fun numbered => Chart.row numbered.1 numbered.2) =
        bars.zipIdx.map fun numbered => Chart.row numbered.1 numbered.2 := by
    rw [pickedOf_map]
    exact List.map_eq_flatMap.symm
  unfold Chart.view
  split
  · rename_i none
    rw [List.isEmpty_iff.mp none]
    rfl
  · have summary : (plain .summary [.text "Show Visualization"]).picked
        (byClass "score-row") = [] := rfl
    rw [classed, picked_within _ _ _ rfl, pickedOf, summary, pickedOf,
      picked_within .svg _ _ rfl, pickedOf_listed]
    exact (List.append_nil _).trans rows

/-- The kinds of the elements of references. -/
def referenceKinds : List ElementKind :=
  (referenceList ["a", "http://a"]).kinds

/-- References are made of the elements of reference lists. -/
theorem kinds_referencesView (references : List String) :
    (referencesView references).kinds ⊆ referenceKinds := by
  unfold referencesView
  split
  · exact List.nil_subset _
  · refine kinds_views_subset .ul _ _ _ (by decide) fun reference => ?_
    unfold referenceView
    split
    · have sample : (linkView "").kinds ⊆ referenceKinds := by decide
      exact kinds_element_subset .li _ _ (by decide) (kindsOf_cons_subset sample
        (List.nil_subset _))
    · have sample : (classed .li "reference-text" [.text ""]).kinds ⊆ referenceKinds := by decide
      exact sample

/-- The attributes of the part of a bar that a confidence fills. -/
def fillAttributes (confidence : UInt8) : Attributes :=
  [(.classes, "confidence-fill"), (.inlineStyle, s!"width:{min confidence.toNat 100}%;")]

/-- In a rationale its confidence is found, if it has one. -/
theorem picked_confidences (rationale : Section.Rationale) :
    (rationaleView rationale).picked (byClass "confidence") =
      rationale.confidence.toList.map confidenceView := by
  unfold rationaleView
  split
  · rename_i nothing
    rw [(Section.Rationale.isEmpty_iff rationale).mp nothing]
    rfl
  · have head : (heading .lightbulb "" "Why this matters").picked (byClass "confidence") = [] :=
      rfl
    have explanation : (ofOption (rationale.explanation.map fun text =>
        classed .p "why-text" [.text text])).picked (byClass "confidence") = [] :=
      picked_ofOption _ _ fun _ => rfl
    have impact : (ofOption (rationale.impact.map fun text =>
        classed .div "why-block" [heading .warning "icon-amber" "Impact",
          classed .p "why-text" [.text text]])).picked (byClass "confidence") = [] :=
      picked_ofOption _ _ fun _ => rfl
    have confidence : (ofOption (rationale.confidence.map fun confidence =>
        classed .div "why-block" [heading .target "icon-emerald" "Confidence Level",
          confidenceView confidence])).picked (byClass "confidence") =
        rationale.confidence.toList.map confidenceView := by
      cases rationale.confidence with
      | none => rfl
      | some confidence => rfl
    have spared : ∀ kind ∈ referenceKinds, kind.hasClass "confidence" = false := by decide
    have list : (referencesView rationale.references).picked (byClass "confidence") = [] :=
      picked_made (kinds_referencesView rationale.references) spared
    have references : (if rationale.references.isEmpty then .marker
        else classed .div "why-block" [heading .link "" "References",
          classed .ul "reference-list" (listed (rationale.references.map referenceView))]).picked
            (byClass "confidence") = [] := by
      unfold referencesView at list
      split
      · rfl
      · rename_i some
        rw [if_neg some, referenceList] at list
        rw [classed, picked_within _ _ _ rfl, pickedOf, pickedOf, list]
        rfl
    rw [classed, picked_within _ _ _ rfl, pickedOf, head, pickedOf, explanation, pickedOf, impact,
      pickedOf, confidence, pickedOf, references]
    exact List.append_nil _

/-- What stands in the part of a confidence. -/
def confidencePieces (confidence : UInt8) : List Markup :=
  [classed .div "confidence-track" [.element .div (fillAttributes confidence) []],
    classed .span "confidence-value" [.text s!"{min confidence.toNat 100}%"]]

/-- The part of a confidence, as it is read. -/
def confidenceNode (confidence : UInt8) : Node :=
  elementNode .div [(.classes, "confidence")] (confidencePieces confidence)

/-- A confidence is read as it is shown. -/
theorem read_confidenceNode (confidence : UInt8) :
    ShownConfidence.read (confidenceNode confidence) = .of confidence := by
  have value : (confidenceNode confidence).ofClass "confidence-value" =
      [elementNode .span [(.classes, "confidence-value")]
        [.text s!"{min confidence.toNat 100}%"]] :=
    ofClass_elementNode _ _ _ _
  have fill : (confidenceNode confidence).ofClass "confidence-fill" =
      [elementNode .div (fillAttributes confidence) []] :=
    ofClass_elementNode _ _ _ _
  have style : [elementNode .div (fillAttributes confidence) []].filterMap (Node.value? "style") =
      [s!"width:{min confidence.toNat 100}%;"] :=
    List.filterMap_cons_some (value?_elementNode .div (fillAttributes confidence) [] .inlineStyle)
  rw [ShownConfidence.read, value, fill, style, List.map_singleton, text_elementNode,
    readable_percentage, ShownConfidence.of]

/-- The bars of a card are those of the chart of its section, in order. -/
theorem barsIn_cardNode (block : Section) (place : Nat) (isOpen : Bool) :
    barsIn (cardNode block place isOpen) = block.chart.map .of := by
  have body : (bodyView block.body).picked (byClass "score-row") = [] :=
    picked_made (kinds_bodyView block.body) (by decide +kernel)
  have steps : (stepsView block.steps).picked (byClass "score-row") = [] :=
    picked_made (kinds_stepsView block.steps) (by decide +kernel)
  have references : (referencesView block.rationale.references).picked (byClass "score-row") = [] :=
    picked_made (kinds_referencesView block.rationale.references) (by decide +kernel)
  have rationale : (rationaleView block.rationale).picked (byClass "score-row") = [] := by
    rw [picked_references (by decide +kernel), references]
  have rows : nodesOf (block.chart.zipIdx.map fun numbered => Chart.row numbered.1 numbered.2) =
      block.chart.zipIdx.map fun numbered => rowNode numbered.1 numbered.2 :=
    nodesOf_map _ _ _ fun numbered => rfl
  rw [barsIn, ofClass_card _ (by decide +kernel), body, steps, rationale, picked_chart_rows,
    List.nil_append, List.nil_append, List.append_nil, rows, List.map_map]
  conv_rhs => rw [← List.zipIdx_map_fst 0 block.chart, List.map_map]
  exact List.map_congr_left fun numbered _ => read_rowNode numbered.1 numbered.2

/-- The confidence of a card is that of the rationale of its section. -/
theorem confidencesIn_cardNode (block : Section) (place : Nat) (isOpen : Bool) :
    confidencesIn (cardNode block place isOpen) =
      block.rationale.confidence.toList.map .of := by
  have body : (bodyView block.body).picked (byClass "confidence") = [] :=
    picked_made (kinds_bodyView block.body) (by decide +kernel)
  have chart : (Chart.view block.chart).picked (byClass "confidence") = [] :=
    picked_made (kinds_chart block.chart) (by decide +kernel)
  have steps : (stepsView block.steps).picked (byClass "confidence") = [] :=
    picked_made (kinds_stepsView block.steps) (by decide +kernel)
  have found : nodesOf (block.rationale.confidence.toList.map confidenceView) =
      block.rationale.confidence.toList.map confidenceNode :=
    nodesOf_map _ _ _ fun confidence => rfl
  rw [confidencesIn, ofClass_card _ (by decide +kernel), body, chart, steps, picked_confidences,
    List.nil_append, List.nil_append, List.nil_append, found, List.map_map]
  exact List.map_congr_left fun confidence _ => read_confidenceNode confidence

/-- Items and what is made of them place by place. -/
theorem forall₂_zipIdx {α β : Type} {related : α → β → Prop} (items : List α) (made : α × Nat → β)
    (each : ∀ item ∈ items, ∀ place, related item (made (item, place))) :
    List.Forall₂ related items (items.zipIdx.map made) := by
  rw [List.forall₂_iff_get]
  refine ⟨by simp, fun index isItem isMade => ?_⟩
  have item : items[index] ∈ items := List.getElem_mem isItem
  simpa using each items[index] item index

end CodeReport.Page
