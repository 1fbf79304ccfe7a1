import CodeReport.Page.Body
import CodeReport.Page.Chart
import CodeReport.Text.Letters

/-!
# Section cards

A card is a header with a button that opens and closes it, and below it the
body, the chart, the steps and the rationale of its section. The button and the
part that it opens carry the key of the section, so no card touches another.
Whether a card is open shows in two places only: at the button and in the class
of the part below.
-/

namespace CodeReport.Page

open Markup

/-- The badge of a severity. -/
def badge (severity : Severity) : Markup :=
  .element .span
    [(.dataSeverity, severity.name), (.classes, s!"badge badge-{severity.palette}")]
    [classed .span "badge-icon" [.text severity.icon], .text severity.label]

/-- Steps with numbers from 1 on; nothing without steps. -/
def stepsView (steps : List String) : Markup :=
  if steps.isEmpty then nothing
  else
    classed .div "step-cards" <| listed <| steps.zipIdx.map fun (step, index) =>
      classed .div "step-card" [
        classed .span "step-number" [.text (toString (index + 1))],
        plain .p [.text step]]

/-- A reference leads somewhere if it begins with one of the two schemes of the web, in any letter
    case and behind blanks. -/
def isWebLink (reference : String) : Bool :=
  let characters := Text.dropBlankStart reference.toList
  ["http://", "https://"].any fun scheme => Text.startsWithLetters scheme.toList characters

/-- A reference: a link if it leads somewhere, else its text. -/
def referenceView (reference : String) : Markup :=
  if isWebLink reference then
    plain .li [
      .element .a [(.href, reference), (.target, "_blank"), (.rel, "noopener noreferrer")]
        [.text reference]]
  else classed .li "reference-text" [.text reference]

/-- A percentage as a bar; what is beyond 100 is shown as 100. -/
def confidenceView (confidence : UInt8) : Markup :=
  let value := min confidence.toNat 100
  classed .div "confidence" [
    classed .div "confidence-track" [
      .element .div [(.classes, "confidence-fill"), (.inlineStyle, s!"width:{value}%;")] []],
    classed .span "confidence-value" [.text s!"{value}%"]]

/-- The heading of a part of a rationale. -/
def heading (icon : Icon) (colour title : String) : Markup :=
  classed .div "why-head" [icon.small colour, plain .h4 [.text title]]

/-- What a rationale shows; nothing for an empty one. -/
def rationaleView (rationale : Section.Rationale) : Markup :=
  if rationale.isEmpty then nothing
  else
    classed .div "why-panel" [
      heading .lightbulb "" "Why this matters",
      ofOption (rationale.explanation.map fun text => classed .p "why-text" [.text text]),
      ofOption (rationale.impact.map fun text =>
        classed .div "why-block" [
          heading .warning "icon-amber" "Impact", classed .p "why-text" [.text text]]),
      ofOption (rationale.confidence.map fun confidence =>
        classed .div "why-block" [
          heading .target "icon-emerald" "Confidence Level", confidenceView confidence]),
      if rationale.references.isEmpty then .marker
      else
        classed .div "why-block" [
          heading .link "" "References",
          classed .ul "reference-list" (listed (rationale.references.map referenceView))]]

/-- The class of a card. -/
def cardClass (block : Section) : String :=
  if block.body.isDegraded then "section-card degraded-card"
  else if block.severity = some .error then "section-card error-card"
  else "section-card"

/-- The card of the section at a place, counted from 0. -/
def card (block : Section) (index : Nat) (isOpen : Bool) : Markup :=
  let key := block.key.text
  .element .sectioning
    [(.id, s!"section-{index + 1}"), (.dataSectionKey, key), (.dataKind, block.kind.name),
      (.classes, cardClass block)] [
    classed .header "section-header" [
      .element .button
        [(.dataToggle, key), (.ariaExpanded, if isOpen then "true" else "false"),
          (.title, "Expand or collapse"), (.classes, "section-toggle")] [
        classed .span "section-marker" [],
        plain .h2 [.text block.title],
        Icon.caret.decoration "16" "caret"],
      ofOption (block.severity.map badge)],
    .element .div
      [(.dataSectionBody, key),
        (.classes, if isOpen then "section-body" else "section-body collapsed")] [
      bodyView block.body,
      Chart.view block.chart,
      stepsView block.steps,
      rationaleView block.rationale]]

end CodeReport.Page
