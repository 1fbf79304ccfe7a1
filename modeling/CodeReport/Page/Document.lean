import CodeReport.Page.Card
import CodeReport.Page.Script
import CodeReport.Page.StyleSheet
import CodeReport.Program
import CodeReport.Viewing.Openness

/-!
# Whole pages

A page holds everything it needs: the style sheet, the cards of all sections in
order, and the script. The cards can also be written alone, to be put into
another page; both ways write the same cards.
-/

namespace CodeReport.Page

open Markup

/-- What a browser may load for a page: nothing from elsewhere. -/
def contentPolicy : String :=
  "default-src 'self'; img-src 'self' data:; style-src 'self' 'unsafe-inline'; " ++
    "script-src 'self' 'unsafe-inline'; connect-src 'none'; font-src 'self' data:;"

/-- The cards of sections, in order. -/
def cards (sections : List Section) (openness : Openness) : List Markup :=
  sections.zipIdx.map fun (block, index) => card block index (openness.isOpen block.key)

/-- The severity whose badge stands for a mode. -/
def modeBadge : Mode → Severity
  | .analysis => .info
  | .debug => .warning

/-- The introduction; nothing if it is blank. -/
def introductionView (introduction : String) : Markup :=
  if Text.isBlankText introduction then nothing
  else
    classed .div "introduction" [Icon.lightbulb.small "", plain .div [.text introduction]]

/-- The warning, if there is one. -/
def warningView (warning : Option String) : Markup :=
  ofOption <| warning.map fun message =>
    .element .div [(.role, "status"), (.classes, "warning-banner")] [
      classed .div "warning-head" [Icon.warning.small "", plain .strong [.text "Warning"]],
      plain .p [.text message]]

/-- The head of a page. -/
def headView (title : String) : Markup :=
  plain .head [
    .metadata [(.charset, "UTF-8")],
    .metadata [(.name, "viewport"), (.content, "width=device-width, initial-scale=1")],
    .metadata [(.httpEquiv, "Content-Security-Policy"), (.content, contentPolicy)],
    plain .title [.text s!"{title} - {Program.name}"],
    .verbatim .style StyleSheet.text]

/-- The title of a report with the badge of its mode. -/
def titleView (report : Report) : Markup :=
  classed .header "report-title-bar" [
    plain .h1 [Icon.code.decoration "22" "icon-title", .text report.title],
    badge (modeBadge report.mode)]

/-- The cards of a report, or that it has none. -/
def sectionsView (report : Report) (openness : Openness) : Markup :=
  classed .div "section-list"
    (listed (cards report.sections openness) ++
      [if report.sections.isEmpty then
        classed .p "muted empty-report" [.text "The analysis returned no sections."]
      else .marker])

/-- The model and the program that made a page. -/
def footerView (model : Option String) : Markup :=
  classed .footer "report-footer" [
    ofOption (model.map fun model =>
      classed .span "model-info" [
        Icon.robot.markup "14" "" (some "Model"),
        .text s!"Analyzed using: {model}"]),
    plain .span [.text s!"{Program.name} v{Program.version}"]]

/-- A page as a tree. -/
def page (report : Report) (openness : Openness) : Markup :=
  plain .html [
    headView report.title,
    plain .body [
      .element .main [(.dataMode, report.mode.name), (.classes, "report-shell")] [
        titleView report,
        introductionView report.introduction,
        warningView report.warning,
        sectionsView report openness,
        footerView report.model],
      .verbatim .script Script.text]]

/-- A whole page. -/
def document (report : Report) (openness : Openness) : String :=
  "<!DOCTYPE html>\n" ++ (page report openness).write

/-- The cards of sections, to be put into another page. -/
def fragment (sections : List Section) (openness : Openness) : String :=
  (classed .div "section-list" (listed (cards sections openness))).write

end CodeReport.Page
