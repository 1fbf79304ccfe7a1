import CodeReport.Page.Document

/-!
# The text of a page around its cards

A page is written from the outside in. Around an element stands what its parents
write before and after it, and that does not depend on the element: only texts
are written differently next to other texts, and a card is no text.

The cards are the one part of a page that looks at what is open. What stands
around them is therefore the same text for every openness.
-/

namespace CodeReport.Page

open Markup

namespace Markup

/-- A piece that is no text is written in its place between the pieces around it. -/
theorem writeAll_around (afterText : Bool) (before after : List Markup) (piece : Markup)
    (solid : piece.isText = false) :
    writeAll afterText (before ++ piece :: after) =
      writeAll afterText before ++ piece.write ++ writeAll false after := by
  induction before generalizing afterText with
  | nil => simp [writeAll, solid]
  | cons first rest inductionHypothesis =>
    rw [List.cons_append, writeAll, writeAll, inductionHypothesis first.isText]
    simp only [String.append_assoc]

/-- Pieces that are no texts are written one after the other. -/
theorem writeAll_solid (pieces rest : List Markup)
    (solid : ∀ piece ∈ pieces, piece.isText = false) :
    writeAll false (pieces ++ rest) = String.join (pieces.map write) ++ writeAll false rest := by
  induction pieces with
  | nil => simp
  | cons first others inductionHypothesis =>
    have here : first.isText = false := solid first List.mem_cons_self
    have later := inductionHypothesis fun piece member =>
      solid piece (List.mem_cons_of_mem first member)
    rw [List.cons_append, writeAll, here, later]
    simp [String.append_assoc]

/-- An element around one of its children that is no text. -/
theorem write_around (tag : Tag) (attributes : Attributes) (before after : List Markup)
    (piece : Markup) (solid : piece.isText = false) :
    (Markup.element tag attributes (before ++ piece :: after)).write =
      "<" ++ tag.name ++ writeAttributes attributes ++ ">" ++ writeAll false before ++
        piece.write ++ (writeAll false after ++ "</" ++ tag.name ++ ">") := by
  rw [write, writeAll_around false before after piece solid]
  simp only [String.append_assoc]

/-- A page whose parts are no texts. -/
theorem write_nested (head main script : Markup) (solidHead : head.isText = false)
    (solidMain : main.isText = false) (solidScript : script.isText = false) :
    (plain .html [head, plain .body [main, script]]).write =
      "<html>" ++ (head.write ++ "<body>" ++ main.write ++ script.write) ++ "</body></html>" := by
  simp [plain, write, writeAll, writeAttributes, Tag.name, solidHead, solidMain, solidScript,
    String.append_assoc]

end Markup

/-- What the button of a card says about its being open. -/
def expandedWord (isOpen : Bool) : String :=
  if isOpen then "true" else "false"

/-- The class of the part of a card that is opened and closed. -/
def contentClass (isOpen : Bool) : String :=
  if isOpen then "section-body" else "section-body collapsed"

/-- The pieces of the button of a card. -/
def togglePieces (block : Section) : List Markup :=
  [classed .span "section-marker" [], plain .h2 [.text block.title],
    Icon.caret.decoration "16" "caret"]

/-- The attributes of the button of a card. -/
def toggleAttributes (block : Section) (isOpen : Bool) : Attributes :=
  [(.dataToggle, block.key.text), (.ariaExpanded, expandedWord isOpen),
    (.title, "Expand or collapse"), (.classes, "section-toggle")]

/-- The button of a card. -/
def toggleView (block : Section) (isOpen : Bool) : Markup :=
  .element .button (toggleAttributes block isOpen) (togglePieces block)

/-- The pieces of the part of a card that is opened and closed. -/
def contentPieces (block : Section) : List Markup :=
  [bodyView block.body, Chart.view block.chart, stepsView block.steps,
    rationaleView block.rationale]

/-- The attributes of the part of a card that is opened and closed. -/
def contentAttributes (block : Section) (isOpen : Bool) : Attributes :=
  [(.dataSectionBody, block.key.text), (.classes, contentClass isOpen)]

/-- The part of a card that is opened and closed. -/
def contentView (block : Section) (isOpen : Bool) : Markup :=
  .element .div (contentAttributes block isOpen) (contentPieces block)

/-- The attributes of a card. -/
def cardAttributes (block : Section) (place : Nat) : Attributes :=
  [(.id, s!"section-{place + 1}"), (.dataSectionKey, block.key.text),
    (.dataKind, block.kind.name), (.classes, cardClass block)]

/-- A card is its button with a badge, and the part that the button opens and closes. -/
theorem card_divided (block : Section) (place : Nat) (isOpen : Bool) :
    card block place isOpen =
      .element .sectioning (cardAttributes block place) [
        classed .header "section-header"
          [toggleView block isOpen, ofOption (block.severity.map badge)],
        contentView block isOpen] :=
  rfl

/-- Whether a card is open shows in the values of two attributes and nowhere else: one of its
button, and one of the part that the button opens and closes. -/
theorem write_card (block : Section) (place : Nat) :
    ∃ start between rest, ∀ isOpen,
      (card block place isOpen).write =
        start ++
          ("<button" ++ writeAttribute (.dataToggle, block.key.text) ++
            writeAttribute (.ariaExpanded, expandedWord isOpen)) ++
          between ++
          ("<div" ++ writeAttribute (.dataSectionBody, block.key.text) ++
            writeAttribute (.classes, contentClass isOpen)) ++
          rest := by
  refine ⟨"<section" ++ writeAttributes (cardAttributes block place) ++ ">" ++
      ("<header" ++ writeAttribute (.classes, "section-header") ++ ">"),
    writeAttribute (.title, "Expand or collapse") ++
        writeAttribute (.classes, "section-toggle") ++ ">" ++
      writeAll false (togglePieces block) ++ "</button>" ++
      writeAll false [ofOption (block.severity.map badge)] ++ "</header>",
    ">" ++ writeAll false (contentPieces block) ++ "</div></section>", ?_⟩
  intro isOpen
  rw [card_divided]
  simp [classed, write, writeAll, toggleView, toggleAttributes, contentView, contentAttributes,
    isText, writeAttributes, Tag.name, String.append_assoc]

/-- A card is no text. -/
theorem solid_cards (sections : List Section) (openness : Openness) :
    ∀ piece ∈ cards sections openness, piece.isText = false := by
  intro piece member
  obtain ⟨numbered, _, rfl⟩ := List.mem_map.mp member
  rfl

/-- What a list of sections begins with. -/
def listFront : String := "<div" ++ writeAttribute (.classes, "section-list") ++ ">"

/-- The texts of cards, in order. -/
def cardTexts (sections : List Section) (openness : Openness) : List String :=
  (cards sections openness).map write

/-- What stands behind the cards of a page, up to the end of their list. -/
def listBack (sections : List Section) : String :=
  writeAll false [.marker,
    if sections.isEmpty then
      classed .p "muted empty-report" [.text "The analysis returned no sections."]
    else .marker] ++ "</div>"

/-- The sections of a page are written card by card, between two texts that look at no openness. -/
theorem write_sectionsView (report : Report) (openness : Openness) :
    (sectionsView report openness).write =
      listFront ++ String.join (cardTexts report.sections openness) ++
        listBack report.sections := by
  rw [sectionsView, classed, write, listed, List.append_assoc,
    writeAll_solid _ _ (solid_cards report.sections openness)]
  simp [listFront, listBack, cardTexts, writeAttributes, Tag.name, String.append_assoc]

/-- The main part of a page. -/
def mainView (report : Report) (openness : Openness) : Markup :=
  .element .main [(.dataMode, report.mode.name), (.classes, "report-shell")] [
    titleView report,
    introductionView report.introduction,
    warningView report.warning,
    sectionsView report openness,
    footerView report.model]

/-- What the main part of a page begins with, up to the list of its cards. -/
def mainFront (report : Report) : String :=
  "<main" ++ writeAttributes [(.dataMode, report.mode.name), (.classes, "report-shell")] ++ ">" ++
    writeAll false
      [titleView report, introductionView report.introduction, warningView report.warning]

/-- What the main part of a page ends with, behind the list of its cards. -/
def mainBack (report : Report) : String :=
  writeAll false [footerView report.model] ++ "</main>"

/-- The sections stand in the main part of a page between two texts that look at no openness. -/
theorem write_mainView (report : Report) (openness : Openness) :
    (mainView report openness).write =
      mainFront report ++ (sectionsView report openness).write ++ mainBack report := by
  have around := write_around .main [(.dataMode, report.mode.name), (.classes, "report-shell")]
    [titleView report, introductionView report.introduction, warningView report.warning]
    [footerView report.model] (sectionsView report openness) rfl
  simpa [Tag.name, mainFront, mainBack, mainView, String.append_assoc] using around

/-- What a page begins with, up to its main part. -/
def documentFront (report : Report) : String :=
  "<!DOCTYPE html>\n" ++ "<html>" ++ (headView report.title).write ++ "<body>"

/-- What a page ends with, behind its main part. -/
def documentBack : String :=
  (Markup.verbatim .script Script.text).write ++ "</body></html>"

/-- A page is its main part between two texts, neither of which looks at what is open. -/
theorem document_around (report : Report) (openness : Openness) :
    document report openness =
      documentFront report ++ (mainView report openness).write ++ documentBack := by
  have whole : (page report openness).write = _ :=
    write_nested (headView report.title) (mainView report openness)
      (.verbatim .script Script.text) rfl rfl rfl
  unfold document documentFront documentBack
  rw [whole]
  simp only [String.append_assoc]

/-- A fragment is written card by card, and its end is always the same. -/
theorem write_fragment (sections : List Section) (openness : Openness) :
    fragment sections openness =
      listFront ++ String.join (cardTexts sections openness) ++ "<!></div>" := by
  rw [fragment, classed, write, listed, writeAll_solid _ _ (solid_cards sections openness)]
  simp [listFront, cardTexts, writeAll, write, writeAttributes, Tag.name, String.append_assoc]

end CodeReport.Page
