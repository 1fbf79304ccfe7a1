import CodeReport.Proofs.Page.Parts
import CodeReport.Proofs.Page.Search

/-!
# Kinds of elements

An element is of a kind: its name, the names of its attributes, and its class.
The kinds of the elements of a component are the same whatever it shows, so each
component has a closed list of them, which is read off samples of the component.
Only the number of elements and the choice among the samples depend on what is
shown.

A search that looks at kinds alone and spares a list finds nothing in the
components of the list. Whether it spares a list is decided by going through it.
-/

namespace CodeReport.Page

open Markup

/-- What is the same in all elements that one line of a component makes. -/
structure ElementKind where
  name : String
  labels : List AttributeName
  classes : Option String
  deriving DecidableEq

/-- The kind of an element. -/
def ElementKind.of (name : String) (attributes : Attributes) : ElementKind :=
  ⟨name, attributes.map Prod.fst, attributes.lookup .classes⟩

/-- The class of an element stands behind its other attributes. -/
theorem lookup_other (label : AttributeName) (value : String) (rest : Attributes)
    (other : label ≠ .classes) :
    List.lookup .classes ((label, value) :: rest) = rest.lookup .classes := by
  have differs : (AttributeName.classes == label) = false := beq_false_of_ne (Ne.symm other)
  rw [List.lookup_cons, differs]

/-- A search that looks at the kinds of elements alone. -/
def ofKind (sought : ElementKind → Bool) (name : String) (attributes : Attributes) : Bool :=
  sought (.of name attributes)

namespace Markup

mutual
/-- The kinds of the elements of markup, in the order of their start tags. -/
def kinds : Markup → List ElementKind
  | .text _ => []
  | .marker => []
  | .element tag attributes children => .of tag.name attributes :: kindsOf children
  | .metadata attributes => [.of "meta" attributes]
  | .verbatim tag _ => [.of tag.name []]

/-- The kinds of the elements of markup in a row. -/
def kindsOf : List Markup → List ElementKind
  | [] => []
  | piece :: rest => kinds piece ++ kindsOf rest
end

/-- Markup in two rows is made of what each of them is made of. -/
theorem kindsOf_append (first second : List Markup) :
    kindsOf (first ++ second) = kindsOf first ++ kindsOf second := by
  induction first with
  | nil => rfl
  | cons piece rest inductionHypothesis =>
    rw [List.cons_append, kindsOf, kindsOf, inductionHypothesis, List.append_assoc]

/-- The marker behind a list adds no kind of element. -/
theorem kindsOf_listed (pieces : List Markup) : kindsOf (listed pieces) = kindsOf pieces := by
  rw [listed, kindsOf_append]
  exact List.append_nil _

/-- Markup in a row is made of known kinds if the first piece and all later ones are. -/
theorem kindsOf_cons_subset {known : List ElementKind} {piece : Markup} {rest : List Markup}
    (here : piece.kinds ⊆ known) (later : kindsOf rest ⊆ known) :
    kindsOf (piece :: rest) ⊆ known :=
  List.append_subset.mpr ⟨here, later⟩

/-- Views of items are made of what each of them is made of. -/
theorem kindsOf_map_subset {α : Type} {known : List ElementKind} (view : α → Markup)
    (items : List α) (each : ∀ item, (view item).kinds ⊆ known) :
    kindsOf (items.map view) ⊆ known := by
  induction items with
  | nil => exact List.nil_subset known
  | cons item rest inductionHypothesis =>
    rw [List.map_cons, kindsOf]
    exact List.append_subset.mpr ⟨each item, inductionHypothesis⟩

/-- An element is of a known kind if its own kind is known and those of its children are. -/
theorem kinds_element_subset {known : List ElementKind} (tag : Tag) (attributes : Attributes)
    (children : List Markup) (own : .of tag.name attributes ∈ known)
    (inner : kindsOf children ⊆ known) :
    (Markup.element tag attributes children).kinds ⊆ known :=
  List.cons_subset.mpr ⟨own, inner⟩

/-- A view of something that may be absent. -/
theorem kinds_ofOption_subset {α : Type} {known : List ElementKind} (view : α → Markup)
    (item : Option α) (each : ∀ present, (view present).kinds ⊆ known) :
    (ofOption (item.map view)).kinds ⊆ known := by
  cases item with
  | none => exact List.nil_subset known
  | some present => exact each present

/-- A list of views of items, in an element of its own. -/
theorem kinds_views_subset {α : Type} {known : List ElementKind} (tag : Tag)
    (attributes : Attributes) (view : α → Markup) (items : List α)
    (own : .of tag.name attributes ∈ known) (each : ∀ item, (view item).kinds ⊆ known) :
    (Markup.element tag attributes (listed (items.map view))).kinds ⊆ known := by
  apply kinds_element_subset tag attributes _ own
  rw [kindsOf_listed]
  exact kindsOf_map_subset view items each

section Spared

variable {sought : ElementKind → Bool}

mutual
/-- Nothing is found in markup whose kinds are spared. -/
theorem picked_spared (piece : Markup) (spared : ∀ kind ∈ piece.kinds, sought kind = false) :
    piece.picked (ofKind sought) = [] := by
  match piece with
  | .text content => rfl
  | .marker => rfl
  | .element tag attributes children =>
    obtain ⟨own, inner⟩ := List.forall_mem_cons.mp spared
    rw [picked, ofKind, own, pickedOf_spared children inner]
    rfl
  | .metadata attributes =>
    rw [picked, ofKind, spared _ List.mem_cons_self]
    rfl
  | .verbatim tag content =>
    rw [picked, ofKind, spared _ List.mem_cons_self]
    rfl

/-- The same of markup in a row. -/
theorem pickedOf_spared (pieces : List Markup)
    (spared : ∀ kind ∈ kindsOf pieces, sought kind = false) :
    pickedOf (ofKind sought) pieces = [] := by
  match pieces with
  | [] => rfl
  | piece :: rest =>
    obtain ⟨here, later⟩ := List.forall_mem_append.mp spared
    rw [pickedOf, picked_spared piece here, pickedOf_spared rest later]
    rfl
end

/-- Nothing is found in markup that is made of spared kinds. -/
theorem picked_made {known : List ElementKind} {piece : Markup} (made : piece.kinds ⊆ known)
    (spared : ∀ kind ∈ known, sought kind = false) : piece.picked (ofKind sought) = [] :=
  picked_spared piece fun kind member => spared kind (made member)

/-- In a spared element only what its children have is found. -/
theorem picked_within (tag : Tag) (attributes : Attributes) (children : List Markup)
    (own : sought (.of tag.name attributes) = false) :
    (Markup.element tag attributes children).picked (ofKind sought) =
      pickedOf (ofKind sought) children := by
  rw [picked, ofKind, own]
  rfl

end Spared

end Markup

/-- The kinds of the elements of bodies. -/
def bodyKinds : List ElementKind :=
  kindsOf ([.text "", .text "a", .list .bullet ["a"], .list .numbered ["a"], .table ["a"] [],
    .table ["a"] [["a"]], .code none "", .degraded .text ""].map bodyView)

/-- A notice is made of the elements of bodies. -/
theorem kinds_notice (expected : Section.Kind) (reason : String) :
    (notice expected reason).kinds ⊆ bodyKinds := by
  -- Texts and values take no part in kinds, so the sample has the same ones by definition.
  have sample : (notice .text "").kinds ⊆ bodyKinds := by decide
  exact sample

/-- The placeholder of an empty body is made of the elements of bodies. -/
theorem kinds_nothingReported : nothingReported.kinds ⊆ bodyKinds := by decide

/-- Paragraphs are made of the elements of bodies. -/
theorem kinds_textView (content : String) : (textView content).kinds ⊆ bodyKinds := by
  unfold textView
  split
  · exact kinds_nothingReported
  · apply kinds_views_subset
    · decide
    · intro paragraph
      have sample : (plain .p [.text ""]).kinds ⊆ bodyKinds := by decide
      exact sample

/-- A list of items is made of the elements of bodies. -/
theorem kinds_listView (kind : ListKind) (items : List String) :
    (listView kind items).kinds ⊆ bodyKinds := by
  have entry (item : String) : (plain .li [.text item]).kinds ⊆ bodyKinds := by
    have sample : (plain .li [.text ""]).kinds ⊆ bodyKinds := by decide
    exact sample
  unfold listView
  split
  · exact kinds_nothingReported
  · cases kind with
    | bullet => exact kinds_views_subset _ _ _ _ (by decide) entry
    | numbered => exact kinds_views_subset _ _ _ _ (by decide) entry

/-- Code is shown by elements of bodies, with or without a language. -/
theorem kinds_codeView (language : Option String) (content : String) :
    (codeView language content).kinds ⊆ bodyKinds := by
  have sample : (codeView none "").kinds ⊆ bodyKinds := by decide
  exact sample

/-- A table is made of the elements of bodies, with or without rows. -/
theorem kinds_tableView (headers : List String) (rows : List (List String)) :
    (tableView headers rows).kinds ⊆ bodyKinds := by
  have cells (tag : Tag) (known : .of tag.name [] ∈ bodyKinds) (texts : List String) :
      kindsOf (cells tag texts) ⊆ bodyKinds := by
    rw [Page.cells, kindsOf_listed]
    apply kindsOf_map_subset
    intro text
    exact kinds_element_subset tag [] _ known (List.nil_subset _)
  have isRow : ElementKind.of Tag.tr.name [] ∈ bodyKinds := by decide
  have headerRow : (plain .thead [plain .tr (Page.cells .th headers)]).kinds ⊆ bodyKinds := by
    apply kinds_element_subset .thead [] _ (by decide)
    apply kindsOf_cons_subset
    · exact kinds_element_subset .tr [] _ isRow (cells .th (by decide) headers)
    · exact List.nil_subset _
  have lines : kindsOf (rows.map fun row => plain .tr (Page.cells .td row)) ⊆ bodyKinds := by
    apply kindsOf_map_subset
    intro row
    exact kinds_element_subset .tr [] _ isRow (cells .td (by decide) row)
  have noRow : kindsOf [if rows.isEmpty then emptyRow headers.length else .marker] ⊆
      bodyKinds := by
    have sample : kindsOf [emptyRow 0] ⊆ bodyKinds := by decide
    split
    · exact sample
    · exact List.nil_subset _
  refine kinds_element_subset .div _ _ (by decide) (kindsOf_cons_subset ?_ ?_)
  · refine kinds_element_subset .table _ _ (by decide) (kindsOf_cons_subset headerRow ?_)
    refine kindsOf_cons_subset ?_ (List.nil_subset _)
    apply kinds_element_subset .tbody _ _ (by decide)
    rw [kindsOf_append, kindsOf_listed]
    exact List.append_subset.mpr ⟨lines, noRow⟩
  · exact List.nil_subset _

/-- The kinds of the elements of a body. -/
theorem kinds_bodyView (body : Section.Body) : (bodyView body).kinds ⊆ bodyKinds := by
  unfold bodyView
  cases body.defect? with
  | some defect => exact kinds_notice _ _
  | none =>
    cases body with
    | text content => exact kinds_textView content
    | list kind items => exact kinds_listView kind items
    | table headers rows => exact kinds_tableView headers rows
    | code language content => exact kinds_codeView language content
    | degraded expected reason => exact kinds_notice expected reason

/-- The kinds of the elements of charts. -/
def chartKinds : List ElementKind :=
  (Chart.view [⟨"", 0⟩]).kinds

/-- The rows of a chart differ in values alone. -/
theorem kinds_row (bar : ScoreBar) (index : Nat) :
    (Chart.row bar index).kinds = (Chart.row ⟨"", 0⟩ 0).kinds := by
  simp [Chart.row, classed, kinds, kindsOf, ElementKind.of, lookup_other]

/-- The kinds of the elements of a chart. -/
theorem kinds_chart (bars : List ScoreBar) : (Chart.view bars).kinds ⊆ chartKinds := by
  unfold Chart.view
  split
  · exact List.nil_subset _
  · refine kinds_element_subset .details _ _ (by decide) (kindsOf_cons_subset ?_ ?_)
    · have sample : (plain .summary [.text ""]).kinds ⊆ chartKinds := by decide
      exact sample
    · refine kindsOf_cons_subset ?_ (List.nil_subset _)
      apply kinds_views_subset
      · have known : (⟨"svg", [.xmlns, .viewBox, .width, .height, .role, .ariaLabel], none⟩ :
            ElementKind) ∈ chartKinds := by decide
        exact known
      · rintro ⟨bar, index⟩
        rw [kinds_row]
        decide

/-- The kinds of the elements of steps. -/
def stepKinds : List ElementKind :=
  (stepsView [""]).kinds

/-- The kinds of the elements of steps. -/
theorem kinds_stepsView (steps : List String) : (stepsView steps).kinds ⊆ stepKinds := by
  unfold stepsView
  split
  · exact List.nil_subset _
  · apply kinds_views_subset
    · decide
    · intro numbered
      have sample : kindsOf [
        classed .div "step-card" [
          classed .span "step-number" [.text ""], plain .p [.text ""]]] ⊆ stepKinds := by
        decide
      exact sample

/-- The kinds of the elements of rationales, apart from their references. -/
def noteKinds : List ElementKind :=
  (rationaleView ⟨some "", some "", some 0, []⟩).kinds

/-- A list of references, in the order in which they are given. -/
def referenceList (references : List String) : Markup :=
  classed .ul "reference-list" (listed (references.map referenceView))

/-- The references of a rationale; nothing without references. -/
def referencesView (references : List String) : Markup :=
  if references.isEmpty then .marker else referenceList references

/-- The view of a confidence is made of the same elements whatever its value. -/
theorem kinds_confidenceView (confidence : UInt8) :
    (confidenceView confidence).kinds = (confidenceView 0).kinds := by
  simp [confidenceView, classed, kinds, kindsOf, ElementKind.of]

/-- An explanation is made of the elements of rationales. -/
theorem kinds_explanation (text : String) :
    (classed .p "why-text" [.text text]).kinds ⊆ noteKinds := by
  have sample : (classed .p "why-text" [.text ""]).kinds ⊆ noteKinds := by decide
  exact sample

/-- An impact is made of the elements of rationales. -/
theorem kinds_impact (text : String) :
    (classed .div "why-block" [
      heading .warning "icon-amber" "Impact", classed .p "why-text" [.text text]]).kinds ⊆
        noteKinds := by
  refine kinds_element_subset .div _ _ (by decide) (kindsOf_cons_subset ?_ ?_)
  · decide
  · exact kindsOf_cons_subset (kinds_explanation text) (List.nil_subset _)

/-- A confidence under its heading is made of the elements of rationales. -/
theorem kinds_confidence (confidence : UInt8) :
    (classed .div "why-block" [
      heading .target "icon-emerald" "Confidence Level", confidenceView confidence]).kinds ⊆
        noteKinds := by
  refine kinds_element_subset .div _ _ (by decide) (kindsOf_cons_subset ?_ ?_)
  · decide
  · refine kindsOf_cons_subset ?_ (List.nil_subset _)
    rw [kinds_confidenceView]
    decide

/-- A search that spares everything else in a rationale looks at its references alone. -/
theorem picked_references {sought : ElementKind → Bool}
    (spared : ∀ kind ∈ noteKinds, sought kind = false) (rationale : Section.Rationale) :
    (rationaleView rationale).picked (ofKind sought) =
      (referencesView rationale.references).picked (ofKind sought) := by
  unfold rationaleView
  split
  · rename_i nothing
    rw [(Section.Rationale.isEmpty_iff rationale).mp nothing]
    rfl
  · have head : (heading .lightbulb "" "Why this matters").picked (ofKind sought) = [] :=
      picked_made (by decide) spared
    have explanation :=
      picked_made (kinds_ofOption_subset _ rationale.explanation kinds_explanation) spared
    have impact := picked_made (kinds_ofOption_subset _ rationale.impact kinds_impact) spared
    have confidence :=
      picked_made (kinds_ofOption_subset _ rationale.confidence kinds_confidence) spared
    have title : (heading .link "" "References").picked (ofKind sought) = [] :=
      picked_made (by decide) spared
    have panel : sought (.of "div" [(.classes, "why-panel")]) = false :=
      spared _ (by decide)
    have block : sought (.of "div" [(.classes, "why-block")]) = false :=
      spared _ (by decide)
    rw [classed, picked_within _ _ _ panel]
    simp only [pickedOf, head, explanation, impact, confidence, List.nil_append, List.append_nil]
    unfold referencesView
    split
    · rfl
    · rw [classed, picked_within _ _ _ block]
      simp only [pickedOf, title, referenceList, List.nil_append, List.append_nil]

/-- The kinds of the elements of cards, apart from what stands below their headers. -/
def cardKinds : List ElementKind :=
  ["section-card", "section-card degraded-card", "section-card error-card"].map
      (fun classes => ⟨"section", [.id, .dataSectionKey, .dataKind, .classes], some classes⟩) ++
    ["section-body", "section-body collapsed"].map
      (fun classes => ⟨"div", [.dataSectionBody, .classes], some classes⟩) ++
    (classed .header "section-header" [
      toggleView (.ofBody "" (.text "")) true]).kinds ++
    kindsOf ([.info, .warning, .error, .success].map badge)

/-- The badge of a severity is made of the elements of cards. -/
theorem kinds_badge (severity : Severity) : (badge severity).kinds ⊆ cardKinds := by
  cases severity <;> decide

/-- The button that opens and closes a card is made of the elements of cards. -/
theorem kinds_toggleView (block : Section) (isOpen : Bool) :
    (toggleView block isOpen).kinds ⊆ cardKinds := by
  have sample : (toggleView (.ofBody "" (.text "")) true).kinds ⊆ cardKinds := by decide
  exact sample

/-- A search that spares the rest of a card looks at what stands below its header. -/
theorem picked_contents {sought : ElementKind → Bool}
    (spared : ∀ kind ∈ cardKinds, sought kind = false) (block : Section) (place : Nat)
    (isOpen : Bool) :
    (card block place isOpen).picked (ofKind sought) =
      pickedOf (ofKind sought) (contentPieces block) := by
  have whole : sought (.of "section" (cardAttributes block place)) = false := by
    apply spared
    have kind : ElementKind.of "section" (cardAttributes block place) =
        ⟨"section", [.id, .dataSectionKey, .dataKind, .classes], some (cardClass block)⟩ := by
      simp [ElementKind.of, cardAttributes, lookup_other]
    rw [kind, cardClass]
    split
    · decide
    · split <;> decide
  have content : sought (.of "div" (contentAttributes block isOpen)) = false := by
    apply spared
    have kind : ElementKind.of "div" (contentAttributes block isOpen) =
        ⟨"div", [.dataSectionBody, .classes], some (contentClass isOpen)⟩ := by
      simp [ElementKind.of, contentAttributes, lookup_other]
    rw [kind]
    cases isOpen <;> decide
  have header : (classed .header "section-header"
      [toggleView block isOpen, ofOption (block.severity.map badge)]).kinds ⊆ cardKinds := by
    refine kinds_element_subset .header _ _ (by decide) (kindsOf_cons_subset ?_ ?_)
    · exact kinds_toggleView block isOpen
    · apply kindsOf_cons_subset _ (List.nil_subset _)
      exact kinds_ofOption_subset badge block.severity kinds_badge
  rw [card_divided, picked_within _ _ _ whole, pickedOf, picked_made header spared,
    pickedOf, contentView, picked_within _ _ _ content]
  exact List.append_nil _

/-- The kinds of the elements of pages, apart from their cards. -/
def frameKinds : List ElementKind :=
  (page ⟨"", "a", .analysis, some "", some "", []⟩ .pristine).kinds ++ (badge .warning).kinds

/-- The head of a page is made of the elements that frame the cards. -/
theorem kinds_headView (title : String) : (headView title).kinds ⊆ frameKinds := by
  have sample : (headView "").kinds ⊆ frameKinds := by decide
  exact sample

/-- The title of a report is made of the elements that frame the cards. -/
theorem kinds_titleView (report : Report) : (titleView report).kinds ⊆ frameKinds := by
  unfold titleView
  refine kinds_element_subset .header _ _ (by decide) (kindsOf_cons_subset ?_ ?_)
  · have sample : (plain .h1 [Icon.code.decoration "22" "icon-title", .text ""]).kinds ⊆
        frameKinds := by decide
    exact sample
  · refine kindsOf_cons_subset ?_ (List.nil_subset _)
    cases report.mode <;> decide

/-- An introduction is made of the elements that frame the cards, also if it is blank. -/
theorem kinds_introductionView (introduction : String) :
    (introductionView introduction).kinds ⊆ frameKinds := by
  have sample : (introductionView "a").kinds ⊆ frameKinds := by decide
  unfold introductionView
  split
  · exact List.nil_subset _
  · exact sample

/-- A warning is made of the elements that frame the cards, if there is one. -/
theorem kinds_warningView (warning : Option String) :
    (warningView warning).kinds ⊆ frameKinds := by
  apply kinds_ofOption_subset
  intro message
  have sample : (warningView (some "")).kinds ⊆ frameKinds := by decide
  exact sample

/-- The footer of a page is made of the elements that frame the cards, with or without a model. -/
theorem kinds_footerView (model : Option String) : (footerView model).kinds ⊆ frameKinds := by
  have present : (footerView (some "")).kinds ⊆ frameKinds := by decide
  have absent : (footerView none).kinds ⊆ frameKinds := by decide
  cases model with
  | none => exact absent
  | some model => exact present

/-- A search that spares the rest of a page looks at its cards. -/
theorem picked_cardsOnly {sought : ElementKind → Bool}
    (spared : ∀ kind ∈ frameKinds, sought kind = false) (report : Report) (openness : Openness) :
    (page report openness).picked (ofKind sought) =
      pickedOf (ofKind sought) (cards report.sections openness) := by
  have html : sought (.of Tag.html.name []) = false := spared _ (by decide)
  have body : sought (.of Tag.body.name []) = false := spared _ (by decide)
  have main : sought (.of Tag.main.name
      [(.dataMode, report.mode.name), (.classes, "report-shell")]) = false := by
    apply spared
    have known : (⟨"main", [.dataMode, .classes], some "report-shell"⟩ : ElementKind) ∈
        frameKinds := by decide
    exact known
  have list : sought (.of Tag.div.name [(.classes, "section-list")]) = false :=
    spared _ (by decide)
  have script : (Markup.verbatim .script Script.text).picked (ofKind sought) = [] :=
    picked_made (by decide) spared
  have empty : (if report.sections.isEmpty then
      classed .p "muted empty-report" [.text "The analysis returned no sections."]
      else .marker).picked (ofKind sought) = [] := by
    split
    · exact picked_made (by decide) spared
    · rfl
  have sections : (sectionsView report openness).picked (ofKind sought) =
      pickedOf (ofKind sought) (cards report.sections openness) := by
    rw [sectionsView, classed, picked_within _ _ _ list, pickedOf_append, pickedOf_listed, pickedOf,
      empty]
    exact List.append_nil _
  rw [page, plain, plain, picked_within _ _ _ html]
  simp only [pickedOf, picked_made (kinds_headView report.title) spared, picked_within _ _ _ body,
    picked_within _ _ _ main, picked_made (kinds_titleView report) spared,
    picked_made (kinds_introductionView report.introduction) spared,
    picked_made (kinds_warningView report.warning) spared,
    picked_made (kinds_footerView report.model) spared, sections, script, List.nil_append,
    List.append_nil]

/-- A search that spares the rest of a page looks at what stands below the headers of its cards. -/
theorem picked_page_contents {sought : ElementKind → Bool}
    (spared : ∀ kind ∈ frameKinds ++ cardKinds, sought kind = false) (report : Report)
    (openness : Openness) :
    (page report openness).picked (ofKind sought) =
      report.sections.flatMap fun block => pickedOf (ofKind sought) (contentPieces block) := by
  obtain ⟨frame, cards⟩ := List.forall_mem_append.mp spared
  rw [picked_cardsOnly frame]
  exact pickedOf_cards _ (picked_contents cards) report.sections openness

end CodeReport.Page
