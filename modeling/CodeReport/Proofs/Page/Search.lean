import CodeReport.Proofs.Page.Sealed
import Mathlib.Data.List.Basic

/-!
# Searches through markup

The elements with wanted names and attributes are looked up in markup and in the
tree that is read back from it, and the two ways find the same ones in the same
order.

Two kinds of elements are looked for: those with a mark, which cards and notices
have, and those that hold content, which bodies have. The rest of a card is
neither. A search that spares such fittings finds nothing in them; that is shown
once for every component, whatever is looked for.
-/

namespace CodeReport.Page

/-- Names tell apart what is found by its name. -/
theorem eq_of_names {α : Type} (name : α → String) (all : List α)
    (found : ∀ item, all.find? (fun other => name other == name item) = some item)
    (left right : α) (same : name left = name right) : left = right := by
  have here := found left
  rw [same, found right] at here
  exact (Option.some.inj here).symm

namespace AttributeName

/-- All attributes. -/
def all : List AttributeName :=
  [ariaExpanded, ariaHidden, ariaLabel, charset, classes, colspan, content, d, dataCopy,
    dataExpected, dataKind, dataMode, dataSectionBody, dataSectionKey, dataSeverity, dataToggle,
    fill, height, href, httpEquiv, id, inlineStyle, name, rel, role, target, title, viewBox, width,
    x, xmlns, y]

/-- Attributes are told apart by their names. -/
theorem written_injective (left right : AttributeName) (same : left.written = right.written) :
    left = right := by
  refine eq_of_names written all ?_ left right same
  intro label
  cases label <;> decide

/-- The attributes by which cards and notices are found. -/
@[simp] def isMark : AttributeName → Bool
  | .id | .dataSectionKey | .dataKind | .dataToggle | .ariaExpanded | .dataSectionBody
  | .dataExpected => true
  | _ => false

end AttributeName

namespace Tag

/-- All tags. -/
def all : List Tag :=
  [a, body, button, code, details, div, footer, g, h1, h2, h4, head, header, html, li, main, ol, p,
    path, pre, rect, sectioning, span, strong, summary, svg, table, tbody, td, text, th, thead,
    title, tr, ul]

/-- Tags are told apart by their names. -/
theorem name_injective (left right : Tag) (same : left.name = right.name) : left = right := by
  refine eq_of_names name all ?_ left right same
  intro tag
  cases tag <;> decide

end Tag

/-- Whether no attribute is a mark. -/
@[simp] def Attributes.areUnmarked : Attributes → Bool
  | [] => true
  | (label, _) :: rest => !label.isMark && areUnmarked rest

namespace Markup

mutual
/-- The elements of markup whose names and attributes are wanted, in the order of their start
tags. -/
@[simp] def picked (wanted : String → Attributes → Bool) : Markup → List Markup
  | .text _ => []
  | .marker => []
  | .element tag attributes children =>
    (if wanted tag.name attributes then [.element tag attributes children] else []) ++
      pickedOf wanted children
  | .metadata attributes => if wanted "meta" attributes then [.metadata attributes] else []
  | .verbatim tag content => if wanted tag.name [] then [.verbatim tag content] else []

/-- The wanted elements of markup in a row. -/
@[simp] def pickedOf (wanted : String → Attributes → Bool) : List Markup → List Markup
  | [] => []
  | piece :: rest => picked wanted piece ++ pickedOf wanted rest
end

/-- A search in what is read that looks for what is wanted in what is written. -/
structure Seeks (sought : Node → Bool) (wanted : String → Attributes → Bool) : Prop where
  character : ∀ character, sought (.character character) = false
  element : ∀ name attributes children,
    sought (.element name (attributes.map writtenAttribute) children) = wanted name attributes

/-- Markup in two rows is read as the nodes of the first and then those of the second. -/
theorem nodesOf_append (first second : List Markup) :
    nodesOf (first ++ second) = nodesOf first ++ nodesOf second := by
  induction first with
  | nil => rfl
  | cons piece rest inductionHypothesis =>
    rw [List.cons_append, nodesOf, nodesOf, inductionHypothesis, List.append_assoc]

/-- A piece stands where it is wanted. -/
theorem nodesOf_single (isWanted : Bool) (piece : Markup) :
    nodesOf (if isWanted then [piece] else []) = if isWanted then piece.nodes else [] := by
  cases isWanted with
  | true => exact List.append_nil _
  | false => rfl

section Search

variable {sought : Node → Bool} {wanted : String → Attributes → Bool}

mutual
/-- The elements that are found in what is read are those that are wanted in what is written. -/
theorem filter_nodes (seeks : Seeks sought wanted) (piece : Markup) :
    (elementsOf piece.nodes).filter sought = nodesOf (piece.picked wanted) := by
  match piece with
  | .text content => simp [nodes, elementsOf_characterNodes, nodesOf]
  | .marker => rfl
  | .element tag attributes children =>
    have inner := filter_nodesOf seeks children
    simp only [nodes, elementsOf, Node.elements, List.append_nil, List.filter_cons,
      seeks.element, inner, picked, nodesOf_append, nodesOf_single]
    split
    · rfl
    · rfl
  | .metadata attributes =>
    simp only [nodes, elementsOf, Node.elements, List.append_nil, List.filter_cons,
      seeks.element, List.filter_nil, picked, nodesOf_single]
  | .verbatim tag content =>
    have bare := seeks.element tag.name [] (characterNodes content.toList)
    rw [List.map_nil] at bare
    simp only [nodes, elementsOf, Node.elements, elementsOf_characterNodes, List.append_nil,
      List.filter_cons, bare, List.filter_nil, picked, nodesOf_single]

/-- The same of markup in a row. -/
theorem filter_nodesOf (seeks : Seeks sought wanted) (pieces : List Markup) :
    (elementsOf (nodesOf pieces)).filter sought = nodesOf (pickedOf wanted pieces) := by
  match pieces with
  | [] => rfl
  | piece :: rest =>
    rw [nodesOf, elementsOf_append, List.filter_append, filter_nodes seeks piece,
      filter_nodesOf seeks rest, pickedOf, nodesOf_append]
end

end Search

section Pick

variable {wanted : String → Attributes → Bool}

/-- What is found in two rows of markup is found in the first and then in the second. -/
@[simp] theorem pickedOf_append (first second : List Markup) :
    pickedOf wanted (first ++ second) = pickedOf wanted first ++ pickedOf wanted second := by
  induction first with
  | nil => rfl
  | cons piece rest inductionHypothesis =>
    rw [List.cons_append, pickedOf, pickedOf, inductionHypothesis, List.append_assoc]

/-- What is found in views of items is found in one view after the other. -/
theorem pickedOf_map {α : Type} (view : α → Markup) (items : List α) :
    pickedOf wanted (items.map view) = items.flatMap fun item => (view item).picked wanted := by
  induction items with
  | nil => rfl
  | cons item rest inductionHypothesis =>
    rw [List.map_cons, pickedOf, inductionHypothesis, List.flatMap_cons]

/-- Nothing is found in views of items if nothing is found in any of them. -/
theorem pickedOf_map_nil {α : Type} (view : α → Markup) (items : List α)
    (each : ∀ item, (view item).picked wanted = []) : pickedOf wanted (items.map view) = [] := by
  simp [pickedOf_map, each]

/-- Nothing is found in a view of something that may be absent if no view of it has any. -/
theorem picked_ofOption {α : Type} (view : α → Markup) (item : Option α)
    (each : ∀ present, (view present).picked wanted = []) :
    (ofOption (item.map view)).picked wanted = [] := by
  cases item with
  | none => rfl
  | some present => exact each present

/-- What is found in cards is found section by section, if neither places nor openness matter. -/
theorem pickedOf_cards (found : Section → List Markup)
    (each : ∀ block place isOpen, (card block place isOpen).picked wanted = found block)
    (sections : List Section) (openness : Openness) :
    pickedOf wanted (cards sections openness) = sections.flatMap found := by
  conv_rhs => rw [← List.zipIdx_map_fst 0 sections, List.flatMap_map]
  rw [cards, pickedOf_map]
  exact congrArg (List.flatMap · _) (funext fun ⟨block, place⟩ => each block place _)

/-- The marker behind a list is not found. -/
@[simp] theorem pickedOf_listed (pieces : List Markup) :
    pickedOf wanted (listed pieces) = pickedOf wanted pieces := by
  simp [listed]

end Pick

end Markup

open Markup

/-- Whether an attribute copies a text. -/
@[simp] def AttributeName.isCopy : AttributeName → Bool
  | .dataCopy => true
  | _ => false

/-- Whether an element of a tag holds a table or a part of one, code or items. References are listed
too, but are no content. -/
@[simp] def Tag.holdsContent : Tag → Attributes → Bool
  | .code, _ | .ol, _ | .table, _ | .tbody, _ | .td, _ | .th, _ | .thead, _ | .tr, _ => true
  | .ul, attributes => attributes != [(.classes, "reference-list")]
  | _, _ => false

/-- Whether an element holds the content of a body or copies it. -/
@[simp] def holdsContent (tag : Tag) (attributes : Attributes) : Bool :=
  tag.holdsContent attributes || attributes.any fun pair => pair.1.isCopy

/-- Whether an element has neither a mark nor content. -/
@[simp] def isFitting (tag : Tag) (attributes : Attributes) : Bool :=
  attributes.areUnmarked && !holdsContent tag attributes

/-- A search that spares fittings. -/
structure Search where
  wanted : String → Attributes → Bool
  spared : ∀ tag attributes, isFitting tag attributes = true → wanted tag.name attributes = false

attribute [simp] Search.spared

section Fittings

variable {search : Search}

/-- A fitting that has only classes is passed over for what it holds. -/
@[simp] theorem picked_classed_fitting (tag : Tag) (classes : String) (children : List Markup)
    (fitting : isFitting tag [(.classes, classes)] = true) :
    (classed tag classes children).picked search.wanted = pickedOf search.wanted children := by
  simp only [classed, picked, search.spared _ _ fitting]
  rfl

/-- A fitting without attributes is passed over for what it holds. -/
@[simp] theorem picked_plain_fitting (tag : Tag) (children : List Markup)
    (fitting : isFitting tag [] = true) :
    (plain tag children).picked search.wanted = pickedOf search.wanted children := by
  simp only [plain, picked, search.spared _ _ fitting]
  rfl

/-- Icons consist of fittings. -/
@[simp] theorem picked_icon (icon : Icon) (size classes : String) (label : Option String) :
    (icon.markup size classes label).picked search.wanted = [] := by
  cases label with
  | none => simp [Icon.markup]
  | some label => simp [Icon.markup]

/-- Icons that decorate consist of fittings. -/
@[simp] theorem picked_decoration (icon : Icon) (size classes : String) :
    (icon.decoration size classes).picked search.wanted = [] := by
  simp [Icon.decoration]

/-- Small icons consist of fittings. -/
@[simp] theorem picked_small (icon : Icon) (colour : String) :
    (icon.small colour).picked search.wanted = [] := by
  simp [Icon.small]

/-- Charts consist of fittings. -/
@[simp] theorem picked_chart (bars : List ScoreBar) :
    (Chart.view bars).picked search.wanted = [] := by
  unfold Chart.view
  split
  · simp [nothing]
  · simp [pickedOf_map_nil, Chart.row]

/-- Badges consist of fittings. -/
@[simp] theorem picked_badge (severity : Severity) :
    (badge severity).picked search.wanted = [] := by
  simp [badge]

/-- Steps consist of fittings, though they are numbered. -/
@[simp] theorem picked_stepsView (steps : List String) :
    (stepsView steps).picked search.wanted = [] := by
  unfold stepsView
  split
  · simp [nothing]
  · simp [pickedOf_map_nil]

/-- References consist of fittings, and links are among them. -/
@[simp] theorem picked_referenceView (reference : String) :
    (referenceView reference).picked search.wanted = [] := by
  unfold referenceView
  split <;> simp

/-- Confidences consist of fittings. -/
@[simp] theorem picked_confidenceView (confidence : UInt8) :
    (confidenceView confidence).picked search.wanted = [] := by
  simp [confidenceView]

/-- Headings consist of fittings. -/
@[simp] theorem picked_heading (icon : Icon) (colour title : String) :
    (heading icon colour title).picked search.wanted = [] := by
  simp [heading]

/-- Rationales consist of fittings. -/
@[simp] theorem picked_rationaleView (rationale : Section.Rationale) :
    (rationaleView rationale).picked search.wanted = [] := by
  have references : pickedOf search.wanted (rationale.references.map referenceView) = [] :=
    pickedOf_map_nil _ _ (by simp)
  unfold rationaleView
  split
  · simp [nothing]
  · cases rationale.references.isEmpty <;> simp [picked_ofOption, references]

end Fittings

end CodeReport.Page
