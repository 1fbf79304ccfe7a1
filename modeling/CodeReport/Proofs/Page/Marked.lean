import CodeReport.Proofs.Page.Search
import CodeReport.Proofs.Report.Notices

/-!
# Marked elements of a page

Cards and notices are found by attributes that nothing else in a page has: the
marks. A search that only marks can meet finds nothing in the components that
have none. What is left are the cards and the notices.
-/

namespace CodeReport.Page

/-- Whether an element that is read has an attribute. -/
def Node.carries (label : String) : Node → Bool
  | .character _ => false
  | .element _ attributes _ => attributes.any fun pair => pair.1 == label

/-- The elements with an attribute, in the order of their start tags. -/
def marked (label : String) (nodes : List Node) : List Node :=
  (elementsOf nodes).filter (Node.carries label)

namespace Markup

/-- Whether an attribute is among those of an element, whatever its name. -/
def bears (label : AttributeName) (_ : String) (attributes : Attributes) : Bool :=
  attributes.any fun pair => pair.1 == label

/-- An attribute that is read is the one that is written. -/
theorem seeks_carries (label : AttributeName) :
    Seeks (Node.carries label.written) (bears label) where
  character _ := rfl
  element := by
    intro name attributes children
    have same (pair : AttributeName × String) :
        ((writtenAttribute pair).1 == label.written) = (pair.1 == label) := by
      rw [Bool.eq_iff_iff, beq_iff_eq, beq_iff_eq]
      refine ⟨AttributeName.written_injective _ _, ?_⟩
      rintro rfl
      rfl
    rw [Node.carries, bears, List.any_map]
    exact congrArg (List.any attributes) (funext same)

end Markup

open Markup

/-- A search that only marks can meet. -/
structure MarkSearch extends Search where
  unmarked : ∀ name (attributes : Attributes), attributes.areUnmarked = true →
    wanted name attributes = false

namespace MarkSearch

attribute [simp] unmarked

/-- An element without attributes has no mark. -/
@[simp] theorem wanted_bare (search : MarkSearch) (name : String) : search.wanted name [] = false :=
  search.unmarked name [] rfl

/-- An element without marks is not found by any of them. -/
theorem bears_unmarked (label : AttributeName) (mark : label.isMark = true) (name : String)
    (attributes : Attributes) (unmarked : attributes.areUnmarked = true) :
    bears label name attributes = false := by
  induction attributes with
  | nil => rfl
  | cons pair rest inductionHypothesis =>
    rw [Attributes.areUnmarked, Bool.and_eq_true, Bool.not_eq_true'] at unmarked
    have differs : pair.1 ≠ label := by
      rintro rfl
      rw [mark] at unmarked
      cases unmarked.1
    rw [bears, List.any_cons, beq_false_of_ne differs, Bool.false_or]
    exact inductionHypothesis unmarked.2

/-- The search for the elements that have a mark. -/
def ofMark (label : AttributeName) (mark : label.isMark = true) : MarkSearch where
  wanted := bears label
  spared tag attributes fitting :=
    bears_unmarked label mark tag.name attributes (Bool.and_eq_true_iff.mp fitting).1
  unmarked := bears_unmarked label mark

end MarkSearch

section Components

variable {search : MarkSearch}

/-- An element that has only classes is passed over for what it holds. -/
@[simp] theorem picked_classed (tag : Tag) (classes : String) (children : List Markup) :
    (classed tag classes children).picked search.wanted = pickedOf search.wanted children := by
  simp [classed]

/-- An element without attributes is passed over for what it holds. -/
@[simp] theorem picked_plain (tag : Tag) (children : List Markup) :
    (plain tag children).picked search.wanted = pickedOf search.wanted children := by
  simp [plain]

/-- The placeholder of an empty body has no mark. -/
@[simp] theorem picked_nothingReported : nothingReported.picked search.wanted = [] := by
  simp [nothingReported]

/-- Paragraphs have no mark. -/
@[simp] theorem picked_textView (content : String) :
    (textView content).picked search.wanted = [] := by
  unfold textView
  split
  · simp
  · simp only [picked_classed, pickedOf_listed]
    exact pickedOf_map_nil _ _ (by simp)

/-- Lists of items have no mark. -/
@[simp] theorem picked_listView (kind : ListKind) (items : List String) :
    (listView kind items).picked search.wanted = [] := by
  have entries : pickedOf search.wanted (items.map fun item => plain .li [.text item]) = [] :=
    pickedOf_map_nil _ items (by simp)
  unfold listView
  split
  · simp
  · cases kind <;> simpa using entries

/-- The cells of a row have no mark. -/
@[simp] theorem picked_cells (tag : Tag) (texts : List String) :
    pickedOf search.wanted (cells tag texts) = [] := by
  rw [cells, pickedOf_listed]
  exact pickedOf_map_nil _ texts (by simp)

/-- Tables have no mark, with or without rows. -/
@[simp] theorem picked_tableView (headers : List String) (rows : List (List String)) :
    (tableView headers rows).picked search.wanted = [] := by
  have lines : pickedOf search.wanted (rows.map fun row => plain .tr (cells .td row)) = [] :=
    pickedOf_map_nil _ rows (by simp)
  unfold tableView
  cases rows.isEmpty <;> simp [lines, emptyRow]

/-- Code has no mark, and what its button copies is none. -/
@[simp] theorem picked_codeView (language : Option String) (content : String) :
    (codeView language content).picked search.wanted = [] := by
  simp [codeView]

/-- Bodies that are shown as what they are have no marks. -/
@[simp] theorem picked_shownView (body : Section.Body) :
    (shownView body).picked search.wanted = [] := by
  cases body <;> simp [shownView, nothing]

/-- Introductions have no mark. -/
@[simp] theorem picked_introductionView (introduction : String) :
    (introductionView introduction).picked search.wanted = [] := by
  unfold introductionView
  split <;> simp [nothing]

/-- Warnings have no mark. -/
@[simp] theorem picked_warningView (warning : Option String) :
    (warningView warning).picked search.wanted = [] :=
  picked_ofOption _ warning (by simp )

/-- Titles of reports have no mark. -/
@[simp] theorem picked_titleView (report : Report) :
    (titleView report).picked search.wanted = [] := by
  simp [titleView]

/-- Footers have no mark. -/
@[simp] theorem picked_footerView (model : Option String) :
    (footerView model).picked search.wanted = [] := by
  simp [footerView, picked_ofOption]

/-- Heads of pages have no mark. -/
@[simp] theorem picked_headView (title : String) : (headView title).picked search.wanted = [] := by
  simp [headView]

/-- All marks of a page are those of its cards. -/
theorem picked_page (report : Report) (openness : Openness) :
    (page report openness).picked search.wanted =
      pickedOf search.wanted (cards report.sections openness) := by
  cases empty : report.sections.isEmpty <;>
    simp [page, sectionsView, empty]

end Components

section Notices

/-- The search for notices. -/
def noticeSearch : MarkSearch :=
  .ofMark .dataExpected rfl

/-- Notices are found by the kind that they say was expected. -/
theorem noticeSearch_wanted (name : String) (attributes : Attributes) :
    noticeSearch.wanted name attributes = bears .dataExpected name attributes :=
  rfl

/-- A notice is found, and nothing else in it. -/
theorem picked_noticeView (shown : Section.Notice) :
    (noticeView shown).picked noticeSearch.wanted = [noticeView shown] := by
  simp [noticeView, notice, noticeSearch_wanted, bears]

/-- In the view of a body its notice is found, if it has one. -/
theorem picked_bodyView (body : Section.Body) :
    (bodyView body).picked noticeSearch.wanted = (body.notice?.map noticeView).toList := by
  rw [bodyView_notice]
  cases body.notice? with
  | some shown => exact picked_noticeView shown
  | none => exact picked_shownView body

/-- In a card the notice of its body is found, be the card open or not. -/
theorem picked_card (block : Section) (index : Nat) (isOpen : Bool) :
    (card block index isOpen).picked noticeSearch.wanted =
      (block.body.notice?.map noticeView).toList := by
  simp [card, noticeSearch_wanted, bears, picked_ofOption, picked_bodyView]

/-- In cards the notices are found in the order of their sections. -/
theorem picked_cards (sections : List Section) (openness : Openness) :
    pickedOf noticeSearch.wanted (cards sections openness) =
      (sections.filterMap fun block => block.body.notice?).map noticeView := by
  rw [pickedOf_cards _ picked_card, List.map_filterMap, List.filterMap_eq_flatMap_toList]

/-- The notices of a page that is read back are those of the sections that are not shown, in the
order of the sections, whatever the texts of the report repeat. -/
theorem notices_document (report : Report) (openness : Openness) :
    ∃ nodes, readPage? (document report openness) = some nodes ∧
      (elementsOf nodes).filter (Node.carries "data-expected") =
        nodesOf ((report.sections.filterMap fun block => block.body.notice?).map noticeView) := by
  refine ⟨_, readPage?_document report openness, ?_⟩
  have found := filter_nodes (seeks_carries .dataExpected) (page report openness)
  have written : (page report openness).picked noticeSearch.wanted =
      (report.sections.filterMap fun block => block.body.notice?).map noticeView := by
    rw [picked_page, picked_cards]
  rw [← written]
  exact found

end Notices

end CodeReport.Page
