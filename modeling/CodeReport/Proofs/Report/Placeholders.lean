import CodeReport.Proofs.Console.Colour
import CodeReport.Proofs.Page.Content
import CodeReport.Proofs.Page.Marked
import CodeReport.Proofs.Text.Blank

/-!
# Placeholders

What cannot be shown and what has nothing to show is replaced: by a notice, by the
line that nothing is reported, or, below the headers of a table, by the line that
there are no data. The console and a page decide each of these on their own, and
here they are shown to decide alike for every body. Whether a placeholder is shown
is a condition on the body, and both are compared with it.

A text may repeat the wording of a placeholder. The lines on the console are
therefore accounted for one by one, and the account, when it is written, is what is
printed. On a page the elements tell texts and placeholders apart.
-/

namespace CodeReport

open Section (Body Notice)

namespace Section

/-- The name of a kind holds no space, so it is read off what begins with it. -/
theorem Kind.eq_of_name_append (expected other : Kind) (rest otherRest : List Char)
    (same : expected.name.toList ++ ' ' :: rest = other.name.toList ++ ' ' :: otherRest) :
    expected = other ∧ rest = otherRest := by
  cases expected <;> cases other <;> simp_all [Kind.name]

namespace Body

/-- A body without content: a text that is blank all through, or a list without items. -/
inductive IsBare : Body → Prop where
  | text (content : String) (blank : ∀ c ∈ content.toList, Text.isBlank c = true) :
    IsBare (.text content)
  | list (kind : ListKind) : IsBare (.list kind [])

/-- A table without rows that has these headers and no defect. -/
def IsRowless (headers : List String) (body : Body) : Prop :=
  body = .table headers [] ∧ body.defect? = none

/-- A bare body is one of two, and a text among them is blank as a whole. -/
theorem isBare_iff (body : Body) :
    body.IsBare ↔
      (∃ content, body = .text content ∧ Text.isBlankText content = true) ∨
        ∃ kind, body = .list kind [] := by
  constructor
  · rintro (⟨content, blank⟩ | ⟨kind⟩)
    · exact .inl ⟨content, rfl, (Text.isBlankText_iff content).mpr blank⟩
    · exact .inr ⟨kind, rfl⟩
  · rintro (⟨content, rfl, blank⟩ | ⟨kind, rfl⟩)
    · exact .text content ((Text.isBlankText_iff content).mp blank)
    · exact .list kind

end Body

end Section

namespace Console

/-- The line of a notice is the name of its kind and its reason, in a frame. -/
theorem noticeLine_framed (colour : Bool) :
    ∃ front between : List Char, ∀ shown : Notice,
      (noticeLine colour shown).toList =
        front ++ (shown.expected.name.toList ++ ' ' :: (between ++ shown.reason.toList)) := by
  have wording (kind : Section.Kind) :
      s!"Could not display this {kind.name} section:".toList =
        "Could not display this ".toList ++ (kind.name.toList ++ ' ' :: "section:".toList) := by
    rw [String.toList_append, String.toList_append, List.append_assoc]
    rfl
  cases colour with
  | false =>
    refine ⟨"Could not display this ".toList, "section: ".toList, ?_⟩
    intro shown
    rw [noticeLine, notShown, String.toList_append, String.toList_append]
    simp [paint, wording]
  | true =>
    refine ⟨Style.yellow.start ++ "Could not display this ".toList,
      "section:".toList ++ Style.reset ++ [' '], ?_⟩
    intro shown
    have plain : '\x1b' ∉ s!"Could not display this {shown.expected.name} section:".toList := by
      rw [wording]
      cases shown.expected <;> decide
    rw [noticeLine, notShown, paint, if_pos rfl, restart_plain _ _ plain, wording]
    simp

/-- The line of a notice tells which kind was expected, and the reason. -/
theorem noticeLine_injective (colour : Bool) : Function.Injective (noticeLine colour) := by
  obtain ⟨front, between, framed⟩ := noticeLine_framed colour
  rintro ⟨expected, reason⟩ ⟨otherExpected, otherReason⟩ same
  have texts := congrArg String.toList same
  rw [framed, framed] at texts
  obtain ⟨kinds, rests⟩ :=
    Section.Kind.eq_of_name_append _ _ _ _ (List.append_cancel_left texts)
  obtain rfl : expected = otherExpected := kinds
  obtain rfl : reason = otherReason := String.toList_injective (List.append_cancel_left rests)
  rfl

/-- That nothing is reported is printed exactly for a bare body. -/
theorem nothingReported_mem_account_iff (colour : Bool) (body : Body) :
    .nothingReported ∈ account colour body ↔ body.IsBare := by
  rw [Body.isBare_iff]
  unfold account
  cases body with
  | table headers rows => cases (Body.table headers rows).defect? <;> simp
  | _ => simp [Body.defect?]

/-- That there are no data is printed exactly for a table without rows. -/
theorem noData_mem_account_iff (colour : Bool) (body : Body) :
    .noData ∈ account colour body ↔ ∃ headers, body.IsRowless headers := by
  unfold account Body.IsRowless
  cases body with
  | table headers rows => cases (Body.table headers rows).defect? <;> simp
  | _ => simp [Body.defect?]

end Console

namespace Page

open Markup

/-- The view of a notice tells which kind was expected, and the reason. -/
theorem noticeView_injective : Function.Injective noticeView := by
  rintro ⟨expected, reason⟩ ⟨otherExpected, otherReason⟩ same
  simp only [noticeView, notice, classed, plain, element.injEq, List.cons.injEq, Prod.mk.injEq,
    text.injEq, true_and, and_true] at same
  obtain ⟨named, -, rfl⟩ := same
  obtain ⟨rfl, -⟩ := Section.Kind.eq_of_name_append expected otherExpected [] [] (by rw [named])
  rfl

/-- A page shows a notice exactly for a body that has it. -/
theorem bodyView_eq_noticeView_iff (body : Body) (shown : Notice) :
    bodyView body = noticeView shown ↔ body.notice? = some shown := by
  have view := bodyView_notice body
  cases noticed : body.notice? with
  | some other =>
    simp only [noticed] at view
    rw [view]
    constructor
    · intro same
      rw [noticeView_injective same]
    · intro same
      rw [Option.some.inj same]
  | none =>
    simp only [noticed] at view
    rw [view]
    constructor
    · intro same
      -- The view of a notice has a mark, and what is shown as it is has none.
      have unmarked : (shownView body).picked noticeSearch.wanted = [] := picked_shownView body
      rw [same, picked_noticeView] at unmarked
      cases unmarked
    · intro absent
      cases absent

/-- Nothing is reported of a text exactly if it is blank as a whole, though the page looks at its
paragraphs only. -/
theorem textView_eq_nothingReported_iff (content : String) :
    textView content = nothingReported ↔ Text.isBlankText content = true := by
  rw [← Text.paragraphs_eq_nil_iff]
  cases divided : Text.paragraphs content with
  | nil => simp [textView, divided]
  | cons first rest => simp [textView, divided, classed, nothingReported]

/-- Nothing is reported of a list exactly if it has no items. -/
theorem listView_eq_nothingReported_iff (kind : ListKind) (items : List String) :
    listView kind items = nothingReported ↔ items = [] := by
  cases items with
  | nil => simp [listView]
  | cons first rest => cases kind <;> simp [listView, classed, nothingReported]

/-- A page shows that nothing is reported exactly for a bare body. -/
theorem bodyView_eq_nothingReported_iff (body : Body) :
    bodyView body = nothingReported ↔ body.IsBare := by
  rw [Body.isBare_iff]
  cases body with
  | text content =>
    have view : bodyView (.text content) = textView content := rfl
    simp [view, textView_eq_nothingReported_iff]
  | list kind items =>
    have view : bodyView (.list kind items) = listView kind items := rfl
    simp [view, listView_eq_nothingReported_iff]
  | table headers rows =>
    unfold bodyView
    split <;> simp [tableView, notice, classed, nothingReported]
  | code language content => simp [bodyView, Body.defect?, codeView, classed, nothingReported]
  | degraded expected reason => simp [bodyView, Body.defect?, notice, classed, nothingReported]

/-- The cell in the place of rows, across all columns. -/
def emptyCell (width : Nat) : Markup :=
  .element .td [(.colspan, toString width), (.classes, "muted")] [.text "No data."]

/-- The search for cells across columns. -/
def spans : ContentSearch :=
  .ofWanted (fun name attributes => name == "td" && bears .colspan name attributes) <| by
    intro tag attributes plain
    cases tag
    case td => cases plain
    all_goals rfl

/-- What is no cell is not found. -/
@[simp] theorem spans_other (tag : Tag) (attributes : Attributes) (other : tag ≠ .td) :
    spans.wanted tag.name attributes = false := by
  have unnamed : (tag.name == "td") = false := by
    refine beq_false_of_ne ?_
    intro same
    exact other (Tag.name_injective tag .td same)
  show (tag.name == "td" && bears .colspan tag.name attributes) = false
  rw [unnamed, Bool.false_and]

/-- A cell is found by its attribute. -/
@[simp] theorem spans_td (attributes : Attributes) :
    spans.wanted Tag.td.name attributes = bears .colspan "td" attributes :=
  rfl

/-- A list has no cell, so none across columns. -/
theorem picked_listView_spans (kind : ListKind) (items : List String) :
    (listView kind items).picked spans.wanted = [] := by
  cases empty : items.isEmpty with
  | true => simp [listView, empty, nothingReported]
  | false =>
    have other : listTag kind ≠ .td := by cases kind <;> decide
    simp [picked_listView_content, empty, other]

/-- In a table one cell stands across the columns if there are no rows, else none. -/
theorem picked_tableView_spans (headers : List String) (rows : List (List String)) :
    (tableView headers rows).picked spans.wanted =
      if rows.isEmpty then [emptyCell headers.length] else [] := by
  cases empty : rows.isEmpty with
  | false =>
    rw [picked_tableView_content spans headers rows empty (by simp)]
    simp [bears]
  | true =>
    have rowless : rows = [] := List.isEmpty_iff.mp empty
    have titles : pickedOf spans.wanted (cells .th headers) = [] := by
      simp [picked_cells_content]
    have across : (emptyRow headers.length).picked spans.wanted = [emptyCell headers.length] := by
      simp [emptyRow, emptyCell, plain, bears]
    simp [tableView, classed, plain, rowless, titles, across]

/-- A page shows that there are no data exactly for a table without rows. -/
theorem mem_picked_spans_iff (body : Body) (cell : Markup) :
    cell ∈ (bodyView body).picked spans.wanted ↔
      ∃ headers, body.IsRowless headers ∧ cell = emptyCell headers.length := by
  unfold Body.IsRowless
  cases body with
  | text content =>
    have view : bodyView (.text content) = textView content := rfl
    simp [view]
  | list kind items =>
    have view : bodyView (.list kind items) = listView kind items := rfl
    simp [view, picked_listView_spans]
  | table headers rows =>
    cases fault : (Body.table headers rows).defect? with
    | some defect => simp [bodyView, fault, notice]
    | none =>
      have view : bodyView (.table headers rows) = tableView headers rows := by
        rw [bodyView, fault]
      rw [view, picked_tableView_spans]
      cases rows with
      | nil => simp
      | cons row rest => simp
  | code language content =>
    have view : bodyView (.code language content) = codeView language content := rfl
    have button (attributes : Attributes) : spans.wanted "button" attributes = false :=
      spans_other .button attributes (by decide)
    have code : spans.wanted "code" [] = false := spans_other .code [] (by decide)
    simp [view, picked_codeView_content, button, code]
  | degraded expected reason => simp [bodyView, Body.defect?, notice]

end Page

open Console Page

end CodeReport
