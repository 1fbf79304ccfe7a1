import CodeReport.Proofs.Page.Marked
import CodeReport.Proofs.Page.Parts

/-!
# Embedded cards are those of the page

Cards are written into a page of their own or alone, to be put into another page.
Both ways write the same list of cards, up to the end tag of the list: the page puts
one more piece before it, which says that there are no sections or is a marker. What
stands before the list ends with the warning, or with the marker for none.

When both are read back, everything that a card is found by is found in both alike.
-/

namespace CodeReport.Page

open Markup

/-- What a page shows before its warning. -/
def beforeWarning (report : Report) : String :=
  documentFront report ++
    ("<main" ++ writeAttributes [(.dataMode, report.mode.name), (.classes, "report-shell")] ++ ">") ++
    (titleView report).write ++ (introductionView report.introduction).write

/-- What a page shows behind its cards and the marker that ends them. -/
def behindCards (report : Report) : String :=
  (if report.sections.isEmpty then
    classed .p "muted empty-report" [.text "The analysis returned no sections."]
  else .marker).write ++ "</div>" ++ mainBack report ++ documentBack

/-- The list of cards without its end tag. -/
def openList (sections : List Section) (openness : Openness) : String :=
  listFront ++ String.join (cardTexts sections openness) ++ "<!>"

/-- A warning is written apart from the introduction, whether there is one or not. -/
theorem mainFront_warning (report : Report) :
    documentFront report ++ mainFront report =
      beforeWarning report ++ (warningView report.warning).write := by
  have solid : (warningView report.warning).isText = false := by
    cases report.warning with
    | none => rfl
    | some message => rfl
  have title : (titleView report).isText = false := rfl
  simp [mainFront, beforeWarning, writeAll, solid, title, String.append_assoc]

/-- Behind the cards of a page comes the marker that ends them, as it does behind cards alone. -/
theorem listBack_marker (report : Report) :
    listBack report.sections ++ mainBack report ++ documentBack = "<!>" ++ behindCards report := by
  simp [listBack, behindCards, writeAll, write, isText, String.append_assoc]

/-- Cards alone are their list with its end tag. -/
theorem fragment_openList (sections : List Section) (openness : Openness) :
    fragment sections openness = openList sections openness ++ "</div>" := by
  rw [write_fragment, openList]
  simp only [String.append_assoc]
  rfl

/-- A page holds the list of its cards directly behind its warning. -/
theorem document_openList (report : Report) (openness : Openness) :
    document report openness =
      beforeWarning report ++ (warningView report.warning).write ++
        openList report.sections openness ++ behindCards report := by
  have front := mainFront_warning report
  have back := listBack_marker report
  rw [document_around, write_mainView, write_sectionsView, ← front, openList]
  simp only [String.append_assoc] at back ⊢
  rw [back]

/-- Cards alone can be read. -/
theorem readPage?_fragment (sections : List Section) (openness : Openness) :
    readPage? (fragment sections openness) =
      some (classed .div "section-list" (listed (cards sections openness))).nodes := by
  refine readPage?_write _ ?_
  intro tag content member
  simp at member

/-- In cards alone a mark leads to what it leads to in the cards. -/
theorem marked_fragment (label : AttributeName) (mark : label.isMark = true)
    (sections : List Section) (openness : Openness) :
    marked label.written (classed .div "section-list" (listed (cards sections openness))).nodes =
      nodesOf (pickedOf (bears label) (cards sections openness)) := by
  have found := filter_nodes (seeks_carries label)
    (classed .div "section-list" (listed (cards sections openness)))
  have within : (classed .div "section-list" (listed (cards sections openness))).picked
      (MarkSearch.ofMark label mark).wanted =
        pickedOf (MarkSearch.ofMark label mark).wanted (cards sections openness) := by
    rw [picked_classed, pickedOf_listed]
  exact found.trans (congrArg nodesOf within)

/-- In a page a mark leads to what it leads to in the cards. -/
theorem marked_page (label : AttributeName) (mark : label.isMark = true) (report : Report)
    (openness : Openness) :
    marked label.written (.character '\n' :: (page report openness).nodes) =
      nodesOf (pickedOf (bears label) (cards report.sections openness)) := by
  have found := filter_nodes (seeks_carries label) (page report openness)
  have within := @picked_page (.ofMark label mark) report openness
  exact found.trans (congrArg nodesOf within)

/-- Cards that are written alone are written into the page of their report as they are, directly
behind its warning or the marker for none; only the end tag of their list stands further behind, as
the page has one more piece in the list. This holds for every list of sections, also for the empty
one. When both are read back, the anchors, keys, flags and notices of the cards are the same. -/
theorem cards_embedded (report : Report) (openness : Openness) :
    (∃ piece,
      piece = "<div class=\"section-list\">" ++
        String.join (report.sections.zipIdx.map fun (block, place) =>
          (card block place (openness.isOpen block.key)).write) ++ "<!>" ∧
      fragment report.sections openness = piece ++ "</div>" ∧
      document report openness =
        beforeWarning report ++ (warningView report.warning).write ++ piece ++
          behindCards report) ∧
    ∃ alone whole,
      readPage? (fragment report.sections openness) = some alone ∧
      readPage? (document report openness) = some whole ∧
      ∀ label : AttributeName, label.isMark = true →
        marked label.written alone = marked label.written whole := by
  constructor
  · refine ⟨openList report.sections openness, ?_, ?_, document_openList report openness⟩
    · rw [openList, cardTexts, cards, List.map_map]
      rfl
    · exact fragment_openList report.sections openness
  · refine ⟨_, _, readPage?_fragment report.sections openness,
      readPage?_document report openness, ?_⟩
    intro label mark
    rw [marked_fragment label mark, marked_page label mark]

end CodeReport.Page
