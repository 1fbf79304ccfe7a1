import CodeReport.Proofs.Console.Blocks
import CodeReport.Proofs.Keys.Distinct
import CodeReport.Proofs.Page.Parts
import Mathlib.Data.List.Nodup

/-!
# Sections are shown apart from each other

Three views look at what is open: the console, a page, and the cards alone. Each
of them is one part for each section, in order, between two texts that are the
same for every openness. A part sees its own section and whether that section is
open, and nothing else.

A flag is kept under a key, so a section is alone with its flag only if no other
section has its key. That holds of reports that are made from answers. In a report
that was written by hand, sections with the same key open and close together.
-/

namespace CodeReport

/-- The views of a report that look at what is open. -/
inductive View where
  | console (colour : Bool)
  | page
  | cards
  deriving Repr, DecidableEq

namespace View

/-- A report as a view shows it. -/
def text : View → Report → Openness → String
  | .console colour => Console.report colour
  | .page => Page.document
  | .cards => fun report => Page.fragment report.sections

/-- What a view shows of the section at a place, counted from 0. -/
def part : View → Section → (place : Nat) → (isOpen : Bool) → String
  | .console colour, block, _, isOpen => Console.block colour block isOpen
  | .page, block, place, isOpen => (Page.card block place isOpen).write
  | .cards, block, place, isOpen => (Page.card block place isOpen).write

/-- What a view shows before the parts of the sections. -/
def front : View → Report → String
  | .console colour, report => Console.head colour report
  | .page, report => Page.documentFront report ++ Page.mainFront report ++ Page.listFront
  | .cards, _ => Page.listFront

/-- What a view shows behind the parts of the sections. -/
def back : View → Report → String
  | .console colour, report => Console.tail colour report
  | .page, report => Page.listBack report.sections ++ Page.mainBack report ++ Page.documentBack
  | .cards, _ => "<!></div>"

/-- The parts of sections from a place on, in order. -/
def partsFrom (view : View) (place : Nat) (sections : List Section) (openness : Openness) :
    List String :=
  (sections.zipIdx place).map fun numbered =>
    view.part numbered.1 numbered.2 (openness.isOpen numbered.1.key)

/-- The parts of all sections, in order. -/
def parts (view : View) (sections : List Section) (openness : Openness) : List String :=
  view.partsFrom 0 sections openness

/-- The console numbers no sections. -/
theorem parts_console (colour : Bool) (sections : List Section) (openness : Openness) :
    (View.console colour).parts sections openness =
      sections.map fun block => Console.block colour block (openness.isOpen block.key) := by
  have unnumbered := List.zipIdx_map_fst 0 sections
  calc (View.console colour).parts sections openness
      = (sections.zipIdx.map Prod.fst).map fun block =>
          Console.block colour block (openness.isOpen block.key) := by
        rw [List.map_map]
        rfl
    _ = _ := by rw [unnumbered]

/-- A page and the cards alone write the same cards. -/
theorem parts_cards (sections : List Section) (openness : Openness) :
    Page.cardTexts sections openness = View.cards.parts sections openness := by
  rw [Page.cardTexts, Page.cards, List.map_map]
  rfl

/-- Every view is the parts of the sections between two texts that do not look at what is open. -/
theorem text_divided (view : View) (report : Report) (openness : Openness) :
    view.text report openness =
      view.front report ++ String.join (view.parts report.sections openness) ++
        view.back report := by
  cases view with
  | console colour =>
    rw [parts_console]
    rfl
  | page =>
    have cards : View.page.parts report.sections openness =
        Page.cardTexts report.sections openness := (parts_cards report.sections openness).symm
    have whole := Page.document_around report openness
    rw [Page.write_mainView, Page.write_sectionsView, ← cards] at whole
    rw [text, whole]
    simp only [front, back, String.append_assoc]
  | cards =>
    rw [← parts_cards]
    exact Page.write_fragment report.sections openness

/-- Parts look only at the flags of the keys of their sections. -/
theorem partsFrom_agreeing (view : View) (place : Nat) (sections : List Section)
    (left right : Openness)
    (agree : ∀ block ∈ sections, left.isOpen block.key = right.isOpen block.key) :
    view.partsFrom place sections left = view.partsFrom place sections right := by
  apply List.map_congr_left
  intro numbered member
  rw [agree numbered.1 (List.fst_mem_of_mem_zipIdx member)]

/-- Openings that agree on the keys of a report show the same. -/
theorem text_agreeing (view : View) (report : Report) (left right : Openness)
    (agree : ∀ key ∈ report.keys, left.isOpen key = right.isOpen key) :
    view.text report left = view.text report right := by
  have same : view.parts report.sections left = view.parts report.sections right := by
    apply partsFrom_agreeing
    intro block member
    exact agree block.key (List.mem_map_of_mem member)
  rw [text_divided, text_divided, same]

/-- The part of one section stands between the parts of those before and behind it. -/
theorem parts_around (view : View) (before after : List Section) (shown : Section)
    (openness : Openness) :
    view.parts (before ++ shown :: after) openness =
      view.partsFrom 0 before openness ++
        view.part shown before.length (openness.isOpen shown.key) ::
          view.partsFrom (before.length + 1) after openness := by
  simp [parts, partsFrom, List.zipIdx_append, List.zipIdx_cons]

/-- Toggling a key that one section has changes the part of that section alone.

Proof: the sections before and behind it have other keys, whose flags stay as they are. -/
theorem text_toggled (view : View) (report : Report) (distinct : report.keys.Nodup)
    (openness : Openness) (before after : List Section) (shown : Section)
    (divided : report.sections = before ++ shown :: after) :
    ∃ front back,
      view.text report openness =
        front ++ view.part shown before.length (openness.isOpen shown.key) ++ back ∧
      view.text report (openness.toggle shown.key) =
        front ++ view.part shown before.length (!openness.isOpen shown.key) ++ back := by
  rw [Report.keys, divided, List.map_append, List.map_cons, List.nodup_middle,
    List.nodup_cons, List.mem_append] at distinct
  have others : ∀ block, block ∈ before ∨ block ∈ after →
      (openness.toggle shown.key).isOpen block.key = openness.isOpen block.key := by
    intro block member
    have differs : block.key ≠ shown.key := by
      intro same
      apply distinct.1
      rw [← same]
      exact member.imp List.mem_map_of_mem List.mem_map_of_mem
    rw [Openness.isOpen_toggle, if_neg differs]
  have first := view.partsFrom_agreeing 0 before _ _ fun block member =>
    others block (.inl member)
  have last := view.partsFrom_agreeing (before.length + 1) after _ _ fun block member =>
    others block (.inr member)
  have own : (openness.toggle shown.key).isOpen shown.key = !openness.isOpen shown.key := by
    rw [Openness.isOpen_toggle, if_pos rfl]
  refine ⟨view.front report ++ String.join (view.partsFrom 0 before openness),
    String.join (view.partsFrom (before.length + 1) after openness) ++ view.back report, ?_, ?_⟩
  · rw [text_divided, divided, parts_around]
    simp only [String.join_append, String.join_cons, String.append_assoc]
  · rw [text_divided, divided, parts_around, first, last, own]
    simp only [String.join_append, String.join_cons, String.append_assoc]

end View

namespace Console

/-- The marker in the header of a section tells whether it is open. -/
theorem block_differs (colour : Bool) (shown : Section) :
    block colour shown true ≠ block colour shown false := by
  intro same
  have characters := congrArg String.toList same
  cases colour <;>
    simp [block, header, paint, Style.start, Style.dimmed, Style.restart] at characters

end Console

namespace View

/-- The button of a card tells whether the card is open. -/
theorem card_differs (block : Section) (place : Nat) :
    (Page.card block place true).write ≠ (Page.card block place false).write := by
  intro same
  obtain ⟨start, between, rest, written⟩ := Page.write_card block place
  rw [written, written] at same
  simp only [String.append_assoc, String.append_right_inj] at same
  have characters := congrArg String.toList same
  simp [Page.writeAttribute, Page.expandedWord, Page.escapeInValue, Page.escapeInText]
    at characters

/-- In every view it can be seen whether a section is open. -/
theorem part_differs (view : View) (block : Section) (place : Nat) (isOpen : Bool) :
    view.part block place isOpen ≠ view.part block place (!isOpen) := by
  have differs : view.part block place true ≠ view.part block place false := by
    cases view with
    | console colour => exact Console.block_differs colour block
    | page => exact card_differs block place
    | cards => exact card_differs block place
  cases isOpen with
  | true => exact differs
  | false => exact differs.symm

end View

/-- Sections are shown apart from each other. In every view the parts of the sections stand between
two texts that do not look at what is open. On the console a closed section is its header, whatever
it holds. On a page, whether a card is open shows in two attribute values alone. Openings that agree
on the keys of a report therefore show the same, and in a report that is made from an answer,
toggling the key of one section changes what is shown of this section and nothing else. -/
theorem sections_isolated :
    (∀ view : View, ∃ front back : Report → String, ∀ report openness,
      view.text report openness =
        front report ++ String.join (view.parts report.sections openness) ++ back report) ∧
    (∀ colour (shown : Section) body rationale steps chart,
      Console.block colour { shown with body, rationale, steps, chart } false =
        "\n" ++ Console.header colour shown false ++ "\n") ∧
    (∀ block place, ∃ start between rest, ∀ isOpen,
      (Page.card block place isOpen).write =
        start ++
          ("<button" ++ Page.writeAttribute (.dataToggle, block.key.text) ++
            Page.writeAttribute (.ariaExpanded, if isOpen then "true" else "false")) ++
          between ++
          ("<div" ++ Page.writeAttribute (.dataSectionBody, block.key.text) ++
            Page.writeAttribute
              (.classes, if isOpen then "section-body" else "section-body collapsed")) ++
          rest) ∧
    (∀ (view : View) (report : Report) (left right : Openness),
      (∀ key ∈ report.keys, left.isOpen key = right.isOpen key) →
      view.text report left = view.text report right) ∧
    ∀ (view : View) (answer : Answer) (mode : Mode) (openness : Openness)
      (before after : List Section) (shown : Section),
      (Report.ofAnswer answer mode).sections = before ++ shown :: after →
      ∃ front back,
        view.text (Report.ofAnswer answer mode) openness =
          front ++ view.part shown before.length (openness.isOpen shown.key) ++ back ∧
        view.text (Report.ofAnswer answer mode) (openness.toggle shown.key) =
          front ++ view.part shown before.length (!openness.isOpen shown.key) ++ back ∧
        view.part shown before.length (openness.isOpen shown.key) ≠
          view.part shown before.length (!openness.isOpen shown.key) := by
  refine ⟨?_, ?_, Page.write_card, View.text_agreeing, ?_⟩
  · intro view
    exact ⟨view.front, view.back, view.text_divided⟩
  · intro colour shown body rationale steps chart
    exact Console.block_closed colour _
  · intro view answer mode openness before after shown divided
    obtain ⟨front, back, shownBefore, shownAfter⟩ :=
      view.text_toggled _ (Report.nodup_keys answer mode) openness before after shown divided
    exact ⟨front, back, shownBefore, shownAfter, view.part_differs shown before.length _⟩

/-- A report of three sections, the first two with the same title and kind, and the last one closed.
A flag under a foreign key leaves the printed report and the page as they are. Toggling the key of
the section in the middle changes its own part of both and nothing around it. -/
theorem middle_section_isolated :
    let notes (content : String) : Json.Value :=
      .object [("title", .string "Notes"), ("type", .string "text"), ("content", .string content)]
    let answer := { Answer.empty with sections := some [
      notes "The loop ends one index late.", notes "The sum starts at 1.",
      .object [("title", .string "Fix"), ("type", .string "code"), ("content", .string "n - 1")]] }
    let report := Report.ofAnswer answer .analysis
    ∃ first middle last, report.sections = [first] ++ middle :: [last] ∧
      let openness := Openness.pristine.toggle last.key
      let foreign := openness.toggle ⟨"s-"⟩
      openness.isOpen middle.key = true ∧ openness.isOpen last.key = false ∧
      (∀ key ∈ report.keys, openness.isOpen key = foreign.isOpen key) ∧
      ∀ view ∈ [View.console false, View.page],
        view.text report openness = view.text report foreign ∧
        ∃ front back,
          view.text report openness = front ++ view.part middle 1 true ++ back ∧
          view.text report (openness.toggle middle.key) =
            front ++ view.part middle 1 false ++ back ∧
          view.part middle 1 true ≠ view.part middle 1 false := by
  intro notes answer report
  have absent : (⟨"s-"⟩ : Section.Key) ∉ report.keys := by decide +kernel
  have distinct : report.keys.Nodup := Report.nodup_keys answer .analysis
  obtain ⟨first, middle, last, divided⟩ : ∃ first middle last,
      report.sections = [first] ++ middle :: [last] := ⟨_, _, _, rfl⟩
  refine ⟨first, middle, last, divided, ?_⟩
  intro openness foreign
  have differs : middle.key ≠ last.key := by
    rw [Report.keys, divided, List.map_append] at distinct
    have behind := (List.nodup_append.mp distinct).2.1
    exact fun same => (List.nodup_cons.mp behind).1 (List.mem_singleton.mpr same)
  have isOpen : openness.isOpen middle.key = true := by
    rw [Openness.isOpen_toggle, if_neg differs]
    rfl
  have isClosed : openness.isOpen last.key = false := by
    rw [Openness.isOpen_toggle, if_pos rfl]
    rfl
  have agree : ∀ key ∈ report.keys, openness.isOpen key = foreign.isOpen key := by
    intro key member
    have other : key ≠ ⟨"s-"⟩ := fun same => absent (same ▸ member)
    have kept := Openness.isOpen_toggle openness ⟨"s-"⟩ key
    rw [if_neg other] at kept
    exact kept.symm
  refine ⟨isOpen, isClosed, agree, ?_⟩
  intro view _
  have toggled :=
    sections_isolated.2.2.2.2 view answer .analysis openness [first] [last] middle divided
  rw [isOpen] at toggled
  exact ⟨sections_isolated.2.2.2.1 view report openness foreign agree, toggled⟩

end CodeReport
