import CodeReport.Proofs.Assembly.Outcome
import CodeReport.Proofs.Page.Marked

/-!
# Tables that are assembled have no defect

Three places make tables: the entries of an answer, its metrics and its variables.
An entry's table is checked when it is made, and one that fails is degraded at once.
The tables of the templates have rows of fixed length. The checks of the console and
of a page therefore find no fault in the report of an answer; they are for reports
that are written by hand. A notice stands exactly where a section is degraded, and
only entries are.
-/

namespace CodeReport

open Section (Body)

namespace Entry

/-- A table that is accepted was checked. -/
theorem tableDefect?_tableOf (entry : Json.Members) (headers : List String)
    (rows : List (List String)) (accepted : tableOf entry = .ok (headers, rows)) :
    Section.tableDefect? headers rows = none := by
  unfold tableOf at accepted
  dsimp only at accepted
  split at accepted
  next refusal => cases accepted
  next =>
    split at accepted
    next defect => cases accepted
    next faultless =>
      cases accepted
      exact faultless

/-- The table of an entry has no defect, and its degraded form has no table. -/
theorem defect?_tableBody (entry : Json.Members) : (tableBody entry).defect? = none := by
  unfold tableBody
  split
  next headers rows accepted => exact tableDefect?_tableOf entry headers rows accepted
  next => rfl

/-- No entry makes a table with a defect, whatever it holds. -/
theorem defect?_bodyOf (entry : Json.Members) : (bodyOf entry).defect? = none := by
  unfold bodyOf
  cases kindOf entry with
  | table => exact defect?_tableBody entry
  | _ =>
    dsimp only
    split
    · rfl
    · rfl

end Entry

namespace Template

/-- Each metric makes a row of two cells. -/
theorem defect?_metrics (measured : List Answer.Metric) :
    (metrics measured).body.defect? = none := by
  refine (Section.tableDefect?_eq_none_iff _ _).mpr ⟨List.cons_ne_nil _ _, ?_⟩
  intro row member
  obtain ⟨metric, _, rfl⟩ := List.mem_map.mp member
  rfl

/-- Each variable makes a row of three cells. -/
theorem defect?_variableState (bindings : List Answer.Variable) :
    (variableState bindings).body.defect? = none := by
  refine (Section.tableDefect?_eq_none_iff _ _).mpr ⟨List.cons_ne_nil _ _, ?_⟩
  intro row member
  obtain ⟨binding, _, rfl⟩ := List.mem_map.mp member
  rfl

/-- A template shows all of its sections as what they are. -/
theorem shown_sections (answer : Answer) (mode : Mode) :
    ∀ block ∈ sections answer mode, block.body.defect? = none ∧ block.body.isDegraded = false := by
  cases mode with
  | analysis =>
    simp only [sections, List.forall_mem_cons, List.not_mem_nil, false_implies, implies_true,
      and_true]
    exact ⟨⟨defect?_metrics _, rfl⟩, ⟨rfl, rfl⟩, rfl, rfl⟩
  | debug =>
    have detection : (errorDetection answer.fault).body.defect? = none ∧
        (errorDetection answer.fault).body.isDegraded = false := by
      unfold errorDetection
      split
      · exact ⟨rfl, rfl⟩
      · exact ⟨rfl, rfl⟩
    simp only [sections, List.forall_mem_cons, List.not_mem_nil, false_implies, implies_true,
      and_true]
    exact ⟨detection, ⟨rfl, rfl⟩, ⟨defect?_variableState _, rfl⟩, rfl, rfl⟩

end Template

namespace Answer

/-- Corrected code is shown as code. -/
theorem shown_correction (answer : Answer) :
    ∀ block ∈ answer.correction, block.body.defect? = none ∧ block.body.isDegraded = false := by
  intro block member
  unfold correction at member
  split at member
  · cases member
  · rw [List.mem_singleton] at member
    rw [member]
    exact ⟨rfl, rfl⟩

/-- Where a section of an answer comes from. -/
inductive Origin (answer : Answer) (mode : Mode) : Section → Prop
  | failure (failed : answer.IsFailure mode) :
    Origin answer mode (reportedFailure answer.faultMessage)
  | entry (content : ¬ answer.IsFailure mode) (entries : List Json.Value)
    (brought : answer.sections = some entries) (entry : Json.Members)
    (member : entry ∈ Entry.objects entries) : Origin answer mode (Entry.toSection entry)
  | template (content : ¬ answer.IsFailure mode) (absent : answer.sections = none)
    (block : Section) (member : block ∈ Template.sections answer mode) : Origin answer mode block
  | correction (content : ¬ answer.IsFailure mode) (block : Section)
    (member : block ∈ answer.correction) : Origin answer mode block

variable (answer : Answer) (mode : Mode)

/-- Every section has an origin, its key aside. -/
theorem origin_of_mem (block : Section) (member : block ∈ answer.toSections mode) :
    ∃ source, answer.Origin mode source ∧ block.withoutKey = source.withoutKey := by
  by_cases failed : answer.IsFailure mode
  · rw [toSections_of_failure answer mode failed, List.mem_singleton] at member
    exact ⟨_, .failure failed, congrArg Section.withoutKey member⟩
  · obtain ⟨source, present, same⟩ := Section.mem_numberKeysWith _ _ block member
    refine ⟨source, ?_, same⟩
    rw [unnumberedSections_of_not_failure answer mode failed, contentSections_correction,
      List.mem_append] at present
    rcases present with own | corrected
    · cases brought : answer.sections with
      | none =>
        rw [brought] at own
        exact .template failed brought source own
      | some entries =>
        rw [brought] at own
        obtain ⟨entry, inside, rfl⟩ := List.mem_map.mp own
        exact .entry failed entries brought entry inside
    · exact .correction failed source corrected

variable {answer mode}

/-- Wherever a section comes from, its table has no defect. -/
theorem Origin.faultless {source : Section} (origin : answer.Origin mode source) :
    source.body.defect? = none := by
  cases origin with
  | failure failed => rfl
  | entry content entries brought entry member => exact Entry.defect?_bodyOf entry
  | template content absent block member => exact (Template.shown_sections answer mode _ member).1
  | correction content block member => exact (answer.shown_correction _ member).1

/-- Only a section that an entry made is degraded. -/
theorem Origin.entry_of_degraded {source : Section} (origin : answer.Origin mode source)
    (degraded : source.body.isDegraded = true) :
    ∃ entries, answer.sections = some entries ∧
      ∃ entry ∈ Entry.objects entries, source = Entry.toSection entry := by
  cases origin with
  | failure failed => cases degraded
  | entry content entries brought entry member => exact ⟨entries, brought, entry, member, rfl⟩
  | template content absent block member =>
    rw [(Template.shown_sections answer mode _ member).2] at degraded
    cases degraded
  | correction content block member =>
    rw [(answer.shown_correction _ member).2] at degraded
    cases degraded

end Answer

/-- A section whose table, if it holds one, is rectangular, so that a notice takes its place if and
only if it is degraded. -/
structure Section.IsSound (block : Section) : Prop where
  rectangular : ∀ headers rows, block.body = .table headers rows →
    headers ≠ [] ∧ ∀ row ∈ rows, row.length = headers.length
  faultless : block.body.defect? = none
  onConsole : ∀ colour shown,
    .notice shown ∈ Console.account colour block.body ↔ block.body.degradation? = some shown
  alone : ∀ colour shown, block.body.degradation? = some shown →
    Console.account colour block.body = [.notice shown] ∧
      Console.bodyLines colour block.body =
        [Console.paint colour .yellow s!"Could not display this {shown.expected.name} section:" ++
          " " ++ shown.reason]
  onPage : Page.bodyView block.body =
    match block.body.degradation? with
    | some notice => Page.noticeView notice
    | none => Page.shownView block.body

/-- The checks of the console and of a page decide alike about a body without a defect. -/
theorem Section.sound_of_faultless (block : Section) (faultless : block.body.defect? = none) :
    block.IsSound where
  rectangular := by
    intro headers rows isTable
    rw [isTable] at faultless
    exact (Section.tableDefect?_eq_none_iff headers rows).mp faultless
  faultless := faultless
  onConsole := by
    intro colour shown
    rw [Console.notice_mem_account_iff, Body.notice?_faultless _ faultless]
  alone := by
    intro colour shown degraded
    rw [← Body.notice?_faultless _ faultless] at degraded
    have notice := Console.account_notice colour block.body shown degraded
    refine ⟨notice, ?_⟩
    rw [Console.bodyLines_account, notice]
    rfl
  onPage := by
    have view := Page.bodyView_notice block.body
    rw [Body.notice?_faultless _ faultless] at view
    exact view

namespace Answer

variable (answer : Answer) (mode : Mode)

/-- No section that is made from an answer has a table with a defect. -/
theorem faultless_of_mem (block : Section) (member : block ∈ answer.toSections mode) :
    block.body.defect? = none := by
  obtain ⟨source, origin, same⟩ := origin_of_mem answer mode block member
  rw [Section.body_of_withoutKey same]
  exact origin.faultless

end Answer

end CodeReport
