import CodeReport.Proofs.Answer.Hidden
import CodeReport.Proofs.Answer.Parts
import CodeReport.Proofs.Assembly.Outcome
import Mathlib.Algebra.Group.Int.Defs
import Mathlib.Algebra.Group.Nat.Defs

/-!
# Issues are listed in their order

An array of issues may hold anything. A text is an issue, also a blank one, and an object
is one if it has a message; every other item is left out. What an issue says is described
on the item alone, so no issue depends on the items around it.

A position is kept in 32 bits. The two positions of an issue meet the end of this range
differently: a line beyond it is brought back to it, and a column beyond it is dropped.
-/

namespace CodeReport.Answer

open Json (Value Members)

namespace Issue

/-- The message of an object, without its blank ends. The description takes its place where no text
is told under its name, or a blank one. -/
inductive HasMessage (issue : Members) : String → Prop where
  | message (text : String) (held : issue.get? "message" = some (.string text))
    (written : Text.isBlankText text = false) : HasMessage issue (Text.trim text)
  | description (text : String)
    (silent : ∀ other, issue.get? "message" = some (.string other) →
      Text.isBlankText other = true)
    (held : issue.get? "description" = some (.string text))
    (written : Text.isBlankText text = false) : HasMessage issue (Text.trim text)

/-- The line of an object, which has two names. It is brought into the range of lines, and what is
no natural number is line 1. -/
inductive HasLine (issue : Members) : Nat → Prop where
  | counted (number : Nat)
    (held : issue.either? "lineNumber" "line" = some (.number (.integer number))) :
    HasLine issue (max 1 (min number (2 ^ 32 - 1)))
  | uncounted (other : ∀ number : Nat,
      issue.either? "lineNumber" "line" ≠ some (.number (.integer number))) : HasLine issue 1

/-- The severity of an object, if it names one. -/
inductive HasSeverity (issue : Members) : Severity → Prop where
  | named (word : String) (severity : Severity)
    (held : issue.get? "severity" = some (.string word))
    (known : Severity.ofWord? word = some severity) : HasSeverity issue severity
  | unnamed (unknown : ∀ word, issue.get? "severity" = some (.string word) →
      Severity.ofWord? word = none) : HasSeverity issue .info

/-- An object that describes an issue. -/
structure Describes (issue : Members) (shown : Issue) : Prop where
  message : HasMessage issue shown.message
  line : HasLine issue shown.line
  column : ∀ number, shown.column = some number ↔
    number < 2 ^ 32 ∧ issue.get? "column" = some (.number (.integer number))
  severity : HasSeverity issue shown.severity

/-- What an item says as an issue. -/
inductive Reports : Value → Issue → Prop where
  | text (message : String) : Reports (.string message) ⟨1, none, message, .info⟩
  | object (issue : Members) (shown : Issue) (describes : Describes issue shown) :
    Reports (.object issue) shown

/-- The items that are issues: texts, and objects with a message. -/
inductive IsIssue : Value → Prop where
  | text (message : String) : IsIssue (.string message)
  | object (issue : Members) (message : String) (told : HasMessage issue message) :
    IsIssue (.object issue)

/-- Items with the issues among them: one for each item that is an issue, in the same order. -/
inductive Listed : List Value → List Issue → Prop where
  | empty : Listed [] []
  | kept {item : Value} {shown : Issue} {items : List Value} {issues : List Issue}
    (reports : Reports item shown) (further : Listed items issues) :
    Listed (item :: items) (shown :: issues)
  | dropped {item : Value} {items : List Value} {issues : List Issue} (other : ¬ IsIssue item)
    (further : Listed items issues) : Listed (item :: items) issues

section Members

variable (issue : Members)

/-- A text is read under a name exactly if a text that is not blank stands there. -/
theorem trimmedText?_eq_some_iff (name text : String) :
    issue.trimmedText? name = some text ↔
      ∃ whole, issue.get? name = some (.string whole) ∧ Text.isBlankText whole = false ∧
        text = Text.trim whole := by
  constructor
  · intro read
    by_cases accepted : ∃ whole, issue.get? name = some (.string whole) ∧
        Text.isBlankText whole = false
    · obtain ⟨whole, held, written⟩ := accepted
      rw [trimmedText?_string whole held, written] at read
      exact ⟨whole, held, written, (Option.some.inj read).symm⟩
    · cases held : issue.get? name with
      | none =>
        rw [Members.trimmedText?, held] at read
        cases read
      | some value =>
        have refused : ¬ Shape.text.Accepts value := by
          rintro ⟨whole, rfl, written⟩
          exact accepted ⟨whole, held, written⟩
        rw [trimmedText?_of_refused held refused] at read
        cases read
  · rintro ⟨whole, held, written, rfl⟩
    rw [trimmedText?_string whole held, written]
    rfl

/-- No text is read under a name exactly if every text there is blank. -/
theorem trimmedText?_eq_none_iff (name : String) :
    issue.trimmedText? name = none ↔
      ∀ whole, issue.get? name = some (.string whole) → Text.isBlankText whole = true := by
  rw [Option.eq_none_iff_forall_ne_some]
  simp only [ne_eq, trimmedText?_eq_some_iff, not_exists, not_and]
  constructor
  · intro unread whole held
    by_contra written
    exact unread _ whole held (Bool.not_eq_true _ ▸ written) rfl
  · intro blank text whole held written
    rw [blank whole held] at written
    cases written

/-- The message of an issue is the one that is read from it. -/
theorem hasMessage_iff (message : String) :
    HasMessage issue message ↔ messageOf? issue = some message := by
  rw [messageOf?, Option.or_eq_some_iff, trimmedText?_eq_some_iff, trimmedText?_eq_some_iff,
    trimmedText?_eq_none_iff]
  constructor
  · rintro (⟨text, held, written⟩ | ⟨text, silent, held, written⟩)
    · exact .inl ⟨text, held, written, rfl⟩
    · exact .inr ⟨silent, text, held, written, rfl⟩
  · rintro (⟨text, held, written, rfl⟩ | ⟨silent, text, held, written, rfl⟩)
    · exact .message text held written
    · exact .description text silent held written

end Members

/-- A natural number is read exactly where one stands. -/
theorem nat?_eq_some_iff (found : Option Value) (number : Nat) :
    found.bind Value.nat? = some number ↔ found = some (.number (.integer number)) := by
  constructor
  · intro read
    obtain ⟨value, rfl, isNatural⟩ := Option.bind_eq_some_iff.mp read
    obtain ⟨written, isNumber, counts⟩ := Option.bind_eq_some_iff.mp isNatural
    cases value with
    | number held =>
      obtain rfl := Option.some.inj isNumber
      cases held with
      | integer value =>
        cases value with
        | ofNat natural =>
          obtain rfl := Option.some.inj counts
          rfl
        | negSucc below => cases counts
      | real value => cases counts
    | _ => cases isNumber
  · rintro rfl
    rfl

/-- The line of an issue is the one that is read under the first of its two names that is there. -/
theorem hasLine_iff (issue : Members) (line : Nat) :
    HasLine issue line ↔ line = lineOf (issue.either? "lineNumber" "line") := by
  have counted (number : Nat)
      (held : issue.either? "lineNumber" "line" = some (.number (.integer number))) :
      lineOf (issue.either? "lineNumber" "line") = max 1 (min number (2 ^ 32 - 1)) := by
    rw [lineOf, (nat?_eq_some_iff _ number).mpr held]
    rfl
  have uncounted (other : ∀ number : Nat,
      issue.either? "lineNumber" "line" ≠ some (.number (.integer number))) :
      lineOf (issue.either? "lineNumber" "line") = 1 := by
    have none : (issue.either? "lineNumber" "line").bind Value.nat? = none :=
      Option.eq_none_iff_forall_ne_some.mpr fun number read =>
        other number ((nat?_eq_some_iff _ number).mp read)
    rw [lineOf, none]
  constructor
  · rintro (⟨number, held⟩ | other)
    · exact (counted number held).symm
    · exact (uncounted other).symm
  · rintro rfl
    by_cases natural : ∃ number : Nat,
        issue.either? "lineNumber" "line" = some (.number (.integer number))
    · obtain ⟨number, held⟩ := natural
      rw [counted number held]
      exact .counted number held
    · rw [uncounted (not_exists.mp natural)]
      exact .uncounted (not_exists.mp natural)

/-- A column is kept exactly if it is a natural number in the range. -/
theorem columnOf_eq_some_iff (found : Option Value) (number : Nat) :
    columnOf found = some number ↔
      number < 2 ^ 32 ∧ found = some (.number (.integer number)) := by
  have range : number ≤ greatestPosition ↔ number < 2 ^ 32 := by
    rw [greatestPosition]
    omega
  rw [columnOf, Option.filter_eq_some_iff, nat?_eq_some_iff, decide_eq_true_iff, range, and_comm]

/-- The severity of an issue is the one that is read from it, or else `info`. -/
theorem hasSeverity_iff (issue : Members) (severity : Severity) :
    HasSeverity issue severity ↔
      severity = (severityOf (issue.get? "severity")).getD .info := by
  have read (word : String) (held : issue.get? "severity" = some (.string word)) :
      severityOf (issue.get? "severity") = Severity.ofWord? word := by
    rw [severityOf, held, Option.bind_some, Value.string?, Option.bind_some]
  have unread (unknown : ∀ word, issue.get? "severity" = some (.string word) →
      Severity.ofWord? word = none) : severityOf (issue.get? "severity") = none := by
    cases held : issue.get? "severity" with
    | none => rfl
    | some value =>
      cases value with
      | string word =>
        rw [← held, read word held]
        exact unknown word held
      | _ => rfl
  constructor
  · rintro (⟨word, _, held, known⟩ | unknown)
    · rw [read word held, known]
      rfl
    · rw [unread unknown]
      rfl
  · rintro rfl
    cases said : severityOf (issue.get? "severity") with
    | none =>
      refine .unnamed ?_
      intro word held
      rw [← read word held, said]
    | some severity =>
      obtain ⟨word, isText, known⟩ := Option.bind_eq_some_iff.mp said
      obtain ⟨value, held, isString⟩ := Option.bind_eq_some_iff.mp isText
      cases value with
      | string text =>
        obtain rfl := Option.some.inj isString
        exact .named text severity held known
      | _ => cases isString

/-- What is read of an object is what it describes. -/
theorem describes_iff (issue : Members) (shown : Issue) :
    Describes issue shown ↔ ofJson? (.object issue) = some shown := by
  have read : ofJson? (.object issue) = (messageOf? issue).map fun message =>
      { line := lineOf (issue.either? "lineNumber" "line")
        column := columnOf (issue.get? "column")
        message
        severity := (severityOf (issue.get? "severity")).getD .info } := rfl
  rw [read, Option.map_eq_some_iff]
  constructor
  · rintro ⟨message, line, column, severity⟩
    refine ⟨shown.message, (hasMessage_iff issue _).mp message, ?_⟩
    have columns : columnOf (issue.get? "column") = shown.column := by
      apply Option.ext
      intro number
      rw [columnOf_eq_some_iff, column]
    rw [← (hasLine_iff issue _).mp line, columns, ← (hasSeverity_iff issue _).mp severity]
  · rintro ⟨message, told, rfl⟩
    exact ⟨(hasMessage_iff issue message).mpr told, (hasLine_iff issue _).mpr rfl,
      columnOf_eq_some_iff _, (hasSeverity_iff issue _).mpr rfl⟩

/-- What is read of an item is what it says as an issue. -/
theorem reports_iff (item : Value) (shown : Issue) :
    Reports item shown ↔ ofJson? item = some shown := by
  constructor
  · rintro (message | ⟨issue, _, describes⟩)
    · rfl
    · exact (describes_iff issue shown).mp describes
  · intro read
    cases item with
    | string message =>
      obtain rfl := Option.some.inj read
      exact .text message
    | object issue => exact .object issue shown ((describes_iff issue shown).mpr read)
    | _ => cases read

/-- The items that are issues are those of which an issue is read. -/
theorem isIssue_iff (item : Value) : IsIssue item ↔ ∃ shown, ofJson? item = some shown := by
  cases item with
  | string message => exact ⟨fun _ => ⟨_, rfl⟩, fun _ => .text message⟩
  | object issue =>
    have read : ofJson? (.object issue) = (messageOf? issue).map _ := rfl
    constructor
    · rintro (_ | ⟨_, message, told⟩)
      rw [read, (hasMessage_iff issue message).mp told]
      exact ⟨_, rfl⟩
    · rintro ⟨shown, isRead⟩
      obtain ⟨message, told, -⟩ := Option.map_eq_some_iff.mp isRead
      exact .object issue message ((hasMessage_iff issue message).mpr told)
  | _ =>
    constructor
    · rintro ⟨⟩
    · rintro ⟨shown, read⟩
      cases read

/-- The issues of an array are those among its items. -/
theorem listed_issuesOf (items : List Value) : Listed items (issuesOf (.array items)) := by
  have read (items : List Value) : issuesOf (.array items) = items.filterMap ofJson? := rfl
  rw [read]
  induction items with
  | nil => exact .empty
  | cons item rest inductionHypothesis =>
    rw [List.filterMap_cons]
    cases said : ofJson? item with
    | none =>
      refine .dropped ?_ inductionHypothesis
      rw [isIssue_iff, said]
      rintro ⟨shown, ⟨⟩⟩
    | some shown => exact .kept ((reports_iff item shown).mpr said) inductionHypothesis

/-- Every issue stands for an item that reports it. -/
theorem Listed.exists_reports {items : List Value} {issues : List Issue}
    (listed : Listed items issues) : ∀ shown ∈ issues, ∃ item ∈ items, Reports item shown := by
  induction listed with
  | empty => exact nofun
  | kept reports _ inductionHypothesis =>
    rw [List.forall_mem_cons]
    refine ⟨⟨_, List.mem_cons_self, reports⟩, ?_⟩
    intro shown member
    obtain ⟨item, isItem, reported⟩ := inductionHypothesis shown member
    exact ⟨item, List.mem_cons_of_mem _ isItem, reported⟩
  | dropped _ _ inductionHypothesis =>
    intro shown member
    obtain ⟨item, isItem, reported⟩ := inductionHypothesis shown member
    exact ⟨item, List.mem_cons_of_mem _ isItem, reported⟩

/-- The line of an issue is in the range of lines. -/
theorem HasLine.inRange {issue : Members} {line : Nat} (has : HasLine issue line) :
    1 ≤ line ∧ line ≤ 2 ^ 32 - 1 := by
  cases has with
  | counted number => omega
  | uncounted => decide

/-- The line of an issue that is reported is a positive number of 32 bits. -/
theorem Reports.inRange {item : Value} {shown : Issue} (reports : Reports item shown) :
    1 ≤ shown.line ∧ shown.line ≤ 2 ^ 32 - 1 := by
  cases reports with
  | text message => exact ⟨Nat.le_refl 1, (by decide : 1 ≤ 2 ^ 32 - 1)⟩
  | object issue _ describes => exact describes.line.inRange

end Issue

/-- A report of an analysis lists the issues in its second section, and in no other one. -/
theorem toSections_issues (answer : Answer) (absent : answer.sections = none)
    (succeeded : ¬ answer.IsFailure .analysis) :
    ∃ first block rest, answer.toSections .analysis = first :: block :: rest ∧
      block.title = "Identified Issues" ∧
      block.body = .list .bullet (answer.issues.map Issue.message) ∧
      ∀ other ∈ first :: rest, other.title ≠ "Identified Issues" := by
  have shown := answer.withoutKey_toSections .analysis succeeded
  rw [contentSections_correction, absent] at shown
  obtain ⟨first, others, sections, isFirst, shownOthers⟩ := List.map_eq_cons_iff.mp shown
  obtain ⟨block, rest, rfl, isBlock, shownRest⟩ := List.map_eq_cons_iff.mp shownOthers
  refine ⟨first, block, rest, sections, congrArg Section.title isBlock,
    Section.body_of_withoutKey isBlock, ?_⟩
  rw [List.forall_mem_cons]
  constructor
  · have title : first.title = "Code Quality Metrics" := congrArg Section.title isFirst
    rw [title]
    decide
  · intro other member
    have inside : other.withoutKey ∈ rest.map Section.withoutKey := List.mem_map_of_mem member
    rw [shownRest] at inside
    obtain ⟨source, present, same⟩ := List.mem_map.mp inside
    rw [← Section.title_of_withoutKey same]
    rcases List.mem_cons.mp present with rfl | corrected
    · exact (by decide : "Recommendations" ≠ "Identified Issues")
    · rw [answer.title_correction source corrected]
      decide

/-- The issues that are read of an array are exactly those among its items, in their order: each
text is one, and each object with a message, which may be told as its description. Their lines are
in the range of lines. What is read of two arrays is also read of the one that joins them. A report
of an analysis that has not failed and brings no sections of its own lists their messages, in the
same order. -/
theorem issues_listed (items : List Value) :
    Issue.Listed items (issuesOf (.array items)) ∧
    (∀ shown ∈ issuesOf (.array items), 1 ≤ shown.line ∧ shown.line ≤ 2 ^ 32 - 1) ∧
    (∀ front back, items = front ++ back →
      issuesOf (.array items) = issuesOf (.array front) ++ issuesOf (.array back)) ∧
    ∀ members : Members, members.get? "issues" = some (.array items) →
      (ofJson (.object members)).issues = issuesOf (.array items) ∧
      ((ofJson (.object members)).sections = none →
        ¬ (ofJson (.object members)).IsFailure .analysis →
        ∃ first block rest,
          (ofJson (.object members)).toSections .analysis = first :: block :: rest ∧
          block.title = "Identified Issues" ∧
          block.body = .list .bullet ((issuesOf (.array items)).map Issue.message) ∧
          ∀ other ∈ first :: rest, other.title ≠ "Identified Issues") := by
  have listed := Issue.listed_issuesOf items
  refine ⟨listed, ?_, ?_, ?_⟩
  · intro shown member
    obtain ⟨item, -, reports⟩ := listed.exists_reports shown member
    exact reports.inRange
  · rintro front back rfl
    exact List.filterMap_append
  · intro members held
    have read : (ofJson (.object members)).issues = issuesOf (.array items) := issues_of_array held
    refine ⟨read, ?_⟩
    intro absent succeeded
    rw [← read]
    exact toSections_issues _ absent succeeded

/-- An object without a message stands between two issues, the second of which has a line and a
column beyond their range. -/
theorem mixed_issues_listed :
    let items : List Value :=
      [.string "unused import", .object [("line", .number (.integer 7))],
        .object [("message", .null), ("description", .string " off by one "),
          ("line", .number (.integer (2 ^ 64 - 1))), ("column", .number (.integer (2 ^ 32)))]]
    issuesOf (.array items) =
        [⟨1, none, "unused import", .info⟩, ⟨2 ^ 32 - 1, none, "off by one", .info⟩] ∧
      ∃ block ∈ (ofJson (.object [("issues", .array items)])).toSections .analysis,
        block.title = "Identified Issues" ∧
        block.body = .list .bullet ["unused import", "off by one"] := by
  intro items
  have read : issuesOf (.array items) =
      [⟨1, none, "unused import", .info⟩, ⟨2 ^ 32 - 1, none, "off by one", .info⟩] := rfl
  refine ⟨read, ?_⟩
  obtain ⟨-, -, -, shown⟩ := issues_listed items
  obtain ⟨-, listed⟩ := shown [("issues", .array items)] rfl
  have succeeded : ¬ (ofJson (.object [("issues", .array items)])).IsFailure .analysis := by
    rintro (⟨message, fault⟩ | ⟨⟨message, fault⟩, -⟩ | denied)
    · cases fault
    · cases fault
    · cases denied
  obtain ⟨first, block, rest, sections, title, body, -⟩ := listed rfl succeeded
  rw [sections]
  rw [read] at body
  exact ⟨block, by simp, title, body⟩

end CodeReport.Answer
