import CodeReport.Proofs.Answer.Hidden
import CodeReport.Proofs.Answer.Parts
import CodeReport.Proofs.Assembly.Outcome

/-!
# Members that are null

In the issues and entries of an answer a null member is read as if it were not there,
unless it hides what stands under a second spelling. What is hidden is read as if it were
not there.

This is compared on what an answer shows: its issues, and its sections in either mode. A
failure shows none of its entries, so nothing in them is missed.
-/

namespace CodeReport

open Json (Value Members)

namespace Entry

/-- The sections of entries are known without their keys, since each has its base key. -/
theorem toSections_of_withoutKey {left right : List Value}
    (same : (toSections left).map Section.withoutKey = (toSections right).map Section.withoutKey) :
    toSections left = toSections right := by
  -- Numbering has not taken place yet, so the key is what title and kind give.
  have keyed (entries : List Value) : ((toSections entries).map Section.withoutKey).map
      (fun block => { block with key := block.baseKey }) = toSections entries := by
    rw [toSections_objects, List.map_map, List.map_map]
    exact List.map_congr_left fun entry _ => rfl
  rw [← keyed left, ← keyed right, same]

end Entry

namespace Answer

/-- Two answers with the same issues whose sections are the same in either mode. -/
def ShownAlike (left right : Answer) : Prop :=
  left.issues = right.issues ∧ ∀ mode, left.toSections mode = right.toSections mode

/-- Two answers that differ in nothing but the sections they bring. -/
def AlikeBesideSections (left right : Answer) : Prop :=
  ∀ wanted : Part, wanted ≠ .sections → left.part wanted = right.part wanted

section Beside

variable {left right : Answer} (beside : AlikeBesideSections left right) (mode : Mode)

include beside

/-- Answers that differ in their sections alone have the same fault. -/
theorem fault_beside : left.fault = right.fault :=
  beside .fault (by decide)

/-- Answers that differ in their sections alone are failures alike. -/
theorem isFailure_beside : left.IsFailure mode ↔ right.IsFailure mode := by
  have success : left.success = right.success := beside .success (by decide)
  rw [IsFailure, IsFailure, fault_beside beside, success]

/-- Of a failure the fault alone is shown. -/
theorem toSections_failed (failure : right.IsFailure mode) :
    left.toSections mode = right.toSections mode := by
  rw [toSections_of_failure right mode failure,
    toSections_of_failure left mode ((isFailure_beside beside mode).mpr failure),
    faultMessage, faultMessage, fault_beside beside]

variable {leftEntries rightEntries : List Value} (leftBrought : left.sections = some leftEntries)
variable (rightBrought : right.sections = some rightEntries)

include leftBrought rightBrought

/-- Of any other answer the sections it brings are shown, and nothing else that differs. -/
theorem toSections_shown_iff (content : ¬ right.IsFailure mode) :
    left.toSections mode = right.toSections mode ↔
      Entry.toSections leftEntries = Entry.toSections rightEntries := by
  have leftContent : ¬ left.IsFailure mode := (isFailure_beside beside mode).not.mpr content
  have correctedCode : left.correctedCode = right.correctedCode := beside .correctedCode (by decide)
  have language : left.language = right.language := beside .language (by decide)
  have corrections : left.correction = right.correction := by
    rw [correction, correction, correctedCode, language]
  have leftShown := contentSections_correction left mode
  have rightShown := contentSections_correction right mode
  rw [leftBrought] at leftShown
  rw [rightBrought] at rightShown
  simp only [← Entry.toSections_objects] at leftShown rightShown
  constructor
  · intro same
    have keyless := congrArg (List.map Section.withoutKey) same
    rw [withoutKey_toSections left mode leftContent, withoutKey_toSections right mode content,
      leftShown, rightShown, corrections, List.map_append, List.map_append,
      List.append_cancel_right_eq] at keyless
    exact Entry.toSections_of_withoutKey keyless
  · intro same
    rw [toSections, toSections, toSectionsWith, toSectionsWith,
      unnumberedSections_of_not_failure left mode leftContent,
      unnumberedSections_of_not_failure right mode content, leftShown, rightShown, corrections,
      same]

/-- Answers that differ in nothing but the sections they bring are shown alike exactly if they are
failures or the entries of one make the sections of the other. -/
theorem shownAlike_beside_iff :
    ShownAlike left right ↔
      (∀ mode, right.IsFailure mode) ∨
        Entry.toSections leftEntries = Entry.toSections rightEntries := by
  constructor
  · rintro ⟨_, alike⟩
    by_cases failure : ∀ mode, right.IsFailure mode
    · exact .inl failure
    · push Not at failure
      obtain ⟨mode, content⟩ := failure
      have shown := toSections_shown_iff beside mode leftBrought rightBrought content
      exact .inr (shown.mp (alike mode))
  · intro unseen
    refine ⟨beside .issues (by decide), ?_⟩
    intro mode
    by_cases failure : right.IsFailure mode
    · exact toSections_failed beside mode failure
    · rw [toSections_shown_iff beside mode leftBrought rightBrought failure]
      exact unseen.resolve_left fun failures => failure (failures mode)

end Beside

variable (members : Members) (before after : List Value) {old new : Members}

/-- An answer in which an object of a list is another one. -/
def replaced (place : String) (new : Members) : Answer :=
  ofJson (.object (members.insert place (.array (before ++ .object new :: after))))

/-- A list is replaced in no other part than its own. -/
theorem part_replaced {place : String} (fed : Part) (source : place ∈ fed.names) (new : Members)
    (wanted : Part) (differs : wanted ≠ fed) :
    (replaced members before after place new).part wanted =
      (ofJson (.object members)).part wanted := by
  refine part_elsewhere source ?_ wanted differs
  intro other elsewhere
  rw [Members.get?_insert, if_neg elsewhere]

/-- The issues of an answer stay the same exactly if an issue is replaced by one of the same
reading. -/
theorem issues_replaced_iff
    (held : members.get? "issues" = some (.array (before ++ .object old :: after))) :
    (replaced members before after "issues" new).issues = (ofJson (.object members)).issues ↔
      Issue.ofJson? (.object new) = Issue.ofJson? (.object old) := by
  rw [replaced, issues_of_array (Members.get?_insert_self _ _ _), issues_of_array held,
    List.filterMap_append, List.filterMap_append, List.append_cancel_left_eq, List.filterMap_cons,
    List.filterMap_cons]
  cases Issue.ofJson? (.object new) with
  | none => cases Issue.ofJson? (.object old) <;> simp
  | some first => cases Issue.ofJson? (.object old) <;> simp

/-- Whether one issue or another stands in an answer is shown, unless they have the same reading. -/
theorem shownAlike_issue_iff
    (held : members.get? "issues" = some (.array (before ++ .object old :: after))) :
    ShownAlike (replaced members before after "issues" new) (ofJson (.object members)) ↔
      Issue.ofJson? (.object new) = Issue.ofJson? (.object old) := by
  rw [← issues_replaced_iff members before after held]
  constructor
  · exact And.left
  · intro issues
    have same : replaced members before after "issues" new = ofJson (.object members) := by
      apply eq_of_parts
      intro wanted
      by_cases own : wanted = .issues
      · subst own
        exact issues
      · exact part_replaced members before after .issues List.mem_cons_self new wanted own
    rw [same]
    exact ⟨rfl, fun mode => rfl⟩

/-- Whether one entry or another stands in an answer is shown, unless the answer failed or they make
the same section. -/
theorem shownAlike_entry_iff
    (held : members.get? "sections" = some (.array (before ++ .object old :: after))) :
    ShownAlike (replaced members before after "sections" new) (ofJson (.object members)) ↔
      (∀ mode, (ofJson (.object members)).IsFailure mode) ∨
        Entry.toSection new = Entry.toSection old := by
  have beside : AlikeBesideSections (replaced members before after "sections" new)
      (ofJson (.object members)) :=
    part_replaced members before after .sections List.mem_cons_self new
  rw [shownAlike_beside_iff beside (sections_of_array (Members.get?_insert_self _ _ _))
    (sections_of_array held)]
  simp [Entry.toSections_objects, Entry.objects, Value.object?]

/-- A null in an issue or an entry is read as if it were not there exactly if it hides nothing that
stands under a second spelling, or if no entries are shown at all. What it hides is read as if it
were not there. -/
theorem nulls_absent_or_hiding (members object : Members) (before after : List Value)
    (name : String) (null : object.get? name = some .null) :
    (members.get? "issues" = some (.array (before ++ .object object :: after)) →
      (ShownAlike (replaced members before after "issues" (object.without name))
          (ofJson (.object members)) ↔
        ∀ other, ¬ Issue.Hides object name other) ∧
      ∀ other, Issue.Hides object name other →
        ShownAlike (replaced members before after "issues" (object.without other))
          (ofJson (.object members))) ∧
    (members.get? "sections" = some (.array (before ++ .object object :: after)) →
      (ShownAlike (replaced members before after "sections" (object.without name))
          (ofJson (.object members)) ↔
        (∀ mode, (ofJson (.object members)).IsFailure mode) ∨
          ∀ other, ¬ Entry.Hides object name other) ∧
      ∀ other, Entry.Hides object name other →
        ShownAlike (replaced members before after "sections" (object.without other))
          (ofJson (.object members))) := by
  constructor
  · intro held
    simp only [shownAlike_issue_iff members before after held]
    constructor
    · refine ⟨?_, Issue.ofJson?_without object null⟩
      intro same other hidden
      exact Issue.ofJson?_revealed object hidden null same
    · intro other hidden
      exact Issue.ofJson?_hidden object hidden null
  · intro held
    simp only [shownAlike_entry_iff members before after held]
    constructor
    · refine or_congr_right ⟨?_, Entry.toSection_without object null⟩
      intro same other hidden
      exact Entry.bodyOf_revealed object hidden null (congrArg Section.body same)
    · intro other hidden
      exact .inr (Entry.toSection_hidden object hidden null)

/-- The rows of a table without headers are not hidden by a null, since they would not be shown
anyway. -/
theorem headless_table_null_absent :
    let entry : Members :=
      [("type", .string "table"), ("tableData", .null),
        ("tableRows", .array [.array [.string "1"]])]
    ShownAlike
      (replaced [("sections", .array [.object entry])] [] [] "sections" (entry.without "tableData"))
      (ofJson (.object [("sections", .array [.object entry])])) := by
  intro entry
  have silent : ∀ other, ¬ Entry.Hides entry "tableData" other := by
    intro other hidden
    generalize named : "tableData" = name at hidden
    cases hidden with
    | listKind => exact absurd named (by decide)
    | tableRows table filled noticed =>
      rcases noticed with headed | ⟨row, member, single⟩
      · exact headed rfl
      · exact single [.string "1"] (List.mem_singleton.mp member)
  exact ((nulls_absent_or_hiding _ entry [] [] "tableData" rfl).2 rfl).1.mpr (.inr silent)

/-- Taking out a null can bring to light what it hid: a line, a kind of list, or all rows of a
table. -/
theorem null_not_absent :
    let issue : Members :=
      [("message", .string "m"), ("lineNumber", .null), ("line", .number (.integer 5))]
    let list : Members :=
      [("type", .string "list"), ("listType", .null), ("listKind", .string "ordered")]
    let table : Members :=
      [("type", .string "table"), ("tableHeaders", .array [.string "a"]), ("tableData", .null),
        ("tableRows", .array [.array [.string "1"]])]
    ¬ ShownAlike
        (replaced [("issues", .array [.object issue])] [] [] "issues" (issue.without "lineNumber"))
        (ofJson (.object [("issues", .array [.object issue])])) ∧
      ¬ ShownAlike
        (replaced [("sections", .array [.object list])] [] [] "sections" (list.without "listType"))
        (ofJson (.object [("sections", .array [.object list])])) ∧
      ¬ ShownAlike
        (replaced [("sections", .array [.object table])] [] [] "sections"
          (table.without "tableData"))
        (ofJson (.object [("sections", .array [.object table])])) := by
  intro issue list table
  refine ⟨?_, ?_, ?_⟩
  · intro alike
    have lines := congrArg (List.map Issue.line) alike.1
    exact absurd lines (by decide)
  · intro alike
    have bodies := congrArg (List.map Section.body) (alike.2 .analysis)
    exact absurd bodies (by decide +kernel)
  · intro alike
    have bodies := congrArg (List.map Section.body) (alike.2 .analysis)
    exact absurd bodies (by decide +kernel)

end Answer

end CodeReport
