import CodeReport.Assembly.Report

/-!
# What becomes of an answer

Whether an answer is a failure depends on its fault, on its success flag and on the
mode, and on nothing else of the answer. A failure makes one section, which shows
the fault's message. Any other answer makes the sections that it brings, each from
its own entry, or else those of the mode's template; corrected code comes last.

Keys are compared elsewhere. Here sections are compared without their keys, which
numbering alone touches.
-/

namespace CodeReport

namespace Section

variable (digest : List UInt8 → List UInt8)

/-- A section without its key. -/
def withoutKey (block : Section) : Section :=
  { block with key := ⟨""⟩ }

/-- Sections that agree apart from their keys have the same body. -/
theorem body_of_withoutKey {left right : Section} (same : left.withoutKey = right.withoutKey) :
    left.body = right.body := by
  have bodies : left.withoutKey.body = right.withoutKey.body := congrArg body same
  exact bodies

/-- Sections that agree apart from their keys have the same title. -/
theorem title_of_withoutKey {left right : Section} (same : left.withoutKey = right.withoutKey) :
    left.title = right.title := by
  have titles : left.withoutKey.title = right.withoutKey.title := congrArg title same
  exact titles

/-- Numbering changes nothing but keys. -/
theorem withoutKey_numberKeysAfter (earlier : List Key) (sections : List Section) :
    (numberKeysAfter digest earlier sections).map withoutKey = sections.map withoutKey := by
  induction sections generalizing earlier with
  | nil => rfl
  | cons block rest inductionHypothesis =>
    rw [numberKeysAfter, List.map_cons, List.map_cons, inductionHypothesis]
    rfl

/-- A numbered section is one of the sections with another key. -/
theorem mem_numberKeysWith (sections : List Section) (block : Section)
    (member : block ∈ numberKeysWith digest sections) :
    ∃ source ∈ sections, block.withoutKey = source.withoutKey := by
  have inside : block.withoutKey ∈ sections.map withoutKey := by
    rw [← withoutKey_numberKeysAfter digest [] sections]
    exact List.mem_map_of_mem member
  obtain ⟨source, present, same⟩ := List.mem_map.mp inside
  exact ⟨source, present, same.symm⟩

end Section

namespace Entry

/-- The entries that are objects, in order. -/
def objects (entries : List Json.Value) : List Json.Members :=
  entries.filterMap Json.Value.object?

/-- Each section is made from one entry that is an object, and in their order. -/
theorem toSections_objects (entries : List Json.Value) :
    toSections entries = (objects entries).map toSection := by
  rw [toSections, objects, List.map_filterMap]

end Entry

namespace Template

/-- The titles of a mode's template, in order. -/
def titles : Mode → List String
  | .analysis => ["Code Quality Metrics", "Identified Issues", "Recommendations"]
  | .debug => ["Error Detection", "Debug Steps", "Variable State", "Solution"]

/-- A template has its sections whatever the answer holds. -/
theorem titles_sections (answer : Answer) (mode : Mode) :
    (sections answer mode).map Section.title = titles mode := by
  cases mode with
  | analysis => rfl
  | debug =>
    have first : (errorDetection answer.fault).title = "Error Detection" := by
      unfold errorDetection
      split
      · rfl
      · rfl
    rw [sections, List.map_cons, first]
    rfl

end Template

namespace Answer

/-- An answer that failed: the analysis says so itself, or it found an error where there is no
place for one, or it denies its success. -/
def IsFailure (answer : Answer) (mode : Mode) : Prop :=
  (∃ message, answer.fault = some (.failed message)) ∨
    ((∃ message, answer.fault = some (.found message)) ∧ mode = .analysis) ∨
    answer.success = some false

/-- The message of an answer's fault, of whatever kind, or the message for a fault without one. -/
def faultMessage (answer : Answer) : String :=
  (answer.fault.map Fault.message).getD unknownError

/-- The section that a failure with a message makes. -/
def reportedFailure (message : String) : Section where
  key := Section.Key.derive "Analysis Error" .text
  title := "Analysis Error"
  body := .text message
  severity := some .error
  rationale := .empty
  steps := []
  chart := []

variable (answer : Answer) (mode : Mode)

/-- A failure is told with the message of its fault. -/
theorem failure?_of_failure (failure : answer.IsFailure mode) :
    answer.failure? mode = some answer.faultMessage := by
  unfold failure? faultMessage
  rcases failure with ⟨message, fault⟩ | ⟨⟨message, fault⟩, rfl⟩ | denied
  · rw [fault]
    rfl
  · rw [fault]
    rfl
  · split
    next message fault => rw [fault]; rfl
    next message fault => rw [fault]; rfl
    next => rw [if_pos denied]

/-- Nothing else is told as a failure. -/
theorem failure?_of_not_failure (content : ¬ answer.IsFailure mode) :
    answer.failure? mode = none := by
  unfold failure?
  split
  next message fault => exact absurd (.inl ⟨message, fault⟩) content
  next message fault => exact absurd (.inr (.inl ⟨⟨message, fault⟩, rfl⟩)) content
  next => exact if_neg fun denied => content (.inr (.inr denied))

/-- A failure is told in one section, with its message. -/
theorem toSections_of_failure (failure : answer.IsFailure mode) :
    answer.toSections mode = [reportedFailure answer.faultMessage] := by
  rw [toSections, toSectionsWith, unnumberedSections, failure?_of_failure answer mode failure]
  rfl

/-- An answer that is no failure is shown by its content. -/
theorem unnumberedSections_of_not_failure (content : ¬ answer.IsFailure mode) :
    answer.unnumberedSections mode = answer.contentSections mode := by
  rw [unnumberedSections, failure?_of_not_failure answer mode content]

/-- The section of corrected code, if there is any. -/
def correction : List Section :=
  match answer.correctedCode with
  | none => []
  | some code =>
    [{ key := Section.Key.derive "Corrected Code" .code
       title := "Corrected Code"
       body := .code answer.language code
       severity := some .success
       rationale := .empty
       steps := []
       chart := [] }]

/-- The section of corrected code has a title of its own. -/
theorem title_correction (block : Section) (member : block ∈ answer.correction) :
    block.title = "Corrected Code" := by
  unfold correction at member
  split at member
  · cases member
  · rw [List.mem_singleton.mp member]

/-- The section of corrected code stands behind the answer's own sections or the template. -/
theorem contentSections_correction :
    answer.contentSections mode =
      (match answer.sections with
        | some entries => (Entry.objects entries).map Entry.toSection
        | none => Template.sections answer mode) ++ answer.correction := by
  have corrected : (answer.correctedCode.map (correctedCodeSection answer.language)).toList =
      answer.correction := by
    unfold correction
    cases answer.correctedCode with
    | none => rfl
    | some code => rfl
  rw [contentSections, corrected]
  cases answer.sections with
  | none => rfl
  | some entries => simp only [Entry.toSections_objects]

/-- Without a failure, numbering aside, the sections are those of the answer's content. -/
theorem withoutKey_toSections (content : ¬ answer.IsFailure mode) :
    (answer.toSections mode).map Section.withoutKey =
      (answer.contentSections mode).map Section.withoutKey := by
  rw [toSections, toSectionsWith, unnumberedSections_of_not_failure answer mode content]
  exact Section.withoutKey_numberKeysAfter _ _ _

/-- A failure shows its message and nothing else, so the rest of the answer does not matter. Any
other answer shows one section for each of its entries that is an object, made from this entry
alone, or else the template of the mode; behind them stands corrected code, if there is any. The
warning, the analysis and the model are never looked at. -/
theorem toSections_exact :
    (answer.IsFailure mode →
      answer.toSections mode = [reportedFailure answer.faultMessage] ∧
      ∀ other : Answer, other.fault = answer.fault → other.success = answer.success →
        other.toSections mode = answer.toSections mode) ∧
    (¬ answer.IsFailure mode →
      (∀ entries, answer.sections = some entries →
        (answer.toSections mode).map Section.withoutKey =
          ((Entry.objects entries).map Entry.toSection ++ answer.correction).map
            Section.withoutKey) ∧
      (answer.sections = none →
        (answer.toSections mode).map Section.withoutKey =
          (Template.sections answer mode ++ answer.correction).map Section.withoutKey ∧
        (Template.sections answer mode).map Section.title = Template.titles mode)) ∧
    ∀ warning analysis model,
      toSections { answer with warning, analysis, model } mode = answer.toSections mode := by
  refine ⟨?_, ?_, ?_⟩
  · intro failure
    have shown := toSections_of_failure answer mode failure
    refine ⟨shown, ?_⟩
    intro other sameFault sameSuccess
    have otherFailure : other.IsFailure mode := by
      rwa [IsFailure, sameFault, sameSuccess]
    have sameMessage : other.faultMessage = answer.faultMessage := by
      rw [faultMessage, faultMessage, sameFault]
    rw [shown, toSections_of_failure other mode otherFailure, sameMessage]
  · intro content
    have shown := withoutKey_toSections answer mode content
    rw [contentSections_correction] at shown
    refine ⟨?_, ?_⟩
    · intro entries brought
      rwa [brought] at shown
    · intro absent
      rw [absent] at shown
      exact ⟨shown, Template.titles_sections answer mode⟩
  · intro warning analysis model
    have sameContent : contentSections { answer with warning, analysis, model } mode =
        answer.contentSections mode := by
      cases mode with
      | analysis => rfl
      | debug => rfl
    rw [toSections, toSections, toSectionsWith, toSectionsWith, unnumberedSections,
      unnumberedSections, sameContent]
    rfl

end Answer

end CodeReport
