import CodeReport.Proofs.Assembly.Outcome

/-!
# Keys stay with their sections

What a reader has opened or closed is remembered by keys, so a key must not move
when a section's content changes. The key of an entry's section depends on the
headings of the entries up to it, and a heading is the title and the declared kind
as they are read. A body that could not be made keeps the kind it was declared with.

Numbers count equal base keys only. Entries behind a section therefore leave its
key as it is, and so does an entry anywhere whose base key no other section has.
-/

namespace CodeReport

namespace Section

/-- The keys of sections with given base keys, where `earlier` are the base keys of the sections
before them. -/
def Key.numbered (earlier : List Key) : List Key → List Key
  | [] => []
  | base :: rest =>
    base.withOccurrence (earlier.count base + 1) :: numbered (base :: earlier) rest

namespace Key

/-- Each base key gives one key. -/
theorem length_numbered (earlier bases : List Key) :
    (numbered earlier bases).length = bases.length := by
  induction bases generalizing earlier with
  | nil => rfl
  | cons base rest inductionHypothesis =>
    rw [numbered, List.length_cons, List.length_cons, inductionHypothesis]

/-- Only the sections before a section count for its key. -/
theorem numbered_append (earlier first second : List Key) :
    numbered earlier (first ++ second) =
      numbered earlier first ++ numbered (first.reverse ++ earlier) second := by
  induction first generalizing earlier with
  | nil => rfl
  | cons base rest inductionHypothesis => simp [numbered, inductionHypothesis]

/-- Only the sections with its own base key count for a key. -/
theorem numbered_congr (earlier others bases : List Key)
    (same : ∀ key ∈ bases, earlier.count key = others.count key) :
    numbered earlier bases = numbered others bases := by
  induction bases generalizing earlier others with
  | nil => rfl
  | cons base rest inductionHypothesis =>
    have counted : earlier.count base = others.count base := same base List.mem_cons_self
    have later : numbered (base :: earlier) rest = numbered (base :: others) rest := by
      refine inductionHypothesis _ _ ?_
      intro key member
      rw [List.count_cons, List.count_cons, same key (List.mem_cons_of_mem base member)]
    rw [numbered, numbered, counted, later]

/-- A base key of its own, put in anywhere, changes no other key. -/
theorem numbered_insert (before after : List Key) (base : Key) (new : base ∉ after) :
    ∃ key back, numbered [] (before ++ base :: after) = numbered [] before ++ key :: back ∧
      numbered [] (before ++ after) = numbered [] before ++ back := by
  refine ⟨_, _, numbered_append [] before (base :: after), ?_⟩
  rw [numbered_append]
  congr 1
  refine numbered_congr _ _ _ ?_
  intro key member
  have differs : base ≠ key := by
    rintro rfl
    exact new member
  rw [List.count_cons_of_ne differs]

end Key

variable (digest : List UInt8 → List UInt8)

/-- The keys of numbered sections are made of their base keys alone. -/
theorem keys_numberKeysAfter (earlier : List Key) (sections : List Section) :
    (numberKeysAfter digest earlier sections).map Section.key =
      Key.numbered earlier (sections.map (baseKeyWith digest)) := by
  induction sections generalizing earlier with
  | nil => rfl
  | cons block rest inductionHypothesis =>
    rw [numberKeysAfter, List.map_cons, List.map_cons, inductionHypothesis]
    rfl

/-- Numbering leaves base keys as they are. -/
theorem baseKeys_numberKeysAfter (earlier : List Key) (sections : List Section) :
    (numberKeysAfter digest earlier sections).map (baseKeyWith digest) =
      sections.map (baseKeyWith digest) := by
  induction sections generalizing earlier with
  | nil => rfl
  | cons block rest inductionHypothesis =>
    rw [numberKeysAfter, List.map_cons, List.map_cons, inductionHypothesis]
    rfl

end Section

namespace Entry

/-- What an entry is known by: its title and its kind, as they are read. -/
def heading (entry : Json.Members) : String × Section.Kind :=
  ((entry.verbatimText? "title").getD untitled, kindOf entry)

/-- The body that is made of a table is of its kind, even if it is degraded. -/
theorem kind_tableBody (entry : Json.Members) : (tableBody entry).kind = .table := by
  unfold tableBody
  split
  · rfl
  · rfl

/-- Every body has the kind that its entry declares, also the one that stands in for it. -/
theorem kind_bodyOf (entry : Json.Members) : (bodyOf entry).kind = kindOf entry := by
  unfold bodyOf
  cases kindOf entry with
  | table => exact kind_tableBody entry
  | _ =>
    dsimp only
    split
    · rfl
    · rfl

example :
    let broken : Json.Members := [("type", .string "list"), ("content", .object [])]
    let whole : Json.Members := [("type", .string " LIST "), ("content", .array [])]
    (bodyOf broken).isDegraded = true ∧ (bodyOf whole).isDegraded = false ∧
      heading broken = heading whole := by
  decide

/-- The base key of an entry's section is made of its heading. -/
theorem baseKey_toSection (entry : Json.Members) :
    (toSection entry).baseKey = Section.Key.derive (heading entry).1 (heading entry).2 := by
  have kind : (toSection entry).kind = kindOf entry := kind_bodyOf entry
  rw [Section.baseKey, Section.baseKeyWith, kind]
  rfl

/-- The base keys of the sections that some entries make, in order. -/
def baseKeys (entries : List Json.Value) : List Section.Key :=
  (objects entries).map fun entry => (toSection entry).baseKey

/-- Each entry that is an object has one base key. -/
theorem length_baseKeys (entries : List Json.Value) :
    (baseKeys entries).length = (objects entries).length :=
  List.length_map _

/-- The base keys of entries in two lists are those of the first and then those of the second. -/
theorem baseKeys_append (before after : List Json.Value) :
    baseKeys (before ++ after) = baseKeys before ++ baseKeys after := by
  rw [baseKeys, objects, List.filterMap_append, List.map_append]
  rfl

/-- Entries with the same headings have the same base keys. -/
theorem baseKeys_headings (left right : List Json.Value)
    (same : (objects left).map heading = (objects right).map heading) :
    baseKeys left = baseKeys right := by
  have derived (entries : List Json.Value) : baseKeys entries =
      ((objects entries).map heading).map fun heading =>
        Section.Key.derive heading.1 heading.2 := by
    rw [baseKeys, List.map_map]
    exact List.map_congr_left fun entry _ => baseKey_toSection entry
  rw [derived left, derived right, same]

end Entry

namespace Answer

/-- The keys of an answer's sections, in order. -/
def keys (answer : Answer) (mode : Mode) : List Section.Key :=
  (answer.toSections mode).map Section.key

/-- The base key of corrected code does not depend on the code. -/
theorem baseKey_correction (answer : Answer) :
    answer.correction.map Section.baseKey =
      if answer.correctedCode.isSome then [Section.Key.derive "Corrected Code" .code] else [] := by
  unfold correction
  cases answer.correctedCode with
  | none => rfl
  | some code => rfl

variable {answer : Answer} {mode : Mode} {entries : List Json.Value}

/-- The base keys of an answer are those of its entries and then that of its correction. -/
theorem baseKeys_contentSections (brought : answer.sections = some entries) :
    (answer.contentSections mode).map Section.baseKey =
      Entry.baseKeys entries ++ answer.correction.map Section.baseKey := by
  rw [contentSections_correction, brought, List.map_append]
  simp only [List.map_map]
  rfl

/-- Without a failure, numbering aside, the base keys are those of the answer's content. -/
theorem baseKeys_toSections (content : ¬ answer.IsFailure mode)
    (brought : answer.sections = some entries) :
    (answer.toSections mode).map Section.baseKey =
      Entry.baseKeys entries ++ answer.correction.map Section.baseKey := by
  rw [← baseKeys_contentSections brought, toSections, toSectionsWith,
    unnumberedSections_of_not_failure answer mode content]
  exact Section.baseKeys_numberKeysAfter _ _ _

/-- The keys of an answer that brings its sections. -/
theorem keys_of_entries (content : ¬ answer.IsFailure mode)
    (brought : answer.sections = some entries) :
    answer.keys mode =
      Section.Key.numbered []
        (Entry.baseKeys entries ++ answer.correction.map Section.baseKey) := by
  rw [keys, toSections, toSectionsWith, unnumberedSections_of_not_failure answer mode content,
    Section.numberKeysWith, Section.keys_numberKeysAfter]
  exact congrArg _ (baseKeys_contentSections brought)

/-- The keys of the first entries come first, and depend on their base keys alone. -/
theorem prefix_keys (content : ¬ answer.IsFailure mode) (first more : List Json.Value)
    (brought : answer.sections = some (first ++ more)) :
    Section.Key.numbered [] (Entry.baseKeys first) <+: answer.keys mode := by
  rw [keys_of_entries content brought, Entry.baseKeys_append, List.append_assoc,
    Section.Key.numbered_append]
  exact List.prefix_append _ _

/-- An entry that is put in somewhere moves no key, unless another section has its base key. -/
theorem keys_insert {shorter longer : Answer} (shorterContent : ¬ shorter.IsFailure mode)
    (longerContent : ¬ longer.IsFailure mode) (before after : List Json.Value)
    (entry : Json.Members) (brought : shorter.sections = some (before ++ after))
    (longerBrought : longer.sections = some (before ++ .object entry :: after))
    (sameCorrection : shorter.correctedCode.isSome = longer.correctedCode.isSome)
    (distinct : ∀ block ∈ shorter.toSections mode,
      block.baseKey ≠ (Entry.toSection entry).baseKey) :
    ∃ front key back, longer.keys mode = front ++ key :: back ∧
      shorter.keys mode = front ++ back ∧ front.length = (Entry.objects before).length := by
  have shorterKeys : shorter.keys mode = Section.Key.numbered []
      (Entry.baseKeys before ++
        (Entry.baseKeys after ++ shorter.correction.map Section.baseKey)) := by
    rw [keys_of_entries shorterContent brought, Entry.baseKeys_append, List.append_assoc]
  have longerKeys : longer.keys mode = Section.Key.numbered []
      (Entry.baseKeys before ++ (Entry.toSection entry).baseKey ::
        (Entry.baseKeys after ++ shorter.correction.map Section.baseKey)) := by
    rw [keys_of_entries longerContent longerBrought, Entry.baseKeys_append, List.append_assoc,
      baseKey_correction, baseKey_correction, sameCorrection]
    rfl
  have new : (Entry.toSection entry).baseKey ∉
      Entry.baseKeys after ++ shorter.correction.map Section.baseKey := by
    intro again
    have inside : (Entry.toSection entry).baseKey ∈
        (shorter.toSections mode).map Section.baseKey := by
      rw [baseKeys_toSections shorterContent brought, Entry.baseKeys_append, List.append_assoc]
      exact List.mem_append_right _ again
    obtain ⟨block, member, same⟩ := List.mem_map.mp inside
    exact distinct block member same
  obtain ⟨key, back, inserted, kept⟩ := Section.Key.numbered_insert (Entry.baseKeys before) _ _ new
  refine ⟨_, key, back, longerKeys.trans inserted, shorterKeys.trans kept, ?_⟩
  rw [Section.Key.length_numbered, Entry.length_baseKeys]

/-- Keys do not move. Entries with the same headings get the same keys, whatever else they hold.
Entries that are put behind others leave the keys of these as they are. An entry with a base key of
its own, put in anywhere, leaves the keys of all other sections as they are. -/
theorem keys_stable :
    (∀ (left right : Answer) (leftMode rightMode : Mode)
      (leftEntries rightEntries : List Json.Value),
      ¬ left.IsFailure leftMode → ¬ right.IsFailure rightMode →
      left.sections = some leftEntries → right.sections = some rightEntries →
      (Entry.objects leftEntries).map Entry.heading =
        (Entry.objects rightEntries).map Entry.heading →
      (∃ shared, shared.length = (Entry.objects leftEntries).length ∧
        shared <+: left.keys leftMode ∧ shared <+: right.keys rightMode) ∧
      (left.correctedCode.isSome = right.correctedCode.isSome →
        left.keys leftMode = right.keys rightMode)) ∧
    (∀ (shorter longer : Answer) (mode : Mode) (entries more : List Json.Value),
      ¬ shorter.IsFailure mode → ¬ longer.IsFailure mode →
      shorter.sections = some entries → longer.sections = some (entries ++ more) →
      ∃ shared, shared.length = (Entry.objects entries).length ∧
        shared <+: shorter.keys mode ∧ shared <+: longer.keys mode) ∧
    ∀ (shorter longer : Answer) (mode : Mode) (before after : List Json.Value)
      (entry : Json.Members),
      ¬ shorter.IsFailure mode → ¬ longer.IsFailure mode →
      shorter.sections = some (before ++ after) →
      longer.sections = some (before ++ .object entry :: after) →
      shorter.correctedCode.isSome = longer.correctedCode.isSome →
      (∀ block ∈ shorter.toSections mode, block.baseKey ≠ (Entry.toSection entry).baseKey) →
      ∃ front key back, longer.keys mode = front ++ key :: back ∧
        shorter.keys mode = front ++ back ∧ front.length = (Entry.objects before).length := by
  have counted (entries : List Json.Value) :
      (Section.Key.numbered [] (Entry.baseKeys entries)).length =
        (Entry.objects entries).length := by
    rw [Section.Key.length_numbered, Entry.length_baseKeys]
  refine ⟨?_, ?_, ?_⟩
  · intro left right leftMode rightMode leftEntries rightEntries leftContent rightContent
      leftBrought rightBrought sameHeadings
    have sameBases := Entry.baseKeys_headings leftEntries rightEntries sameHeadings
    have leftPrefix := prefix_keys leftContent leftEntries [] (by simpa using leftBrought)
    have rightPrefix := prefix_keys rightContent rightEntries [] (by simpa using rightBrought)
    refine ⟨⟨_, counted leftEntries, leftPrefix, sameBases ▸ rightPrefix⟩, ?_⟩
    intro sameCorrection
    rw [keys_of_entries leftContent leftBrought, keys_of_entries rightContent rightBrought,
      sameBases, baseKey_correction, baseKey_correction, sameCorrection]
  · intro shorter longer mode entries more shorterContent longerContent brought longerBrought
    have shorterPrefix := prefix_keys shorterContent entries [] (by simpa using brought)
    exact ⟨_, counted entries, shorterPrefix, prefix_keys longerContent entries more longerBrought⟩
  · intro shorter longer mode before after entry shorterContent longerContent brought
      longerBrought sameCorrection distinct
    exact keys_insert shorterContent longerContent before after entry brought longerBrought
      sameCorrection distinct

end Answer

end CodeReport
