import CodeReport.Proofs.Command.Saved
import CodeReport.Proofs.Text.Letters
import CodeReport.Proofs.Viewing.History

/-!
# Sections are collapsed by their names

A section goes by its key and by its title, whose letters may be of either case. The
names on a command line are looked up in the report, and what is kept of them are the
keys of the sections that were found. Of these keys one flag each is set in the
session, whatever the names repeat.

A key could stand for a section that no name means, if two sections had it. The keys
of a report that is made from an answer are different, so exactly the sections that
are named are collapsed, and there are as many closed keys as such sections.
-/

namespace CodeReport

/-- One of some names is the key of a section, or its title in any letter case. -/
def Section.IsNamed (block : Section) (names : List String) : Prop :=
  ∃ name ∈ names,
    block.key.text = name ∨ List.Forall₂ Text.SameLetter block.title.toList name.toList

instance (block : Section) (names : List String) : Decidable (block.IsNamed names) :=
  inferInstanceAs (Decidable (∃ name ∈ names, _ ∨ _))

/-- Letters are compared one by one when a section is looked up. -/
theorem Section.isMeant_iff_isNamed (block : Section) (names : List String) :
    block.IsMeant names ↔ block.IsNamed names := by
  simp only [IsMeant, IsNamed, Text.sameLetters_iff]

/-- What is promised of a session that shows a report and is about to deliver it. -/
structure CollapsedByNames (fresh : Session) (report : Report) (names : List String) : Prop where
  /-- The report is shown, before and after sections are collapsed. -/
  shown : fresh.report = some report ∧ (fresh.closeMeant report names).report = some report
  /-- Exactly the sections that are named are collapsed, and every other one is open. -/
  closed_iff : ∀ block ∈ report.sections,
    (fresh.closeMeant report names).openness.isOpen block.key = false ↔ block.IsNamed names
  /-- There are as many closed keys as sections that are named. -/
  counted : (fresh.closeMeant report names).openness.closedCount =
    report.sections.countP fun block => decide (block.IsNamed names)
  /-- What is put out shows the report with these sections collapsed. -/
  delivered : ∀ (m : Type → Type) [Monad m] (access : Access m) (screen : Command.Screen)
    (target : Command.Target), target.collapse = names →
      Command.deliver access screen target fresh =
        Command.put access target.out
          (target.text screen report (fresh.closeMeant report names).openness)

/-- An answer that is installed is shown at once, with all its sections open. -/
theorem Session.installed_fresh (before fresh : Session) (tickets : Tickets) (ticket : Ticket)
    (answer : Answer) (mode : Mode)
    (installed : before.apply tickets ticket answer mode = (.installed, fresh)) :
    fresh = ⟨some (Report.ofAnswer answer mode), .pristine⟩ := by
  obtain ⟨decided, settled⟩ := Prod.mk.inj installed
  rw [decided] at settled
  exact settled.symm

/-- The closed keys are those of the sections that are named. -/
theorem mem_closedKeys_close (report : Report) (names : List String) (key : Section.Key) :
    key ∈ (Openness.pristine.close (names.flatMap report.keysOf)).closedKeys ↔
      ∃ block ∈ report.sections, block.key = key ∧ block.IsNamed names := by
  have untouched : Openness.pristine.isOpen key = true := rfl
  simp only [Openness.mem_closedKeys, Openness.isOpen_close, mem_keysOf, untouched,
    Section.isMeant_iff_isNamed]
  split
  · rename_i found
    exact iff_of_true rfl found
  · rename_i unfound
    exact iff_of_false Bool.noConfusion unfound

/-- If keys are different, there are as many closed keys as sections that are named. -/
theorem closedCount_close (report : Report) (names : List String) (distinct : report.keys.Nodup) :
    (Openness.pristine.close (names.flatMap report.keysOf)).closedCount =
      report.sections.countP fun block => decide (block.IsNamed names) := by
  let named := report.sections.filter fun block => decide (block.IsNamed names)
  have keys : (Openness.pristine.close (names.flatMap report.keysOf)).closedKeys =
      (named.map Section.key).toFinset := by
    ext key
    rw [mem_closedKeys_close, List.mem_toFinset, List.mem_map]
    constructor
    · rintro ⟨block, member, same, isNamed⟩
      exact ⟨block, List.mem_filter.mpr ⟨member, decide_eq_true isNamed⟩, same⟩
    · rintro ⟨block, found, same⟩
      obtain ⟨member, isNamed⟩ := List.mem_filter.mp found
      exact ⟨block, member, same, of_decide_eq_true isNamed⟩
  have different : (named.map Section.key).Nodup :=
    distinct.sublist (List.filter_sublist.map Section.key)
  rw [← Openness.card_closedKeys, keys, List.toFinset_card_of_nodup different, List.length_map,
    List.countP_eq_length_filter]

/-- For every answer, mode and list of names, which may be in any order, come again, and mean one
section, several or none: of a report that was just installed exactly the sections are collapsed
that one of the names means, by key or by title in any letter case. Their number is the number of
closed keys, and it is this session that is put out.

Proof: an installation leaves no flags. The keys that are set are those of the sections that were
found, and a key leads back to one section only. -/
theorem collapsed_by_names (before fresh : Session) (tickets : Tickets) (ticket : Ticket)
    (answer : Answer) (mode : Mode) (names : List String)
    (installed : before.apply tickets ticket answer mode = (.installed, fresh)) :
    CollapsedByNames fresh (Report.ofAnswer answer mode) names := by
  obtain rfl := Session.installed_fresh before fresh tickets ticket answer mode installed
  have distinct : (Report.ofAnswer answer mode).keys.Nodup := Report.nodup_keys answer mode
  have closed := closedByWords_close (Report.ofAnswer answer mode) names distinct
  constructor
  · exact ⟨rfl, rfl⟩
  · intro block member
    rw [← Section.isMeant_iff_isNamed]
    exact closed.meant block member
  · exact closedCount_close (Report.ofAnswer answer mode) names distinct
  · rintro m _ access screen target rfl
    rfl

/-- Two sections with one title, and a third one. -/
def repeated : Answer :=
  { Answer.empty with
    sections := some <| ["Setup", "Notes", "Setup"].map fun title =>
      .object [("title", .string title)] }

/-- One name closes both sections with its title. Names without meaning or repeated close none. -/
theorem repeated_collapsed :
    let names := ["sETUP", "nope", "setup"]
    let fresh := Session.ofAnswer repeated .analysis
    let report := Report.ofAnswer repeated .analysis
    Session.empty.apply Tickets.none.issue Tickets.none.next repeated .analysis =
        (.installed, fresh) ∧
      (fresh.closeMeant report names).openness.closedCount = 2 ∧
      CollapsedByNames fresh report names := by
  intro names fresh report
  have installed : Session.empty.apply Tickets.none.issue Tickets.none.next repeated .analysis =
      (.installed, fresh) := rfl
  have collapsed : CollapsedByNames fresh report names :=
    collapsed_by_names .empty fresh _ _ repeated .analysis names installed
  refine ⟨installed, ?_, collapsed⟩
  rw [collapsed.counted]
  decide +kernel

end CodeReport
