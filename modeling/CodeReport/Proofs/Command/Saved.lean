import CodeReport.Command.Reporting
import CodeReport.Proofs.Files.Writing
import CodeReport.Proofs.Keys.Distinct
import Mathlib.Data.List.Nodup

/-!
# Showing a saved answer is all or nothing

What is shown of an answer that was saved is decided by one reading of its file.
If there is no answer in it, the world stays as it is. Otherwise there is a
report, and it is put out at once: printed as a whole, or written to one file as
a whole. No failure comes after a part of it.
-/

namespace CodeReport

open FileTree (Written)

/-- What a file that should hold an answer brings. -/
inductive Loads (files : FileTree) (path : String) : Except Command.Failure Answer → Prop where
  /-- There is no file, or it cannot be read. -/
  | unread (fault : FileFault) (fails : files.read path = .error fault) :
      Loads files path (.error (.unreadableAnswer path fault))
  /-- The bytes in the file are not those of a text. -/
  | noText (bytes : Bytes) (reads : files.read path = .ok bytes)
      (foreign : ∀ text, bytesOfText text ≠ bytes) :
      Loads files path (.error (.unreadableAnswer path .notText))
  | noJson (text : String) (error : Json.ReadError)
      (reads : files.read path = .ok (bytesOfText text))
      (refused : Json.Value.ofText text = .error error) :
      Loads files path (.error (.noJson path error))
  | answer (text : String) (value : Json.Value)
      (reads : files.read path = .ok (bytesOfText text))
      (parsed : Json.Value.ofText text = .ok value) :
      Loads files path (.ok (Answer.ofJson value))

/-- Whether one of some words means a section: its key, or its title in any letter case. -/
def Section.IsMeant (block : Section) (words : List String) : Prop :=
  ∃ word ∈ words, block.key.text = word ∨ Text.sameLetters block.title word = true

/-- Exactly the sections of a report that some words mean are closed. -/
structure ClosedByWords (report : Report) (words : List String) (openness : Openness) : Prop where
  meant : ∀ block ∈ report.sections, openness.isOpen block.key = false ↔ block.IsMeant words
  others : ∀ key, key ∉ report.keys → openness.isOpen key = true

/-- How a report is put out, with the world before and after it. -/
inductive Delivered (screen : Command.Screen) (target : Command.Target) (report : Report)
    (openness : Openness) (before : World) : Except Command.Failure Unit → World → Prop where
  | printed (unnamed : target.out = none) :
      Delivered screen target report openness before (.ok ())
        { before with
          printed := before.printed ++
            report.render openness (screen.colour && screen.terminal) target.format }
  /-- A file holds the text without colours, whatever the screen. -/
  | written (out : String) (location : List String) (files : FileTree)
      (named : target.out = some out)
      (kept : Written before.files out
        (bytesOfText (report.render openness false target.format)) files location) :
      Delivered screen target report openness before (.ok ()) { before with files }
  | unwritable (out : String) (fault : FileFault) (named : target.out = some out)
      (refused : before.files.target out = .error fault) :
      Delivered screen target report openness before (.error (.unwritable out fault)) before

/-- Of a file with a text the text is parsed. -/
theorem Command.answerOfFile_text (path text : String) :
    answerOfFile path (.ok (bytesOfText text)) =
      ((Json.Value.ofText text).map Answer.ofJson).mapError (.noJson path) := by
  have decoded : (Except.ok (bytesOfText text)).bind textOfBytes = .ok text :=
    textOfBytes_bytesOfText text
  rw [answerOfFile, decoded]
  rfl

/-- Of a file without a text nothing is parsed. -/
theorem Command.answerOfFile_foreign (path : String) (bytes : Bytes)
    (foreign : ∀ text, bytesOfText text ≠ bytes) :
    answerOfFile path (.ok bytes) = .error (.unreadableAnswer path .notText) := by
  have undecoded : (Except.ok bytes).bind textOfBytes = .error .notText :=
    textOfBytes_foreign bytes foreign
  rw [answerOfFile, undecoded]

/-- What a file brings is what is made of it, and nothing else. -/
theorem loads_iff (files : FileTree) (path : String) (outcome : Except Command.Failure Answer) :
    Loads files path outcome ↔ outcome = Command.answerOfFile path (files.read path) := by
  constructor
  · intro loads
    cases loads with
    | unread fault fails =>
      rw [fails]
      rfl
    | noText bytes reads foreign => rw [reads, Command.answerOfFile_foreign path bytes foreign]
    | noJson text error reads refused =>
      rw [reads, Command.answerOfFile_text, refused]
      rfl
    | answer text value reads parsed =>
      rw [reads, Command.answerOfFile_text, parsed]
      rfl
  · rintro rfl
    cases reads : files.read path with
    | error fault => exact .unread fault reads
    | ok bytes =>
      by_cases isText : ∃ text, bytesOfText text = bytes
      · obtain ⟨text, rfl⟩ := isText
        rw [Command.answerOfFile_text]
        cases parsed : Json.Value.ofText text with
        | error error => exact .noJson text error reads parsed
        | ok value => exact .answer text value reads parsed
      · have foreign := not_exists.mp isText
        rw [Command.answerOfFile_foreign path bytes foreign]
        exact .noText bytes reads foreign

/-- The keys that a word means are those of the sections that it means. -/
theorem mem_keysOf (report : Report) (words : List String) (key : Section.Key) :
    key ∈ words.flatMap report.keysOf ↔
      ∃ block ∈ report.sections, block.key = key ∧ block.IsMeant words := by
  simp only [List.mem_flatMap, Report.keysOf, List.mem_map, List.mem_filter, Bool.or_eq_true,
    beq_iff_eq, Section.IsMeant]
  constructor
  · rintro ⟨word, given, block, ⟨member, means⟩, same⟩
    exact ⟨block, member, same, word, given, means⟩
  · rintro ⟨block, member, same, word, given, means⟩
    exact ⟨word, given, block, ⟨member, means⟩, same⟩

/-- If keys are different, what words mean is closed and the rest stays open. -/
theorem closedByWords_close (report : Report) (words : List String)
    (distinct : report.keys.Nodup) :
    ClosedByWords report words (Openness.pristine.close (words.flatMap report.keysOf)) where
  meant := by
    intro block member
    rw [Openness.isOpen_close]
    constructor
    · intro closed
      split at closed
      · rename_i listed
        obtain ⟨other, otherMember, same, means⟩ := (mem_keysOf report words block.key).mp listed
        have equal : other = block := List.inj_on_of_nodup_map distinct otherMember member same
        exact equal ▸ means
      · cases closed
    · intro means
      rw [if_pos ((mem_keysOf report words block.key).mpr ⟨block, member, rfl, means⟩)]
  others := by
    intro key foreign
    have unlisted : key ∉ words.flatMap report.keysOf := by
      intro listed
      obtain ⟨block, member, rfl, _⟩ := (mem_keysOf report words key).mp listed
      exact foreign (List.mem_map_of_mem member)
    rw [Openness.isOpen_close, if_neg unlisted]
    rfl

namespace Command

/-- An answer that was saved is read at once, and put out at once if it is there. -/
theorem renderSaved_steps {m : Type → Type} [Monad m] [LawfulMonad m] (access : Access m)
    (screen : Screen) (path : String) (mode : Mode) (target : Target) :
    renderSaved access screen path mode target = (do
      match answerOfFile path (← access.read path) with
      | .error failure => return .error failure
      | .ok answer =>
        let report := Report.ofAnswer answer mode
        put access target.out <| target.text screen report <|
          Openness.pristine.close (target.collapse.flatMap report.keysOf)) := by
  simp only [renderSaved, loadAnswer, bind_assoc, pure_bind]
  congr 1

/-- A text that is written to a file is there as a whole, or nothing is written. -/
theorem delivered_write (screen : Screen) (target : Target) (report : Report) (openness : Openness)
    (world : World) (out : String) (named : target.out = some out) :
    let bytes := bytesOfText (report.render openness false target.format)
    Delivered screen target report openness world
      ((world.write out bytes).1.mapError (.unwritable out)) (world.write out bytes).2 := by
  intro bytes
  cases written : world.files.write out bytes with
  | ok files =>
    have done : world.write out bytes = (.ok (), { world with files }) := by
      rw [World.write, written]
    obtain ⟨location, kept⟩ := FileTree.written_of_write world.files out bytes files written
    rw [done]
    exact .written out location files named kept
  | error fault =>
    have failed : world.write out bytes = (.error fault, world) := by
      rw [World.write, written]
    have refused : world.files.target out = .error fault := by
      cases aimed : world.files.target out with
      | error other => simpa [FileTree.write, aimed, Except.map] using written
      | ok location => simp [FileTree.write, aimed, Except.map] at written
    rw [failed]
    exact .unwritable out fault named refused

/-- A text is put out as a whole, or it is not put out. -/
theorem delivered_put (screen : Screen) (target : Target) (report : Report) (openness : Openness)
    (world : World) :
    let result := (put World.access target.out (target.text screen report openness)).run world
    Delivered screen target report openness world result.1 result.2 := by
  cases out : target.out with
  | none =>
    have colour : target.colour screen = (screen.colour && screen.terminal) := by
      simp [Target.colour, out]
    rw [Target.text, colour]
    exact .printed out
  | some path =>
    have plain : target.colour screen = false := by
      simp [Target.colour, out]
    rw [Target.text, plain]
    exact delivered_write screen target report openness world path out

/-- What becomes of a world when a saved answer is shown. -/
theorem renderSaved_run (screen : Screen) (path : String) (mode : Mode) (target : Target)
    (world : World) :
    (renderSaved World.access screen path mode target).run world =
      match answerOfFile path (world.files.read path) with
      | .error failure => (.error failure, world)
      | .ok answer =>
        let report := Report.ofAnswer answer mode
        (put World.access target.out <| target.text screen report <|
          Openness.pristine.close (target.collapse.flatMap report.keysOf)).run world := by
  have read : (World.access.read path).run world = pure (world.files.read path, world) := rfl
  rw [renderSaved_steps, StateT.run_bind, read, pure_bind]
  cases answerOfFile path (world.files.read path) with
  | error failure => rfl
  | ok answer => rfl

end Command

/-- Showing a saved answer is all or nothing, for all files, paths, modes, targets and screens.

Either the file brings no answer; then the failure says so, and no file is changed and nothing is
printed. Or it brings an answer, be it one that reports an error of the service; then there is a
report, and it is put out as a whole: with exactly the sections closed that the words of the target
mean, printed or in the one file that is named, without colours there. A session that shows nothing
is never met.

Proof: the answer is read at once and installed under the latest ticket, so the session shows its
report. The words are looked up in that report, and closing their keys closes the sections that they
mean, since keys are different. What is left is one text that is put out at once. -/
theorem saved_all_or_nothing (screen : Command.Screen) (path : String) (mode : Mode)
    (target : Command.Target) (world : World) :
    let result := (Command.renderSaved World.access screen path mode target).run world
    result.1 ≠ .error .noReport ∧
      ((∃ failure, Loads world.files path (.error failure) ∧ result = (.error failure, world)) ∨
        ∃ answer openness, Loads world.files path (.ok answer) ∧
          ClosedByWords (Report.ofAnswer answer mode) target.collapse openness ∧
          Delivered screen target (Report.ofAnswer answer mode) openness world
            result.1 result.2) := by
  intro result
  have loads := (loads_iff world.files path _).mpr rfl
  have ran : result = _ := Command.renderSaved_run screen path mode target world
  cases loaded : Command.answerOfFile path (world.files.read path) with
  | error failure =>
    rw [loaded] at loads ran
    refine ⟨?_, .inl ⟨failure, loads, ran⟩⟩
    rw [ran]
    rintro ⟨⟩
    cases loads
  | ok answer =>
    let report := Report.ofAnswer answer mode
    let openness := Openness.pristine.close (target.collapse.flatMap report.keysOf)
    rw [loaded] at loads ran
    have closed : ClosedByWords report target.collapse openness :=
      closedByWords_close report target.collapse (Report.nodup_keys answer mode)
    have delivered : Delivered screen target report openness world result.1 result.2 := by
      rw [ran]
      exact Command.delivered_put screen target report openness world
    refine ⟨?_, .inr ⟨answer, openness, loads, closed, delivered⟩⟩
    intro nothing
    rw [nothing] at delivered
    cases delivered

/-- An answer is read under an absolute path, and its report is put into a directory that holds
nothing yet. -/
theorem saved_under_root :
    let files : FileTree :=
      ⟨[(["answers", "a.json"], bytesOfText "\x7b\x7d")], [["reports"]], ["home", "work"]⟩
    let result := (Command.renderSaved World.access ⟨true, true⟩ "/answers/a.json" .analysis
      ⟨.html, some "/reports/a.html", []⟩).run (.ofFiles files)
    ∃ answer openness, ClosedByWords (Report.ofAnswer answer .analysis) [] openness ∧
      result.1 = .ok () ∧
      result.2.files.read "/reports/a.html" =
        .ok (bytesOfText ((Report.ofAnswer answer .analysis).render openness false .html)) := by
  intro files result
  have reads : files.read "/answers/a.json" = .ok (bytesOfText "\x7b\x7d") := by decide +kernel
  have aimed : files.target "/reports/a.html" = .ok ["reports", "a.html"] := by decide +kernel
  obtain ⟨-, settled⟩ := saved_all_or_nothing ⟨true, true⟩ "/answers/a.json" .analysis
    ⟨.html, some "/reports/a.html", []⟩ (.ofFiles files)
  rcases settled with ⟨failure, loads, -⟩ | ⟨answer, openness, -, closed, delivered⟩
  · have failed := (loads_iff files _ _).mp loads
    rw [reads, Command.answerOfFile_text] at failed
    cases failed
  · refine ⟨answer, openness, closed, ?_⟩
    change Delivered _ _ _ _ _ result.1 result.2 at delivered
    generalize result.1 = outcome, result.2 = after at delivered ⊢
    cases delivered with
    | printed unnamed => cases unnamed
    | written out location written named kept =>
      obtain rfl := Option.some.inj named
      exact ⟨rfl, kept.found⟩
    | unwritable out fault named refused =>
      obtain rfl := Option.some.inj named
      cases aimed.symm.trans refused

end CodeReport
