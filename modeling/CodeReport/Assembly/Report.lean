import CodeReport.Assembly.Entry
import CodeReport.Assembly.Keys
import CodeReport.Assembly.Template

/-!
# From answers to reports

The report of an answer in a mode. An answer that failed makes one section that
says so and nothing else. Otherwise the sections are those that the answer
brings, or the template of the mode if it brings none, and corrected code comes
last. A found error is a failure in analysis mode, which has no place for it.
-/

namespace CodeReport

namespace Answer

/-- The message of the failure that an answer is, if it is one. A fault that is no failure by
    itself becomes one when the answer says that it did not succeed. -/
def failure? (answer : Answer) (mode : Mode) : Option String :=
  match answer.fault, mode with
  | some (.failed message), _ => some message
  | some (.found message), .analysis => some message
  | fault, _ =>
    if answer.success = some false then some ((fault.map Fault.message).getD unknownError)
    else none

/-- The section for a failure. -/
def failureSection (message : String) : Section :=
  { Section.ofBody "Analysis Error" (.text message) with severity := some .error }

/-- The section for corrected code. -/
def correctedCodeSection (language : Option String) (code : String) : Section :=
  { Section.ofBody "Corrected Code" (.code language code) with severity := some .success }

/-- The sections of an answer that is no failure, with base keys. -/
def contentSections (answer : Answer) (mode : Mode) : List Section :=
  (match answer.sections with
    | some entries => Entry.toSections entries
    | none => Template.sections answer mode) ++
  (answer.correctedCode.map (correctedCodeSection answer.language)).toList

/-- The sections of an answer, with base keys. -/
def unnumberedSections (answer : Answer) (mode : Mode) : List Section :=
  match answer.failure? mode with
  | some message => [failureSection message]
  | none => answer.contentSections mode

/-- The sections of an answer, with keys under a digest. -/
def toSectionsWith (digest : List UInt8 → List UInt8) (answer : Answer) (mode : Mode) :
    List Section :=
  Section.numberKeysWith digest (answer.unnumberedSections mode)

/-- The sections of an answer. -/
def toSections (answer : Answer) (mode : Mode) : List Section :=
  answer.toSectionsWith Digest.sha256 mode

end Answer

/-- The report of an answer. -/
def Report.ofAnswer (answer : Answer) (mode : Mode) : Report where
  title := mode.reportTitle
  introduction := answer.analysis.getD mode.defaultIntroduction
  mode := mode
  warning := answer.warning
  model := answer.model
  sections := answer.toSections mode

end CodeReport
