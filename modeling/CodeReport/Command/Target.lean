import CodeReport.Command.Screen
import CodeReport.Output.Format
import CodeReport.Text.Letters
import CodeReport.Viewing.Session

/-!
# Targets

A target says in which format a report is shown, where it goes and which of its
sections are collapsed. A section is meant by its key, or by its title in any
letter case; one word may mean several sections, or none.

Text is coloured only for a terminal: never in a file, nor where the printed
text goes elsewhere.
-/

namespace CodeReport

/-- The keys of the sections that a word means. -/
def Report.keysOf (report : Report) (word : String) : List Section.Key :=
  (report.sections.filter fun block =>
    block.key.text == word || Text.sameLetters block.title word).map Section.key

/-- The session with the sections closed that some words mean. -/
def Session.closeMeant (session : Session) (report : Report) (words : List String) : Session :=
  session.close (words.flatMap report.keysOf)

namespace Command

/-- How a report is shown and where it goes. -/
structure Target where
  format : Format
  /-- The file for the report, which is printed if there is none. -/
  out : Option String
  /-- Words for the sections to collapse. -/
  collapse : List String
  deriving Repr, DecidableEq

/-- Whether a target's text is coloured. -/
def Target.colour (target : Target) (screen : Screen) : Bool :=
  screen.colour && target.out.isNone && screen.terminal

/-- The text of a report for a target. -/
def Target.text (target : Target) (screen : Screen) (report : Report) (openness : Openness) :
    String :=
  report.render openness (target.colour screen) target.format

end Command

end CodeReport
