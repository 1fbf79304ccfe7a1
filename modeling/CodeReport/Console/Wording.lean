import CodeReport.Console.Sequence
import CodeReport.Console.Style

/-!
# Words with emphasis

A wording is a row of words, some of which stand in styles. Where colours are
wanted it is shown with them. Anywhere else it is plain text: words that come
from outside may bring sequences of their own, and those are left out with the
others.
-/

namespace CodeReport.Console

/-- Words that stand in styles, or in none. -/
structure Words where
  styles : List Style
  text : String
  deriving Repr, DecidableEq

namespace Words

/-- Words without a style. -/
instance : Coe String Words := ⟨fun text => ⟨[], text⟩⟩

/-- The heading of a part. -/
def heading (text : String) : Words := ⟨[.bold, .underlined], text⟩

/-- What is to be written as it stands. -/
def literal (text : String) : Words := ⟨[.bold], text⟩

/-- What is at fault. -/
def fault (text : String) : Words := ⟨[.yellow], text⟩

/-- What announces an error. -/
def alarm (text : String) : Words := ⟨[.bold, .red], text⟩

/-- The words between the sequences of their styles. -/
def coloured (words : Words) : String :=
  if words.styles.isEmpty then words.text
  else
    String.ofList (words.styles.flatMap Style.start) ++ words.text ++ String.ofList Style.reset

end Words

/-- A text with emphasis. -/
abbrev Wording := List Words

namespace Wording

/-- The text without regard to styles. -/
def text (wording : Wording) : String :=
  String.join (wording.map Words.text)

/-- The text with its styles. -/
def coloured (wording : Wording) : String :=
  String.join (wording.map Words.coloured)

/-- How a wording is shown. -/
def shown (colour : Bool) (wording : Wording) : String :=
  if colour then wording.coloured else plain wording.coloured

end Wording

end CodeReport.Console
