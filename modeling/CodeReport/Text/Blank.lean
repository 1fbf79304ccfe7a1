/-!
# Blank characters

The characters that Unicode gives the property `White_Space`, and trimming by
them. Every place that asks whether a text is blank, or that drops the blank
ends of a text, uses the one class below.

The class is fixed: a zero-width space, a byte-order mark and the separators
U+001C to U+001F are ordinary characters here.
-/

namespace CodeReport.Text

/-- The characters with the Unicode property `White_Space`. -/
def isBlank (character : Char) : Bool :=
  let code := character.toNat
  (0x09 ≤ code && code ≤ 0x0D) || code == 0x20 || code == 0x85 || code == 0xA0 ||
    code == 0x1680 || (0x2000 ≤ code && code ≤ 0x200A) || code == 0x2028 || code == 0x2029 ||
    code == 0x202F || code == 0x205F || code == 0x3000

/-- The characters from the first one that is not blank. -/
def dropBlankStart (characters : List Char) : List Char :=
  characters.dropWhile isBlank

/-- The characters up to the last one that is not blank. -/
def dropBlankEnd (characters : List Char) : List Char :=
  (characters.reverse.dropWhile isBlank).reverse

/-- The characters from the first to the last one that is not blank. -/
def dropBlankEnds (characters : List Char) : List Char :=
  dropBlankEnd (dropBlankStart characters)

/-- The text without blank characters at its end. -/
def trimEnd (text : String) : String :=
  String.ofList (dropBlankEnd text.toList)

/-- The text without blank characters at either end. -/
def trim (text : String) : String :=
  String.ofList (dropBlankEnds text.toList)

/-- A text is blank when it holds no other than blank characters. The empty text is blank. -/
def isBlankText (text : String) : Bool :=
  text.toList.all isBlank

/-- No character follows the trimmed end but blank ones: what is dropped there is blank. -/
theorem dropBlankEnd_append_blank (characters : List Char) :
    ∃ dropped, characters = dropBlankEnd characters ++ dropped ∧ ∀ c ∈ dropped, isBlank c := by
  refine ⟨(characters.reverse.takeWhile isBlank).reverse, ?_, ?_⟩
  · rw [dropBlankEnd, ← List.reverse_append, List.takeWhile_append_dropWhile, List.reverse_reverse]
  · intro c member
    rw [List.mem_reverse] at member
    exact List.all_eq_true.mp List.all_takeWhile c member

end CodeReport.Text
