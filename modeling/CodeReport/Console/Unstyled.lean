import CodeReport.Console.Style

/-!
# Text without styles

What is left of a text when the sequences that switch styles are taken out: an
escape character with a bracket, parameters, and the letter `m`. All else stays
as it is, also an escape character that opens no such sequence.
-/

namespace CodeReport.Console.Style

/-- The characters that parameters consist of. -/
def isParameter (character : Char) : Bool :=
  character.isDigit || character = ';'

/-- What stands behind a sequence, if the characters begin with one. -/
def behindSequence? : List Char → Option (List Char)
  | '\x1b' :: '[' :: rest =>
    match rest.dropWhile isParameter with
    | 'm' :: after => some after
    | _ => none
  | _ => none

/-- What stands behind a sequence is shorter by at least three characters. -/
theorem length_behindSequence? (characters after : List Char)
    (found : behindSequence? characters = some after) : after.length < characters.length := by
  unfold behindSequence? at found
  split at found
  next rest =>
    split at found
    next other ended =>
      obtain rfl := Option.some.inj found
      have shorter : (rest.dropWhile isParameter).length ≤ rest.length :=
        (List.dropWhile_suffix isParameter).length_le
      rw [ended] at shorter
      simp only [List.length_cons] at shorter ⊢
      omega
    next => cases found
  next => cases found

/-- The characters without sequences. -/
def unstyled : List Char → List Char
  | [] => []
  | character :: rest =>
    match _ : behindSequence? (character :: rest) with
    | some after => unstyled after
    | none => character :: unstyled rest
termination_by characters => characters.length
decreasing_by
  · exact length_behindSequence? _ _ ‹_›
  · simp

/-- A sequence is taken out as a whole. -/
theorem unstyled_sequence (characters after : List Char)
    (found : behindSequence? characters = some after) : unstyled characters = unstyled after := by
  cases characters with
  | nil => cases found
  | cons character rest =>
    rw [unstyled]
    split
    next other same => rw [Option.some.inj (same.symm.trans found)]
    next none => cases none.symm.trans found

/-- A character stays where no sequence begins. -/
theorem unstyled_cons (character : Char) (rest : List Char)
    (none : behindSequence? (character :: rest) = none) :
    unstyled (character :: rest) = character :: unstyled rest := by
  rw [unstyled]
  split
  next other found => cases found.symm.trans none
  next => rfl

end CodeReport.Console.Style

namespace CodeReport.Console

/-- The text without sequences that switch styles. -/
def unstyledText (text : String) : String :=
  String.ofList (Style.unstyled text.toList)

end CodeReport.Console
