import CodeReport.Assembly.Entry
import CodeReport.Proofs.Json.ReadBack
import CodeReport.Proofs.Number.Literals
import CodeReport.Proofs.Text.Blank

/-!
# Confidences that are written as texts

Three things are dropped from a confidence text before it is read as a number: the
blanks at both of its ends, the percent signs at the end of the rest, and the blanks
in front of them. What is left is described by where it stands in the text, and each
text leaves one thing only. A percent sign that stands before those blanks is not
dropped, so `5% %` is no confidence.

Digits are read as the same percentage as the number that they write in JSON, which
is kept as an integer only if it has at most 64 bits, and as the value nearest to it
otherwise. That value is finite for 300 digits and fewer. Of other texts a literal for
a finite value has to be left.
-/

namespace CodeReport.Entry

open Json (Number Value)

/-- The core of a confidence text: the blanks at its ends are dropped, then the percent signs at the
end of the rest, and then the blanks before them. -/
def IsCore (text : String) (core : List Char) : Prop :=
  ∃ trimmed unmarked, Text.IsTrimmed text trimmed ∧
    Text.IsCut (· == '%') trimmed.toList unmarked ∧ Text.IsCut Text.isBlank unmarked core

/-- The core of a text is determined, and is what is read as a number. -/
theorem isCore_iff (text : String) (core : List Char) :
    IsCore text core ↔
      core = Text.dropBlankEnd (dropPercentSigns (Text.dropBlankEnds text.toList)) := by
  have trimmed : (Text.trim text).toList = Text.dropBlankEnds text.toList := String.toList_ofList
  constructor
  · rintro ⟨whole, unmarked, isTrimmed, isUnmarked, isCore⟩
    obtain rfl := isTrimmed.eq_trim
    rw [isCore.eq_rdropWhile, isUnmarked.eq_rdropWhile, trimmed]
    rfl
  · rintro rfl
    refine ⟨Text.trim text, _, Text.isTrimmed_trim text, ?_, Text.isCut_rdropWhile _ _⟩
    rw [trimmed]
    exact Text.isCut_rdropWhile _ _

/-- Without blanks and percent signs of its own, a core may stand between blanks and have percent
signs behind it, with blanks before them. -/
theorem isCore_marked (front core middle back : List Char) (signs : Nat) (some : core ≠ [])
    (plain : ∀ c ∈ core, Text.isBlank c = false ∧ c ≠ '%')
    (blankFront : ∀ c ∈ front, Text.isBlank c = true)
    (blankMiddle : ∀ c ∈ middle, Text.isBlank c = true)
    (blankBack : ∀ c ∈ back, Text.isBlank c = true) :
    IsCore (String.ofList (front ++ core ++ middle ++ List.replicate signs '%' ++ back)) core := by
  have begins (rest : List Char) : ∀ c ∈ (core ++ rest).head?, Text.isBlank c = false := by
    intro c first
    rw [List.head?_append_of_ne_nil _ some] at first
    exact (plain c (List.mem_of_mem_head? first)).1
  have ends : ∀ c ∈ core.getLast?, Text.isBlank c = false :=
    fun c last => (plain c (List.mem_of_mem_getLast? last)).1
  cases signs with
  | zero =>
    -- Without signs the blanks before them stand at the end.
    have blankEnd : ∀ c ∈ middle ++ back, Text.isBlank c = true := by
      intro c member
      exact (List.mem_append.mp member).elim (blankMiddle c) (blankBack c)
    refine ⟨String.ofList core, core, ⟨⟨front, middle ++ back, ?_, blankFront, blankEnd⟩, ?_, ?_⟩,
      ⟨⟨[], ?_, nofun⟩, ?_⟩, ⟨⟨[], (List.append_nil core).symm, nofun⟩, ends⟩⟩
    · simp
    · simpa using begins []
    · simpa using ends
    · simp
    · intro c last
      exact beq_false_of_ne (plain c (List.mem_of_mem_getLast? last)).2
  | succ signs =>
    have unmarked : ∀ c ∈ core ++ middle, c ≠ '%' := by
      intro c member
      rcases List.mem_append.mp member with inside | behind
      · exact (plain c inside).2
      · rintro rfl
        cases blankMiddle '%' behind
    refine ⟨String.ofList (core ++ middle ++ List.replicate (signs + 1) '%'), core ++ middle,
      ⟨⟨front, back, ?_, blankFront, blankBack⟩, ?_, ?_⟩,
      ⟨⟨List.replicate (signs + 1) '%', ?_, ?_⟩, ?_⟩, ⟨⟨middle, rfl, blankMiddle⟩, ends⟩⟩
    · simp
    · simpa using begins (middle ++ List.replicate (signs + 1) '%')
    · intro c last
      have sign : c = '%' := by simpa [List.getLast?_replicate] using last.symm
      rw [sign]
      rfl
    · simp
    · intro c member
      exact beq_iff_eq.mpr (List.eq_of_mem_replicate member)
    · intro c last
      exact beq_false_of_ne (unmarked c (List.mem_of_mem_getLast? last))

/-- No digit is blank, and none is a percent sign. -/
theorem plain_of_isDigit {character : Char} (digit : character.isDigit = true) :
    Text.isBlank character = false ∧ character ≠ '%' := by
  obtain ⟨least, greatest⟩ := (Decimal.isDigit_iff character).mp digit
  constructor
  · simp only [Text.isBlank, Bool.or_eq_false_iff, Bool.and_eq_false_iff,
      decide_eq_false_iff_not, beq_eq_false_iff_ne]
    omega
  · rintro rfl
    exact absurd least (by decide)

/-- A finite value is a confidence: its percentage. -/
theorem percentage_finite {value : Binary64} {percentage : Nat} (finite : value.isFinite = true)
    (same : value.percentage? = some percentage) :
    (((some value).filter Binary64.isFinite).bind Binary64.percentage?).map UInt8.ofNat =
      some (UInt8.ofNat percentage) := by
  rw [Option.filter_some, if_pos finite, Option.bind_some, same]
  rfl

/-- The confidence that a finite number is. -/
theorem confidenceOf_number (number : Number) {percentage : Nat}
    (finite : number.toBinary64.isFinite = true)
    (same : number.toBinary64.percentage? = some percentage) :
    confidenceOf (.number number) = some (UInt8.ofNat percentage) :=
  percentage_finite finite same

/-- The confidence that a text is when a finite value is left of it. -/
theorem confidenceOf_text {text : String} {core : List Char} (isCore : IsCore text core)
    {value : Binary64} (read : Decimal.binary64? (String.ofList core) = some value)
    {percentage : Nat} (finite : value.isFinite = true)
    (same : value.percentage? = some percentage) :
    confidenceOf (.string text) = some (UInt8.ofNat percentage) := by
  rw [(isCore_iff text core).mp isCore] at read
  rw [confidenceOf, confidenceNumber?, read]
  exact percentage_finite finite same

/-- Only a finite value is a confidence. -/
theorem percentage_eq_none_iff (value : Option Binary64) :
    ((value.filter Binary64.isFinite).bind Binary64.percentage?).map UInt8.ofNat = none ↔
      ¬ ∃ number, value = some number ∧ number.isFinite = true := by
  constructor
  · rintro none ⟨number, rfl, finite⟩
    cases number with
    | notANumber => cases finite
    | infinity negative => cases finite
    | finite negative significand exponent =>
      rw [percentage_finite finite rfl] at none
      cases none
  · intro absent
    have filtered : value.filter Binary64.isFinite = none := by
      rw [Option.filter_eq_none_iff]
      intro number found finite
      exact absent ⟨number, found, finite⟩
    rw [filtered]
    rfl

/-- A text is no confidence exactly if what is left of it is no literal for a finite value. -/
theorem confidenceOf_text_eq_none_iff {text : String} {core : List Char}
    (isCore : IsCore text core) :
    confidenceOf (.string text) = none ↔
      ¬ ∃ literal, Decimal.Literal core literal ∧ literal.IsBounded := by
  have finite := Decimal.exists_finite_iff (String.ofList core)
  rw [String.toList_ofList] at finite
  rw [← finite, (isCore_iff text core).mp isCore, confidenceOf, confidenceNumber?]
  exact percentage_eq_none_iff _

/-- In JSON the digits of a natural number write a number that is read as the value nearest to it,
if there are at most 300. -/
theorem ofText_short {number count : Nat} (short : number < 10 ^ count) (few : count ≤ 300) :
    ∃ held : Number, Value.ofText (toString number) = .ok (.number held) ∧
      held.toBinary64 = Binary64.ofInt number := by
  have value := Decimal.toBinary64_natural short (Nat.le_trans few (by decide))
  have finite := (Binary64.percentage?_short short few).1
  rw [← value] at finite
  refine ⟨_, Value.ofText_natural number finite, ?_⟩
  split
  · rfl
  · exact value

/-- A confidence text of at most 300 digits, with blanks around them, any number of percent signs
behind them and blanks before those, is read as the number in JSON with these digits is: as the
percentage that the digits write, or as 100 if they write more. What is left of a text without the
blanks at its ends, the percent signs and the blanks before them is always determined, and the text
is a confidence exactly if that is a decimal literal for a value that is not rounded to an infinity.
No word for an infinity is one. -/
theorem confidence_told :
    (∀ (digits front middle back : List Char) (signs : Nat), digits ≠ [] → digits.length ≤ 300 →
      Decimal.AllDigits digits → (∀ c ∈ front ++ middle ++ back, Text.isBlank c = true) →
      confidenceOf (.string (String.ofList
          (front ++ digits ++ middle ++ List.replicate signs '%' ++ back))) =
        some (UInt8.ofNat (min 100 (Nat.ofDigitChars 10 digits 0))) ∧
      ∃ number : Number,
        Value.ofText (toString (Nat.ofDigitChars 10 digits 0)) = .ok (.number number) ∧
        confidenceOf (.number number) =
          some (UInt8.ofNat (min 100 (Nat.ofDigitChars 10 digits 0)))) ∧
    (∀ text, ∃! core, IsCore text core) ∧
    ∀ text core, IsCore text core →
      (confidenceOf (.string text) = none ↔
        ¬ ∃ literal, Decimal.Literal core literal ∧ literal.IsBounded) := by
  refine ⟨?_, ?_, fun text core isCore => confidenceOf_text_eq_none_iff isCore⟩
  · intro digits front middle back signs some few each blank
    have written : Nat.ofDigitChars 10 digits 0 = Decimal.numberOfDigits digits :=
      Nat.ofDigitChars_eq_foldl
    have isCore := isCore_marked front digits middle back signs some
      (fun c member => plain_of_isDigit (each c member))
      (fun c member => blank c (by simp [member])) (fun c member => blank c (by simp [member]))
      (fun c member => blank c (by simp [member]))
    obtain ⟨finite, percentage⟩ := Binary64.percentage?_short (Decimal.numberOfDigits_lt each) few
    obtain ⟨number, isHeld, same⟩ := ofText_short (Decimal.numberOfDigits_lt each) few
    rw [written]
    have read := each.binary64? some (Nat.le_trans few (by decide))
    refine ⟨confidenceOf_text isCore read finite percentage, number, isHeld, ?_⟩
    rw [← same] at finite percentage
    exact confidenceOf_number number finite percentage
  · intro text
    exact ⟨_, (isCore_iff text _).mpr rfl, fun core isCore => (isCore_iff text core).mp isCore⟩

/-- More digits than a percentage has, with a zero in front, and a word for an infinity. -/
theorem confidence_told_marked :
    confidenceOf (.string " 0250 %%\n") = some 100 ∧
    confidenceOf (.string "Infinity%") = none := by
  obtain ⟨digits, -, absent⟩ := confidence_told
  constructor
  · have blank : ∀ c ∈ [' '] ++ [' '] ++ ['\n'], Text.isBlank c = true := by
      simp [Text.isBlank]
    exact (digits "0250".toList [' '] [' '] ['\n'] 2 (by decide) (by decide) (by decide) blank).1
  · have plain : ∀ c ∈ "Infinity".toList, Text.isBlank c = false ∧ c ≠ '%' := by
      simp [Text.isBlank]
    have isCore : IsCore "Infinity%" "Infinity".toList :=
      isCore_marked [] "Infinity".toList [] [] 1 (by decide) plain nofun nofun nofun
    rw [absent _ _ isCore, ← Decimal.exists_finite_iff]
    rintro ⟨value, read, finite⟩
    obtain rfl := Option.some.inj read
    cases finite

end CodeReport.Entry
