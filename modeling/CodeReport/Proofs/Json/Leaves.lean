import CodeReport.Json.Printer
import CodeReport.Json.Reader

/-!
# Strings and integers in JSON text are read back

What the reader makes of a string and of an integer as the printer writes them.
Escaped characters are read back one by one, up to the quote behind them. The
digits of an integer are read up to a character that does not go on with them,
so what stands behind a number matters, and what stands behind a string does
not.

Steps of the reader return what they leave with a proof that it is shorter.
`Finds` forgets the proof, so that a text can be taken apart freely.
-/

namespace CodeReport.Json.Reader

/-- A step finds a thing at the start of a text and leaves the rest of the text. -/
def Finds {α : Type} (step : (text : List Char) → Found α text) (text : List Char) (thing : α)
    (rest : List Char) : Prop :=
  ∃ shorter, step text = .ok (thing, ⟨rest, shorter⟩)

/-- Blanks are passed over, up to a character that is none. -/
theorem behindSpaces?_blanks (blanks rest : List Char) (first : Char)
    (blank : ∀ character ∈ blanks, isSpace character = true) (begins : isSpace first = false) :
    ∃ shorter, behindSpaces? (blanks ++ first :: rest) = some (first, ⟨rest, shorter⟩) := by
  have skipped : skipSpaces (blanks ++ first :: rest) = first :: rest := by
    rw [skipSpaces, List.dropWhile_append_of_pos blank,
      List.dropWhile_cons_of_neg (by simp [begins])]
  unfold behindSpaces?
  split
  next none => cases none.symm.trans skipped
  next other left found =>
    obtain ⟨rfl, rfl⟩ := List.cons.inj (found.symm.trans skipped)
    have atMost := length_skipSpaces_le (blanks ++ other :: left)
    rw [found] at atMost
    exact ⟨atMost, rfl⟩

/-- Where there is no blank, none is passed over. -/
theorem behindSpaces?_here (rest : List Char) (first : Char) (begins : isSpace first = false) :
    ∃ shorter, behindSpaces? (first :: rest) = some (first, ⟨rest, shorter⟩) :=
  behindSpaces?_blanks [] rest first (by simp) begins

/-- The closing quote ends a string. -/
theorem finds_quote (rest : List Char) : Finds stringCharacters ('"' :: rest) [] rest := by
  refine ⟨Nat.lt_succ_self _, ?_⟩
  rw [stringCharacters]
  rfl

/-- A character that is written as it is stands for itself. -/
theorem finds_plain (character : Char) (text characters rest : List Char)
    (noQuote : character ≠ '"') (noSign : character ≠ '\\') (visible : ¬ character.toNat < 0x20)
    (others : Finds stringCharacters text characters rest) :
    Finds stringCharacters (character :: text) (character :: characters) rest := by
  obtain ⟨shorter, found⟩ := others
  refine ⟨Nat.lt_succ_of_lt shorter, ?_⟩
  rw [stringCharacters, if_neg noQuote, if_neg noSign, if_neg visible, found]

/-- An escape stands for its character. -/
theorem finds_escape (character : Char) (text middle characters rest : List Char)
    (escaped : Finds escapedCharacter text character middle)
    (others : Finds stringCharacters middle characters rest) :
    Finds stringCharacters ('\\' :: text) (character :: characters) rest := by
  obtain ⟨fewer, first⟩ := escaped
  obtain ⟨shorter, found⟩ := others
  refine ⟨Nat.lt_succ_of_lt (Nat.lt_trans shorter fewer), ?_⟩
  rw [stringCharacters, if_neg (by decide), if_pos rfl, first]
  simp only [found]

/-- An escape of one letter. -/
theorem finds_letter (letter character : Char) (rest : List Char) (ordinary : letter ≠ 'u')
    (meaning : escapedLetter? letter = some character) :
    Finds escapedCharacter (letter :: rest) character rest := by
  refine ⟨Nat.lt_succ_self _, ?_⟩
  rw [escapedCharacter, if_neg ordinary, meaning]

/-- The four digits of a control character are those of its code. -/
theorem number?_control (code : Nat) (control : code < 0x20) :
    Digits.number? 16 ['0', '0', hexDigit (code / 16), hexDigit code] = some code := by
  have checked : ∀ place : Fin 0x20,
      Digits.number? 16 ['0', '0', hexDigit (place.val / 16), hexDigit place.val] =
        some place.val := by
    decide
  exact checked ⟨code, control⟩

/-- A control character is written by its code, which is no half of a pair. -/
theorem finds_control (character : Char) (rest : List Char) (control : character.toNat < 0x20) :
    Finds escapedCharacter
      ('u' :: '0' :: '0' :: hexDigit (character.toNat / 16) :: hexDigit character.toNat :: rest)
      character rest := by
  have unit := number?_control character.toNat control
  have noTrailing : isTrailingHalf character.toNat = false := by
    simp only [isTrailingHalf, Bool.and_eq_false_iff, decide_eq_false_iff_not]
    omega
  have noLeading : isLeadingHalf character.toNat = false := by
    simp only [isLeadingHalf, Bool.and_eq_false_iff, decide_eq_false_iff_not]
    omega
  refine ⟨by simp only [List.length_cons]; omega, ?_⟩
  rw [escapedCharacter, if_pos rfl, escapedUnit, hexUnit]
  simp [unit, noTrailing, noLeading]

/-- A character is written as it is, or as an escape that is read as the character. -/
theorem escapeCharacter_cases (character : Char) :
    (escapeCharacter character = [character] ∧ character ≠ '"' ∧ character ≠ '\\' ∧
        ¬ character.toNat < 0x20) ∨
      ∃ text, escapeCharacter character = '\\' :: text ∧
        ∀ rest, Finds escapedCharacter (text ++ rest) character rest := by
  have letter (sign : Char) (ordinary : sign ≠ 'u')
      (meaning : escapedLetter? sign = some character) :
      ∃ text, ['\\', sign] = '\\' :: text ∧
        ∀ rest, Finds escapedCharacter (text ++ rest) character rest :=
    ⟨[sign], rfl, fun rest => finds_letter sign character rest ordinary meaning⟩
  fun_cases escapeCharacter character with
  | case1 quote => exact .inr (letter '"' (by decide) (by rw [quote]; rfl))
  | case2 _ sign => exact .inr (letter '\\' (by decide) (by rw [sign]; rfl))
  | case3 _ _ backspace => exact .inr (letter 'b' (by decide) (by rw [backspace]; rfl))
  | case4 _ _ _ feed => exact .inr (letter 'f' (by decide) (by rw [feed]; rfl))
  | case5 _ _ _ _ line => exact .inr (letter 'n' (by decide) (by rw [line]; rfl))
  | case6 _ _ _ _ _ carriage => exact .inr (letter 'r' (by decide) (by rw [carriage]; rfl))
  | case7 _ _ _ _ _ _ tab => exact .inr (letter 't' (by decide) (by rw [tab]; rfl))
  | case8 _ _ _ _ _ _ _ control =>
    exact .inr ⟨_, rfl, fun rest => finds_control character rest control⟩
  | case9 quote sign _ _ _ _ _ visible => exact .inl ⟨rfl, quote, sign, visible⟩

/-- Escaped characters are read back up to the quote behind them, whatever follows it. -/
theorem finds_escaped (characters rest : List Char) :
    Finds stringCharacters (characters.flatMap escapeCharacter ++ '"' :: rest) characters rest := by
  induction characters with
  | nil => exact finds_quote rest
  | cons character others inductionHypothesis =>
    rw [List.flatMap_cons, List.append_assoc]
    rcases escapeCharacter_cases character with
      ⟨plain, noQuote, noSign, visible⟩ | ⟨text, escaped, found⟩
    · rw [plain]
      exact finds_plain character _ others rest noQuote noSign visible inductionHypothesis
    · rw [escaped]
      exact finds_escape character _ _ others rest (found _) inductionHypothesis

/-- Whether a number could go on with a character. -/
def continuesNumber (character : Char) : Bool :=
  character.isDigit || character = '.' || character = 'e' || character = 'E'

/-- Characters that no number before them goes on with. -/
def Ends (rest : List Char) : Prop := ∀ first ∈ rest.head?, continuesNumber first = false

/-- A number ends where a character stands that it cannot go on with. -/
theorem Ends.cons {first : Char} (rest : List Char) (ends : continuesNumber first = false) :
    Ends (first :: rest) := by
  intro other member
  obtain rfl := Option.some.inj member
  exact ends

/-- Blanks end a number. -/
theorem continuesNumber_space (character : Char) (space : isSpace character = true) :
    continuesNumber character = false := by
  simp only [isSpace, Bool.or_eq_true, beq_iff_eq] at space
  rcases space with ((rfl | rfl) | rfl) | rfl <;> rfl

/-- What ends a number also does so behind blanks. -/
theorem Ends.blanks {blanks rest : List Char}
    (blank : ∀ character ∈ blanks, isSpace character = true) (ends : Ends rest) :
    Ends (blanks ++ rest) := by
  cases blanks with
  | nil => exact ends
  | cons first others =>
    exact .cons _ (continuesNumber_space first (blank first List.mem_cons_self))

/-- No digit stands at the start of what ends a number. -/
theorem Ends.noDigit {rest : List Char} (ends : Ends rest) :
    ∀ first ∈ rest.head?, first.isDigit = false := by
  intro first begins
  have all := ends first begins
  simp only [continuesNumber, Bool.or_eq_false_iff] at all
  exact all.1.1.1

/-- The decimal digits of a number begin with zero only if there are no more. -/
theorem toDigits_begins (number : Nat) :
    ∃ first others, Nat.toDigits 10 number = first :: others ∧ (first = '0' → others = []) := by
  induction number using Nat.strongRecOn with
  | ind number inductionHypothesis =>
    by_cases small : number < 10
    · exact ⟨_, [], Nat.toDigits_of_lt_base small, fun _ => rfl⟩
    · obtain ⟨first, others, digits, alone⟩ := inductionHypothesis (number / 10) (by omega)
      refine ⟨first, others ++ [(number % 10).digitChar], ?_, ?_⟩
      · rw [Nat.toDigits_of_base_le (by decide) (by omega), digits, List.cons_append]
      · -- A lone zero before the last digit would make the number smaller than ten.
        intro zero
        have single : Nat.toDigits 10 (number / 10) = ['0'] := by rw [digits, alone zero, zero]
        have value := @Nat.ofDigitChars_ten_toDigits (number / 10)
        have nothing : Nat.ofDigitChars 10 ['0'] 0 = 0 := by decide
        rw [single, nothing] at value
        omega

/-- The digits of a number are read up to what does not go on with it. -/
theorem finds_wholeDigits (number : Nat) (rest : List Char) (ends : Ends rest) :
    Finds wholeDigits (Nat.toDigits 10 number ++ rest) (Nat.toDigits 10 number) rest := by
  obtain ⟨first, others, digits, alone⟩ := toDigits_begins number
  have each : ∀ digit ∈ first :: others, digit.isDigit = true := by
    intro digit member
    rw [← digits] at member
    exact Nat.isDigit_of_mem_toDigits (by decide) (by decide) member
  rw [digits, List.cons_append]
  by_cases zero : first = '0'
  · obtain rfl := alone zero
    have noDigit : rest.head?.any Char.isDigit = false := by
      cases rest with
      | nil => rfl
      | cons next _ => exact ends.noDigit next rfl
    rw [List.nil_append]
    refine ⟨Nat.lt_succ_self _, ?_⟩
    rw [wholeDigits, if_pos zero, noDigit, zero]
    rfl
  · obtain ⟨taken, dropped⟩ := Decimal.span_digits
      (fun digit member => each digit (List.mem_cons_of_mem first member)) ends.noDigit
    refine ⟨by simp only [List.length_cons, List.length_append]; omega, ?_⟩
    rw [wholeDigits, if_neg zero, if_pos (each first List.mem_cons_self)]
    simp only [digitsOf, taken, dropped]

/-- No fraction begins with what does not go on with a number. -/
theorem fractionDigits_ends (rest : List Char) (ends : Ends rest) :
    fractionDigits rest = .ok (none, ⟨[], rest, Nat.le_refl _⟩) := by
  unfold fractionDigits
  split
  next after => exact absurd (ends '.' rfl) (by decide)
  next => rfl

/-- No exponent begins with what does not go on with a number. -/
theorem exponentOf_ends (rest : List Char) (ends : Ends rest) :
    exponentOf rest = .ok (none, ⟨[], rest, Nat.le_refl _⟩) := by
  cases rest with
  | nil => rfl
  | cons next others =>
    have noMark : (decide (next = 'e') || decide (next = 'E')) = false := by
      have all := ends next rfl
      simp only [continuesNumber, Bool.or_eq_false_iff] at all
      simp only [all.1.2, all.2, Bool.or_false]
    unfold exponentOf
    dsimp only
    rw [noMark]
    rfl

/-- The integers that are kept as integers. -/
def IsKept (value : Int) : Prop :=
  Number.leastInteger ≤ value ∧ value ≤ Number.greatestInteger

/-- The digits of a natural number write it. -/
theorem numberOfDigits_toDigits (number : Nat) :
    Decimal.numberOfDigits (Nat.toDigits 10 number) = number :=
  Nat.ofDigitChars_eq_foldl.symm.trans Nat.ofDigitChars_ten_toDigits

/-- Digits without fraction and exponent write an integer, if it is kept and no negative zero. -/
theorem numberOf?_digits (negative : Bool) (number : Nat)
    (nonzero : negative = true → number ≠ 0)
    (kept : IsKept (if negative then -(number : Int) else number)) :
    numberOf? negative (Nat.toDigits 10 number) none none =
      some (.integer (if negative then -(number : Int) else number)) := by
  have value := numberOfDigits_toDigits number
  have noZero : (negative && number == 0) = false := by
    cases negative with
    | false => rfl
    | true => simpa using nonzero rfl
  simp [numberOf?, value, noZero, kept.1, kept.2]

/-- Digits of a greater natural number write the value nearest to it, if that is finite. -/
theorem numberOf?_great (number : Nat) (great : Number.greatestInteger < number)
    (finite : (Decimal.toBinary64 ⟨false, number, 0⟩).isFinite = true) :
    numberOf? false (Nat.toDigits 10 number) none none =
      some (.real (Decimal.toBinary64 ⟨false, number, 0⟩)) := by
  have value := numberOfDigits_toDigits number
  simp [numberOf?, value, great, finite]

/-- The digits of a natural number are read as what they write without fraction and exponent. -/
theorem finds_unsignedNumber (negative : Bool) (number : Nat) (rest : List Char) (thing : Number)
    (written : numberOf? negative (Nat.toDigits 10 number) none none = some thing)
    (ends : Ends rest) :
    Finds (unsignedNumber negative) (Nat.toDigits 10 number ++ rest) thing rest := by
  obtain ⟨shorter, whole⟩ := finds_wholeDigits number rest ends
  refine ⟨shorter, ?_⟩
  rw [unsignedNumber, whole]
  simp only [fractionDigits_ends rest ends, exponentOf_ends rest ends, Option.bind_none,
    Option.map_none, written]

end CodeReport.Json.Reader
