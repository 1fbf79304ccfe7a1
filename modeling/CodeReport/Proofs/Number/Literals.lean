import CodeReport.Proofs.Number.Range
import CodeReport.Proofs.Text.Letters
import Mathlib.Data.List.Induction

/-!
# Which texts write a finite number

The grammar of decimal literals: a sign, digits with a point among them, before them or
behind them, and an exponent. The sign, the point and the exponent may be missing, but
there is a digit before the exponent. Nothing else may stand in the text, no blank either.

The words for infinities and for what is no number are read as well, in any case of
their letters. What they denote is not finite, so a finite number is written by a
literal, and by one that lies before the bound of the finite values.
-/

namespace CodeReport.Decimal

/-- Digits, maybe none. -/
def AllDigits (characters : List Char) : Prop :=
  ∀ c ∈ characters, c.isDigit = true

instance : DecidablePred AllDigits :=
  fun _ => List.decidableBAll _ _

/-- A sign before a number, or none, and whether it is a minus. -/
inductive Sign : List Char → Bool → Prop where
  | absent : Sign [] false
  | plus : Sign ['+'] false
  | minus : Sign ['-'] true

/-- A point with the digits behind it, or no point. -/
inductive Fraction : List Char → List Char → Prop where
  | absent : Fraction [] []
  | written (digits : List Char) (each : AllDigits digits) : Fraction ('.' :: digits) digits

/-- An exponent, or none. -/
inductive Exponent : List Char → Int → Prop where
  | absent : Exponent [] 0
  | written (mark : Char) (sign digits : List Char) (negative : Bool)
    (isMark : mark = 'e' ∨ mark = 'E') (signed : Sign sign negative) (some : digits ≠ [])
    (each : AllDigits digits) :
    Exponent (mark :: (sign ++ digits))
      (if negative then -(numberOfDigits digits : Int) else numberOfDigits digits)

/-- What stands behind the sign of a literal. -/
inductive Magnitude (negative : Bool) : List Char → Decimal → Prop where
  | intro (whole point fraction ending : List Char) (exponent : Int) (each : AllDigits whole)
    (pointed : Fraction point fraction) (ended : Exponent ending exponent)
    (some : whole ≠ [] ∨ fraction ≠ []) :
    Magnitude negative (whole ++ (point ++ ending))
      ⟨negative, numberOfDigits (whole ++ fraction), exponent - fraction.length⟩

/-- A decimal literal, and the number that it writes. -/
inductive Literal : List Char → Decimal → Prop where
  | intro (sign magnitude : List Char) (negative : Bool) (literal : Decimal)
    (signed : Sign sign negative) (written : Magnitude negative magnitude literal) :
    Literal (sign ++ magnitude) literal

/-- The digits by their numbers. -/
theorem isDigit_iff (character : Char) :
    character.isDigit = true ↔ 48 ≤ character.toNat ∧ character.toNat ≤ 57 := by
  rw [Char.isDigit, Bool.and_eq_true, decide_eq_true_iff, decide_eq_true_iff, ge_iff_le,
    UInt32.le_iff_toNat_le, UInt32.le_iff_toNat_le, Char.toNat_val]
  rfl

/-- What is taken while there are digits consists of digits. -/
theorem allDigits_takeWhile (characters : List Char) :
    AllDigits (characters.takeWhile Char.isDigit) := by
  intro c member
  exact List.all_eq_true.mp List.all_takeWhile c member

/-- Digits write a number before the power of ten with one more. -/
theorem numberOfDigits_lt {digits : List Char} (each : AllDigits digits) :
    numberOfDigits digits < 10 ^ digits.length := by
  induction digits using List.reverseRecOn with
  | nil => decide
  | append_singleton others last inductionHypothesis =>
    have shorter := inductionHypothesis fun c member => each c (List.mem_append_left _ member)
    have digit := (isDigit_iff last).mp (each last List.mem_concat_self)
    have value : digitValue last ≤ 9 := Nat.sub_le_iff_le_add.mpr digit.2
    have number : numberOfDigits (others ++ [last]) =
        10 * numberOfDigits others + digitValue last := List.foldl_concat ..
    rw [number, List.length_append, List.length_singleton, Nat.pow_succ]
    omega

/-- A sign is split off before anything that does not begin with one. -/
theorem Sign.splitSign {sign : List Char} {negative : Bool} (signed : Sign sign negative)
    {rest : List Char} (unsigned : ∀ c ∈ rest.head?, c ≠ '-' ∧ c ≠ '+') :
    splitSign (sign ++ rest) = (negative, rest) := by
  cases signed with
  | plus => rfl
  | minus => rfl
  | absent =>
    rw [List.nil_append]
    unfold Decimal.splitSign
    split
    · exact absurd rfl (unsigned '-' rfl).1
    · exact absurd rfl (unsigned '+' rfl).2
    · rfl

/-- What is split off is a sign. -/
theorem exists_sign (characters : List Char) :
    ∃ sign, characters = sign ++ (splitSign characters).2 ∧ Sign sign (splitSign characters).1 := by
  unfold splitSign
  split
  · exact ⟨['-'], rfl, .minus⟩
  · exact ⟨['+'], rfl, .plus⟩
  · exact ⟨[], rfl, .absent⟩

/-- The first of some digits is no sign. -/
theorem AllDigits.unsigned {digits : List Char} (each : AllDigits digits) :
    ∀ c ∈ digits.head?, c ≠ '-' ∧ c ≠ '+' := by
  intro c first
  have isDigit := each c (List.mem_of_mem_head? first)
  constructor
  · rintro rfl
    exact absurd isDigit (by decide)
  · rintro rfl
    exact absurd isDigit (by decide)

/-- An exponent is read exactly where one is written. -/
theorem exponentOfText?_eq_some_iff (characters : List Char) (exponent : Int) :
    exponentOfText? characters = some exponent ↔ Exponent characters exponent := by
  constructor
  · intro read
    cases characters with
    | nil =>
      obtain rfl := Option.some.inj read
      exact .absent
    | cons mark rest =>
      rw [exponentOfText?] at read
      obtain ⟨sign, split, signed⟩ := exists_sign rest
      by_cases isMark : mark = 'e' ∨ mark = 'E'
      · rw [if_pos (by simpa using isMark)] at read
        generalize splitSign rest = parts at read split signed
        obtain ⟨negative, digits⟩ := parts
        dsimp only at read split signed
        by_cases refused : (digits.isEmpty || !digits.all Char.isDigit) = true
        · rw [if_pos refused] at read
          cases read
        · rw [if_neg refused] at read
          obtain rfl := Option.some.inj read
          simp only [Bool.or_eq_true, List.isEmpty_iff, Bool.not_eq_true', not_or,
            Bool.not_eq_false, List.all_eq_true] at refused
          rw [split]
          exact .written mark sign digits negative isMark signed refused.1 refused.2
      · rw [if_neg (by simpa using isMark)] at read
        cases read
  · intro written
    cases written with
    | absent => rfl
    | written mark sign digits negative isMark signed some each =>
      have accepted : (digits.isEmpty || !digits.all Char.isDigit) = false := by
        simp only [Bool.or_eq_false_iff, List.isEmpty_eq_false_iff, Bool.not_eq_false',
          List.all_eq_true]
        exact ⟨some, each⟩
      rw [exponentOfText?, if_pos (by simpa using isMark), signed.splitSign each.unsigned]
      dsimp only
      rw [accepted]
      rfl

/-- What stands behind the digits of a literal goes on with none of them: it begins with no digit,
and with a point only if there was one. -/
structure Stops (point ending : List Char) : Prop where
  digit : ∀ c ∈ ending.head?, c.isDigit = false
  point : point = [] → ∀ c ∈ ending.head?, c ≠ '.'

/-- An exponent goes on with no digits. -/
theorem Exponent.stops {ending : List Char} {exponent : Int} (ended : Exponent ending exponent)
    (point : List Char) : Stops point ending := by
  cases ended with
  | absent => exact ⟨nofun, fun _ => nofun⟩
  | written mark sign digits negative isMark signed some each =>
    constructor
    · rintro _ ⟨⟩
      rcases isMark with rfl | rfl
      · rfl
      · rfl
    · rintro - _ ⟨⟩
      rcases isMark with rfl | rfl
      · decide
      · decide

/-- Every text begins with digits, a point and digits behind it, of which any may be missing. -/
theorem exists_split (characters : List Char) :
    ∃ whole point fraction ending, characters = whole ++ (point ++ ending) ∧ AllDigits whole ∧
      Fraction point fraction ∧ Stops point ending := by
  have split (text : List Char) :
      ∃ rest, text = text.takeWhile Char.isDigit ++ rest ∧
        ∀ c ∈ rest.head?, c.isDigit = false := by
    refine ⟨text.dropWhile Char.isDigit, List.takeWhile_append_dropWhile.symm, ?_⟩
    intro c first
    have stopped := List.head?_dropWhile_not Char.isDigit text
    rw [first] at stopped
    exact stopped
  obtain ⟨rest, isSplit, stops⟩ := split characters
  by_cases pointed : rest.head? = some '.'
  · obtain ⟨behind, rfl⟩ := List.head?_eq_some_iff.mp pointed
    obtain ⟨ending, isFraction, stopsAgain⟩ := split behind
    refine ⟨characters.takeWhile Char.isDigit, '.' :: behind.takeWhile Char.isDigit,
      behind.takeWhile Char.isDigit, ending, ?_, allDigits_takeWhile characters,
      .written _ (allDigits_takeWhile behind), stopsAgain, nofun⟩
    rw [List.cons_append, ← isFraction]
    exact isSplit
  · refine ⟨characters.takeWhile Char.isDigit, [], [], rest, isSplit,
      allDigits_takeWhile characters, .absent, stops, ?_⟩
    rintro - c first rfl
    exact pointed first

/-- What is read of digits, a point and digits behind it, and an ending. -/
theorem ofUnsigned?_split (negative : Bool) {whole point fraction ending : List Char}
    (each : AllDigits whole) (pointed : Fraction point fraction) (stops : Stops point ending) :
    ofUnsigned? negative (whole ++ (point ++ ending)) =
      if whole = [] ∧ fraction = [] then none
      else (exponentOfText? ending).map fun exponent =>
        ⟨negative, numberOfDigits (whole ++ fraction), exponent - fraction.length⟩ := by
  have stopped : ∀ c ∈ (point ++ ending).head?, c.isDigit = false := by
    cases pointed with
    | absent => exact stops.digit
    | written =>
      rintro _ ⟨⟩
      rfl
  obtain ⟨taken, dropped⟩ := span_digits each stopped
  have empty : (whole.isEmpty && fraction.isEmpty) = decide (whole = [] ∧ fraction = []) := by
    cases whole <;> cases fraction <;> rfl
  rw [ofUnsigned?, taken, dropped]
  cases pointed with
  | absent =>
    rw [List.nil_append]
    split
    next parted =>
      split at parted
      next rest => exact absurd rfl (stops.point rfl '.' rfl)
      next =>
        obtain ⟨rfl, rfl⟩ := Prod.mk.inj parted
        simp only [empty, decide_eq_true_eq]
  | written digits each =>
    obtain ⟨takenBehind, droppedBehind⟩ := span_digits each stops.digit
    rw [List.cons_append]
    dsimp only
    simp only [takenBehind, droppedBehind, empty, decide_eq_true_eq]

/-- What stands behind a sign is read exactly if it is the magnitude of a literal. -/
theorem ofUnsigned?_eq_some_iff (negative : Bool) (characters : List Char) (literal : Decimal) :
    ofUnsigned? negative characters = some literal ↔ Magnitude negative characters literal := by
  constructor
  · intro read
    obtain ⟨whole, point, fraction, ending, rfl, each, pointed, stops⟩ := exists_split characters
    rw [ofUnsigned?_split negative each pointed stops] at read
    by_cases nothing : whole = [] ∧ fraction = []
    · rw [if_pos nothing] at read
      cases read
    · rw [if_neg nothing] at read
      obtain ⟨exponent, ended, rfl⟩ := Option.map_eq_some_iff.mp read
      exact .intro whole point fraction ending exponent each pointed
        ((exponentOfText?_eq_some_iff _ _).mp ended) (not_and_or.mp nothing)
  · rintro ⟨whole, point, fraction, ending, exponent, each, pointed, ended, some⟩
    rw [ofUnsigned?_split negative each pointed (ended.stops point), if_neg (not_and_or.mpr some),
      (exponentOfText?_eq_some_iff _ _).mpr ended]
    rfl

/-- A magnitude begins with a digit or with a point. -/
theorem Magnitude.begins {negative : Bool} {characters : List Char} {literal : Decimal}
    (written : Magnitude negative characters literal) :
    ∃ first rest, characters = first :: rest ∧ 46 ≤ first.toNat ∧ first.toNat ≤ 57 := by
  obtain ⟨whole, point, fraction, ending, exponent, each, pointed, ended, some⟩ := written
  cases whole with
  | cons first others =>
    have digit := (isDigit_iff first).mp (each first List.mem_cons_self)
    exact ⟨first, _, rfl, by omega, digit.2⟩
  | nil =>
    cases pointed with
    | absent => simp at some
    | written digits each => exact ⟨'.', _, rfl, by decide, by decide⟩

/-- A magnitude is no word, whatever the case of its letters. -/
theorem Magnitude.not_word {negative : Bool} {characters : List Char} {literal : Decimal}
    (written : Magnitude negative characters literal) (word : String) (letter : Char)
    (begun : word.toList.head? = some letter) (great : 57 < letter.toNat) :
    (String.ofList (characters.map Char.toLower) == word) = false := by
  obtain ⟨first, rest, rfl, least, greatest⟩ := written.begins
  rw [beq_eq_false_iff_ne]
  rintro rfl
  rw [String.toList_ofList] at begun
  obtain rfl : first.toLower = letter := Option.some.inj begun
  have noCapital : ¬ first.isUpper = true := by
    rw [Text.isUpper_iff]
    omega
  rw [Text.toNat_toLower, if_neg noCapital] at great
  omega

/-- Digits alone are a literal. -/
theorem AllDigits.literal {digits : List Char} (each : AllDigits digits) (some : digits ≠ []) :
    Literal digits ⟨false, numberOfDigits digits, 0⟩ := by
  have magnitude : Magnitude false (digits ++ ([] ++ []))
      ⟨false, numberOfDigits (digits ++ []), 0 - ([] : List Char).length⟩ :=
    .intro digits [] [] [] 0 each .absent .absent (.inl some)
  rw [List.append_nil, List.append_nil] at magnitude
  exact .intro [] digits false _ .absent magnitude

/-- A literal is read as the nearest value to its number. -/
theorem Literal.binary64? {text : String} {literal : Decimal}
    (written : Literal text.toList literal) :
    binary64? text = some literal.toBinary64 := by
  generalize same : text.toList = characters at written
  obtain ⟨sign, magnitude, negative, literal, signed, written⟩ := written
  have unsigned : ∀ c ∈ magnitude.head?, c ≠ '-' ∧ c ≠ '+' := by
    obtain ⟨first, rest, rfl, least, greatest⟩ := written.begins
    rintro _ ⟨⟩
    constructor
    · rintro rfl
      exact absurd least (by decide)
    · rintro rfl
      exact absurd least (by decide)
  rw [Decimal.binary64?, same, signed.splitSign unsigned]
  dsimp only
  rw [written.not_word "inf" 'i' rfl (by decide), written.not_word "infinity" 'i' rfl (by decide),
    written.not_word "nan" 'n' rfl (by decide), (ofUnsigned?_eq_some_iff _ _ _).mpr written]
  rfl

/-- At most 310 digits are read as the value nearest to the number that they write. -/
theorem AllDigits.binary64? {digits : List Char} (each : AllDigits digits) (some : digits ≠ [])
    (few : digits.length ≤ 310) :
    binary64? (String.ofList digits) = .some (Binary64.ofInt (numberOfDigits digits)) := by
  have literal := each.literal some
  rw [← String.toList_ofList (l := digits)] at literal
  rw [literal.binary64?, String.toList_ofList,
    toBinary64_natural (numberOfDigits_lt each) few]

/-- Whatever else is read is not finite. -/
theorem exists_literal {text : String} {value : Binary64} (read : binary64? text = some value)
    (finite : value.isFinite = true) :
    ∃ literal, Literal text.toList literal ∧ value = literal.toBinary64 := by
  obtain ⟨sign, split, signed⟩ := exists_sign text.toList
  rw [Decimal.binary64?] at read
  generalize splitSign text.toList = parts at read split signed
  obtain ⟨negative, unsigned⟩ := parts
  dsimp only at read split signed
  split_ifs at read
  · obtain rfl := Option.some.inj read
    cases finite
  · obtain rfl := Option.some.inj read
    cases finite
  · obtain ⟨literal, isRead, rfl⟩ := Option.map_eq_some_iff.mp read
    refine ⟨literal, ?_, rfl⟩
    rw [split]
    exact .intro sign unsigned negative literal signed
      ((ofUnsigned?_eq_some_iff _ _ _).mp isRead)

/-- A finite value is read exactly of the literals before the bound. -/
theorem exists_finite_iff (text : String) :
    (∃ value, binary64? text = some value ∧ value.isFinite = true) ↔
      ∃ literal, Literal text.toList literal ∧ literal.IsBounded := by
  constructor
  · rintro ⟨value, read, finite⟩
    obtain ⟨literal, written, rfl⟩ := exists_literal read finite
    exact ⟨literal, written, (isFinite_toBinary64_iff literal).mp finite⟩
  · rintro ⟨literal, written, bounded⟩
    exact ⟨_, written.binary64?, (isFinite_toBinary64_iff literal).mpr bounded⟩

end CodeReport.Decimal
