import CodeReport.Assembly.Report
import Mathlib.Data.List.Basic

/-!
# Keys tell sections apart

A base key is `s-` with hexadecimal digits behind it. A number is put behind it
with a further hyphen, and neither the digits nor the number hold one. A
numbered key can therefore be taken apart in one way only, and never equals a
base key or a numbered key of another group.

Nothing is assumed of the digest, not even that it tells any two messages
apart. Sections whose base keys meet by accident are numbered like sections
with the same title and kind, so the keys of a report are different all the same.
-/

namespace CodeReport.Section

namespace Key

/-- The digits that write a byte. -/
def hexDigits : List Char :=
  ['0', '1', '2', '3', '4', '5', '6', '7', '8', '9', 'a', 'b', 'c', 'd', 'e', 'f']

/-- A key without a number: all that follows `s-` are hexadecimal digits. -/
def IsBase (key : Key) : Prop :=
  ∃ digits : List Char, key.text.toList = 's' :: '-' :: digits ∧ ∀ digit ∈ digits, digit ∈ hexDigits

/-- Values below sixteen are written by the sixteen digits. -/
theorem hexDigit_mem (value : Nat) (small : value < 16) : hexDigit value ∈ hexDigits := by
  have checked : ∀ place : Fin 16, hexDigit place ∈ hexDigits := by decide
  exact checked ⟨value, small⟩

/-- Both halves of a byte lie below sixteen. -/
theorem hexByte_mem (byte : UInt8) (digit : Char) (member : digit ∈ hexByte byte) :
    digit ∈ hexDigits := by
  have bound : byte.toNat < 256 := byte.toNat_lt
  simp only [hexByte, List.mem_cons, List.not_mem_nil, or_false] at member
  rcases member with rfl | rfl
  · exact hexDigit_mem _ (by omega)
  · exact hexDigit_mem _ (by omega)

/-- Every base key has the form of one, whatever the digest returns. -/
theorem deriveWith_is_base (digest : List UInt8 → List UInt8) (title : String) (kind : Kind) :
    (deriveWith digest title kind).IsBase := by
  refine ⟨((digest (bytes title kind)).take 6).flatMap hexByte, by simp [deriveWith], ?_⟩
  intro digit member
  obtain ⟨byte, _, inside⟩ := List.mem_flatMap.mp member
  exact hexByte_mem byte digit inside

/-- The hyphen is no hexadecimal digit. -/
theorem hyphen_not_mem (digits : List Char) (hexadecimal : ∀ digit ∈ digits, digit ∈ hexDigits) :
    '-' ∉ digits := by
  intro member
  exact absurd (hexadecimal '-' member) (by decide)

/-- A key is followed by a hyphen and the number from the second occurrence on, and by nothing at
the first one. -/
theorem withOccurrence_text (key : Key) (occurrence : Nat) :
    (key.withOccurrence occurrence).text =
      key.text ++ if 2 ≤ occurrence then "-" ++ toString occurrence else "" := by
  unfold withOccurrence
  by_cases first : occurrence ≤ 1
  · have unnumbered : ¬ 2 ≤ occurrence := by omega
    simp [first, unnumbered]
  · have numbered : 2 ≤ occurrence := by omega
    simp [first, numbered, String.append_assoc]

/-- A number and its decimal digits determine each other. -/
theorem toDigits_injective (left right : Nat)
    (same : Nat.toDigits 10 left = Nat.toDigits 10 right) : left = right := by
  have readBack := congrArg (fun digits => Nat.ofDigitChars 10 digits 0) same
  simpa only [Nat.ofDigitChars_ten_toDigits] using readBack

/-- No decimal digit is a hyphen. -/
theorem hyphen_not_mem_toDigits (number : Nat) : '-' ∉ Nat.toDigits 10 number := by
  intro member
  exact absurd (Nat.isDigit_of_mem_toDigits (by decide) (by decide) member) (by decide)

/-- Numbered keys can be taken apart: equal ones have equal base keys and equal numbers. Numbers
count from one.

The digits of a base key hold no hyphen. A numbered key is therefore no base key, and two numbered
keys are divided at the same hyphen. -/
theorem withOccurrence_injective (left right : Key) (leftBase : left.IsBase)
    (rightBase : right.IsBase) (leftNumber rightNumber : Nat) (leftCounts : 1 ≤ leftNumber)
    (rightCounts : 1 ≤ rightNumber)
    (same : left.withOccurrence leftNumber = right.withOccurrence rightNumber) :
    left = right ∧ leftNumber = rightNumber := by
  obtain ⟨leftDigits, leftText, leftHex⟩ := leftBase
  obtain ⟨rightDigits, rightText, rightHex⟩ := rightBase
  have leftPlain : '-' ∉ leftDigits := hyphen_not_mem leftDigits leftHex
  have rightPlain : '-' ∉ rightDigits := hyphen_not_mem rightDigits rightHex
  have texts := congrArg (fun key => key.text.toList) same
  simp only [withOccurrence_text, String.toList_append, leftText, rightText] at texts
  have equalKeys (digits : leftDigits = rightDigits) : left = right := by
    have texts : left.text = right.text := by
      rw [← String.toList_inj, leftText, rightText, digits]
    exact congrArg Key.mk texts
  by_cases leftMany : 2 ≤ leftNumber <;> by_cases rightMany : 2 ≤ rightNumber
  · have divided : leftDigits ++ '-' :: Nat.toDigits 10 leftNumber =
        rightDigits ++ '-' :: Nat.toDigits 10 rightNumber := by
      simpa [leftMany, rightMany] using texts
    obtain ⟨digits, _, numbers⟩ := (List.append_cons_inj_of_notMem leftPlain
      (hyphen_not_mem_toDigits leftNumber)).mp divided
    exact ⟨equalKeys digits, toDigits_injective leftNumber rightNumber numbers⟩
  · have longer : leftDigits ++ '-' :: Nat.toDigits 10 leftNumber = rightDigits := by
      simpa [leftMany, rightMany] using texts
    exact absurd (longer ▸ List.mem_append_right leftDigits List.mem_cons_self) rightPlain
  · have longer : leftDigits = rightDigits ++ '-' :: Nat.toDigits 10 rightNumber := by
      simpa [leftMany, rightMany] using texts
    exact absurd (longer ▸ List.mem_append_right rightDigits List.mem_cons_self) leftPlain
  · have digits : leftDigits = rightDigits := by
      simpa [leftMany, rightMany] using texts
    exact ⟨equalKeys digits, by omega⟩

end Key

variable (digest : List UInt8 → List UInt8)

/-- The final key of a section behind others: its base key, with the number of its occurrence from
the second one on. -/
def KeyedAfter (before : List Section) (block : Section) : Prop :=
  let base := block.baseKeyWith digest
  let occurrence := (before.map (baseKeyWith digest)).count base + 1
  block.key.text = base.text ++ if 2 ≤ occurrence then "-" ++ toString occurrence else ""

/-- Sections with keys of their own, each numbered among the sections with its base key. -/
structure WellKeyed (sections : List Section) : Prop where
  distinct : (sections.map Section.key).Nodup
  numbered : ∀ before block after, sections = before ++ block :: after →
    KeyedAfter digest before block

/-- The base key does not look at the key that a section has. -/
@[simp] theorem baseKeyWith_key (block : Section) (key : Key) :
    baseKeyWith digest { block with key } = block.baseKeyWith digest := rfl

/-- A final key is a base key with a number that exceeds the count of what came before. -/
theorem mem_keys_numberKeysAfter (earlier : List Key) (sections : List Section) (key : Key)
    (member : key ∈ (numberKeysAfter digest earlier sections).map Section.key) :
    ∃ base occurrence, base.IsBase ∧ earlier.count base < occurrence ∧
      key = base.withOccurrence occurrence := by
  induction sections generalizing earlier with
  | nil => simp [numberKeysAfter] at member
  | cons block rest inductionHypothesis =>
    simp only [numberKeysAfter, List.map_cons, List.mem_cons] at member
    rcases member with rfl | member
    · exact ⟨block.baseKeyWith digest, _, Key.deriveWith_is_base digest block.title block.kind,
        Nat.lt_succ_self _, rfl⟩
    · obtain ⟨base, occurrence, isBase, above, same⟩ := inductionHypothesis _ member
      have fewer : earlier.count base ≤ (block.baseKeyWith digest :: earlier).count base :=
        List.count_le_count_cons
      exact ⟨base, occurrence, isBase, by omega, same⟩

/-- The first section's key does not come back. A later key that equals it would have its base key
and its number, but the number of a later occurrence is greater. -/
theorem nodup_keys_numberKeysAfter (earlier : List Key) (sections : List Section) :
    ((numberKeysAfter digest earlier sections).map Section.key).Nodup := by
  induction sections generalizing earlier with
  | nil => exact List.nodup_nil
  | cons block rest inductionHypothesis =>
    simp only [numberKeysAfter, List.map_cons, List.nodup_cons]
    refine ⟨?_, inductionHypothesis _⟩
    intro again
    obtain ⟨base, occurrence, isBase, above, same⟩ :=
      mem_keys_numberKeysAfter digest _ rest _ again
    obtain ⟨rfl, rfl⟩ := Key.withOccurrence_injective _ base
      (Key.deriveWith_is_base digest block.title block.kind) isBase _ occurrence (by omega)
      (by omega) same
    simp only [baseKeyWith, List.count_cons_self] at above
    omega

/-- Numbering gives each section the number of its occurrence, also behind sections that are not
in the list. -/
theorem numberKeysAfter_numbered (earlier : List Key) (sections before after : List Section)
    (block : Section)
    (divided : numberKeysAfter digest earlier sections = before ++ block :: after) :
    let base := block.baseKeyWith digest
    block.key = base.withOccurrence
      (earlier.count base + (before.map (baseKeyWith digest)).count base + 1) := by
  induction sections generalizing earlier before with
  | nil => simp [numberKeysAfter] at divided
  | cons first rest inductionHypothesis =>
    cases before with
    | nil =>
      simp only [numberKeysAfter, List.nil_append, List.cons.injEq] at divided
      obtain ⟨rfl, _⟩ := divided
      rfl
    | cons head tail =>
      simp only [numberKeysAfter, List.cons_append, List.cons.injEq] at divided
      obtain ⟨rfl, divided⟩ := divided
      have later := inductionHypothesis _ tail divided
      simp only [List.map_cons, baseKeyWith_key, List.count_cons] at later ⊢
      rw [later]
      congr 1
      omega

/-- Sections with final keys are well keyed under every digest. -/
theorem numberKeysWith_well_keyed (sections : List Section) :
    WellKeyed digest (numberKeysWith digest sections) where
  distinct := nodup_keys_numberKeysAfter digest [] sections
  numbered := by
    intro before block after divided
    have exactKey := numberKeysAfter_numbered digest [] sections before after block divided
    simp only [List.count_nil, Nat.zero_add] at exactKey
    unfold KeyedAfter
    rw [exactKey, Key.withOccurrence_text]

end CodeReport.Section

/-- No two sections of a report that is made from an answer have the same key. -/
theorem CodeReport.Report.nodup_keys (answer : Answer) (mode : Mode) :
    (Report.ofAnswer answer mode).keys.Nodup :=
  (Section.numberKeysWith_well_keyed Digest.sha256 (answer.unnumberedSections mode)).distinct

namespace CodeReport.Answer

/-- The sections of every answer have keys of their own in every mode. This holds of the digest in
use, and would hold of any other, even of one that gives all messages the same value. -/
theorem sections_well_keyed (answer : Answer) (mode : Mode) :
    Section.WellKeyed Digest.sha256 (answer.toSections mode) ∧
      ∀ digest, Section.WellKeyed digest (answer.toSectionsWith digest mode) :=
  ⟨Section.numberKeysWith_well_keyed Digest.sha256 (answer.unnumberedSections mode),
    fun digest => Section.numberKeysWith_well_keyed digest (answer.unnumberedSections mode)⟩

end CodeReport.Answer
