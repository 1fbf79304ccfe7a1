import CodeReport.Text.Letters
import Mathlib.Data.List.Forall2

/-!
# The same letters in any case

Texts are compared by making their letters small. What is compared is described here
letter by letter: two characters are the same letter if they are equal, or if one is
among `A` to `Z` and the other stands 32 places behind it, among `a` to `z`.

The letters that a text begins with can also be compared octet by octet. That gives
the same answer for ASCII letters, also where a longer character straddles the last
of the octets.
-/

namespace CodeReport.Text

/-- Characters that differ in the case of `A` to `Z` at most. -/
def SameLetter (left right : Char) : Prop :=
  left = right ∨ (left.isUpper = true ∧ right.toNat = left.toNat + 32) ∨
    (right.isUpper = true ∧ left.toNat = right.toNat + 32)

instance (left right : Char) : Decidable (SameLetter left right) :=
  inferInstanceAs (Decidable (_ ∨ _ ∨ _))

/-- Whether a letter is a capital is asked of its number. -/
theorem isUpper_within (character : Char) :
    character.isUpper = true ↔ character.val ≥ 'A'.val ∧ character.val ≤ 'Z'.val :=
  decide_eq_true_iff

/-- The capital letters by their numbers. -/
theorem isUpper_iff (character : Char) :
    character.isUpper = true ↔ 65 ≤ character.toNat ∧ character.toNat ≤ 90 := by
  rw [isUpper_within, ge_iff_le, UInt32.le_iff_toNat_le, UInt32.le_iff_toNat_le, Char.toNat_val]
  rfl

/-- A capital letter stands 32 places before the small one; other characters are small. -/
theorem toNat_toLower (character : Char) :
    character.toLower.toNat =
      if character.isUpper = true then character.toNat + 32 else character.toNat := by
  unfold Char.toLower
  split
  · rename_i within
    have capital := (isUpper_within character).mpr within
    have bounds := (isUpper_iff character).mp capital
    have distance : ('a'.val - 'A'.val).toNat = 32 := rfl
    rw [if_pos capital, ← Char.toNat_val, UInt32.toNat_add, distance, Char.toNat_val]
    omega
  · rename_i outside
    rw [if_neg fun capital => outside ((isUpper_within character).mp capital)]

/-- Characters are made the same small one exactly if they are the same letter. -/
theorem toLower_eq_iff (left right : Char) :
    left.toLower = right.toLower ↔ SameLetter left right := by
  rw [← Char.toNat_inj, toNat_toLower, toNat_toLower, SameLetter, ← Char.toNat_inj]
  simp only [isUpper_iff]
  split
  · split
    · omega
    · omega
  · split
    · omega
    · omega

/-- Characters are made the same small ones exactly if they are the same letters. -/
theorem map_toLower_eq_iff (left right : List Char) :
    left.map Char.toLower = right.map Char.toLower ↔ List.Forall₂ SameLetter left right := by
  rw [← List.forall₂_eq_eq_eq, List.forall₂_map_left_iff, List.forall₂_map_right_iff]
  simp only [toLower_eq_iff]

/-- Texts are compared letter by letter. -/
theorem sameLetters_iff (left right : String) :
    sameLetters left right = true ↔ List.Forall₂ SameLetter left.toList right.toList := by
  rw [sameLetters, beq_iff_eq, lowerCase, lowerCase, String.ofList_inj, map_toLower_eq_iff]

/-- A text begins with some letters exactly if its front consists of them. -/
theorem startsWithLetters_iff (start characters : List Char) :
    startsWithLetters start characters = true ↔
      ∃ front rest, characters = front ++ rest ∧ List.Forall₂ SameLetter start front := by
  rw [startsWithLetters, List.isPrefixOf_iff_prefix]
  constructor
  · intro begins
    have front := List.prefix_iff_eq_take.mp begins
    rw [List.length_map, ← List.map_take, map_toLower_eq_iff] at front
    exact ⟨_, _, (List.take_append_drop start.length characters).symm, front⟩
  · rintro ⟨front, rest, rfl, same⟩
    rw [List.map_append, (map_toLower_eq_iff start front).mpr same]
    exact List.prefix_append _ _

/-- The front of a text that takes up some number of octets in UTF-8. There is none if the text is
shorter, or if one of its characters straddles the end. -/
def frontOfOctets? : (count : Nat) → (characters : List Char) → Option (List Char)
  | 0, _ => some []
  | _ + 1, [] => none
  | count + 1, character :: rest =>
    if character.utf8Size ≤ count + 1 then
      (frontOfOctets? (count + 1 - character.utf8Size) rest).map (character :: ·)
    else none

/-- A front of octets is a front. -/
theorem frontOfOctets?_prefix (count : Nat) (characters front : List Char)
    (found : frontOfOctets? count characters = some front) : front <+: characters := by
  fun_induction frontOfOctets? count characters generalizing front with
  | case1 characters =>
    obtain rfl := Option.some.inj found
    exact List.nil_prefix
  | case2 count => cases found
  | case3 count character rest fits inductionHypothesis =>
    obtain ⟨later, isFront, rfl⟩ := Option.map_eq_some_iff.mp found
    exact (List.prefix_cons_inj character).mpr (inductionHypothesis later isFront)
  | case4 count character rest straddles => cases found

/-- Characters of one octet each are a front of as many octets. -/
theorem frontOfOctets?_append (front rest : List Char)
    (single : ∀ character ∈ front, character.utf8Size = 1) :
    frontOfOctets? front.length (front ++ rest) = some front := by
  induction front with
  | nil => rw [List.length_nil, frontOfOctets?]
  | cons character others inductionHypothesis =>
    obtain ⟨here, later⟩ := List.forall_mem_cons.mp single
    rw [List.length_cons, List.cons_append, frontOfOctets?, here, if_pos (by omega),
      Nat.add_sub_cancel, inductionHypothesis later]
    rfl

/-- The same letter takes up one octet in either case. -/
theorem SameLetter.single {left right : Char} (same : SameLetter left right)
    (single : left.utf8Size = 1) : right.utf8Size = 1 := by
  rw [Char.utf8Size_eq_one_iff, UInt32.le_iff_toNat_le, Char.toNat_val] at single ⊢
  have bound : UInt32.toNat 127 = 127 := rfl
  rcases same with rfl | ⟨upper, differs⟩ | ⟨upper, differs⟩
  · exact single
  · have bounds := (isUpper_iff left).mp upper
    omega
  · have bounds := (isUpper_iff right).mp upper
    omega

/-- Whether a text begins with some ASCII letters can be asked of its first octets: they must be
whole characters, and the same letters. -/
theorem startsWithLetters_octets (start characters : List Char)
    (ascii : ∀ character ∈ start, character.utf8Size = 1) :
    startsWithLetters start characters = true ↔
      ∃ front, frontOfOctets? start.length characters = some front ∧
        List.Forall₂ SameLetter start front := by
  rw [startsWithLetters_iff]
  constructor
  · rintro ⟨front, rest, rfl, same⟩
    have single : ∀ character ∈ front, character.utf8Size = 1 := by
      induction same with
      | nil => exact ascii
      | cons alike _ inductionHypothesis =>
        obtain ⟨here, later⟩ := List.forall_mem_cons.mp ascii
        exact List.forall_mem_cons.mpr ⟨alike.single here, inductionHypothesis later⟩
    refine ⟨front, ?_, same⟩
    rw [same.length_eq]
    exact frontOfOctets?_append front rest single
  · rintro ⟨front, found, same⟩
    obtain ⟨rest, rfl⟩ := frontOfOctets?_prefix _ _ _ found
    exact ⟨front, rest, rfl, same⟩

end CodeReport.Text
