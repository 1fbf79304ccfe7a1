/-!
# Octets of a text

A character of ASCII is written by one octet of its own. A text without that
octet is a text without the character, and octets are quickly looked through.
-/

namespace CodeReport.Text

/-- Whether an octet is none of those that write a text. -/
def lacksOctet (octet : UInt8) (text : String) : Bool :=
  text.toByteArray.data.toList.all (· != octet)

/-- The octets of an array, from an index on and behind those that were taken. -/
theorem toList_loop (octets : ByteArray) (index : Nat) (taken : List UInt8) :
    ByteArray.toList.loop octets index taken =
      taken.reverse ++ octets.data.toList.drop index := by
  fun_induction ByteArray.toList.loop octets index taken with
  | case1 index taken inside inductionHypothesis =>
    have within : index < octets.data.toList.length := by simpa using inside
    rw [inductionHypothesis, List.drop_eq_getElem_cons within]
    simp [ByteArray.get!, inside]
  | case2 index taken outside =>
    rw [List.drop_eq_nil_of_le (by simpa using Nat.le_of_not_lt outside), List.append_nil]

/-- The octets of a text, as a list. -/
theorem toList_toUTF8 (text : String) : text.toUTF8.toList = text.toByteArray.data.toList :=
  toList_loop text.toByteArray 0 []

/-- Different texts are written by different octets. -/
theorem toUTF8_injective (left right : String)
    (same : left.toUTF8.toList = right.toUTF8.toList) : left = right := by
  rw [toList_toUTF8, toList_toUTF8, Array.toList_inj] at same
  exact String.toByteArray_inj.mp (ByteArray.ext same)

/-- The octets that write characters, one character after the other. -/
theorem octets_of_characters (characters : List Char) :
    (String.ofList characters).toByteArray.data.toList =
      characters.flatMap String.utf8EncodeChar := by
  rw [String.toByteArray_ofList]
  simp [List.utf8Encode]

/-- A character of one octet is missing where its octet is. -/
theorem not_mem_of_lacksOctet (character : Char) (text : String) (single : character.utf8Size = 1)
    (lacks : lacksOctet character.val.toUInt8 text = true) : character ∉ text.toList := by
  intro member
  have octets := octets_of_characters text.toList
  rw [String.ofList_toList] at octets
  have written : character.val.toUInt8 ∈ text.toByteArray.data.toList := by
    rw [octets]
    refine List.mem_flatMap.mpr ⟨character, member, ?_⟩
    rw [String.utf8EncodeChar_eq_singleton single]
    exact List.mem_singleton_self _
  simpa using List.all_eq_true.mp lacks _ written

/-- A character is missing in texts with a separator if it is missing in each of them and in the
separator. -/
theorem not_mem_intercalate (character : Char) (separator : String) (texts : List String)
    (between : character ∉ separator.toList) (each : ∀ text ∈ texts, character ∉ text.toList) :
    character ∉ (separator.intercalate texts).toList := by
  induction texts with
  | nil => simp
  | cons first rest inductionHypothesis =>
    have begins := each first List.mem_cons_self
    have others := inductionHypothesis fun text member =>
      each text (List.mem_cons_of_mem first member)
    cases rest with
    | nil => simpa using begins
    | cons second remaining =>
      rw [String.intercalate_cons_cons, String.toList_append, String.toList_append,
        List.mem_append, List.mem_append]
      rintro ((member | member) | member)
      · exact begins member
      · exact between member
      · exact others member

end CodeReport.Text
