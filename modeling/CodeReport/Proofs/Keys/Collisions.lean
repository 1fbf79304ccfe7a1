import CodeReport.Proofs.Keys.Distinct
import CodeReport.Text.Octets
import Mathlib.Data.List.DropRight

/-!
# When sections share a base key

A base key is made from the bytes of a title and a kind. The title may hold zeros
itself, and may end like the name of a kind, so the first zero among the bytes
divides nothing. The last one does: it is the one behind the title, since the name
of a kind holds none. So the bytes can be taken apart in one way only, and what
comes out is the title and the kind.

Sections with different headings therefore share a base key only if the digests of
two different messages begin with the same six bytes. Nothing is said of how likely
that is.
-/

namespace CodeReport.Section

/-- A kind is known by its name. -/
theorem Kind.name_injective (one other : Kind) (same : one.name = other.name) : one = other := by
  revert same
  cases one <;> cases other <;> decide

namespace Key

/-- What stands behind the last mark in a list, and what stands before it. -/
theorem divided_at_last {α : Type} {mark : α} {front front' back back' : List α}
    (unmarked : mark ∉ back) (unmarked' : mark ∉ back')
    (same : front ++ mark :: back = front' ++ mark :: back') : front = front' ∧ back = back' := by
  classical
  have taken (front back : List α) (unmarked : mark ∉ back) :
      (front ++ mark :: back).rtakeWhile (· ≠ mark) = back := by
    have passed : ∀ item ∈ back.reverse, decide (item ≠ mark) = true := by
      intro item member
      rw [decide_eq_true_iff]
      rintro rfl
      exact unmarked (List.mem_reverse.mp member)
    rw [List.rtakeWhile, List.reverse_append, List.reverse_cons, List.append_assoc,
      List.takeWhile_append_of_pos passed]
    simp
  have backs : back = back' := by
    rw [← taken front back unmarked, same, taken front' back' unmarked']
  subst backs
  exact ⟨List.append_cancel_right same, rfl⟩

/-- The name of a kind holds no zero. -/
theorem zero_not_mem_name (kind : Kind) : 0 ∉ kind.name.toUTF8.toList := by
  rw [Text.toList_toUTF8]
  cases kind <;> decide

/-- The bytes that are digested tell the title and the kind. -/
theorem bytes_injective {title title' : String} {kind kind' : Kind}
    (same : bytes title kind = bytes title' kind') : title = title' ∧ kind = kind' := by
  obtain ⟨titles, names⟩ :=
    divided_at_last (zero_not_mem_name kind) (zero_not_mem_name kind') same
  exact ⟨Text.toUTF8_injective title title' titles,
    Kind.name_injective kind kind' (Text.toUTF8_injective kind.name kind'.name names)⟩

/-- Values below sixteen have digits of their own. -/
theorem hexDigit_injective (one other : Nat) (small : one < 16) (small' : other < 16)
    (same : hexDigit one = hexDigit other) : one = other := by
  have checked : ∀ left right : Fin 16, hexDigit left = hexDigit right → left = right := by decide
  exact congrArg Fin.val (checked ⟨one, small⟩ ⟨other, small'⟩ same)

/-- Two digits tell a byte. -/
theorem hexByte_injective (one other : UInt8) (same : hexByte one = hexByte other) :
    one = other := by
  have bound : one.toNat < 256 := one.toNat_lt
  have bound' : other.toNat < 256 := other.toNat_lt
  simp only [hexByte, List.cons.injEq, and_true] at same
  have high := hexDigit_injective _ _ (by omega) (by omega) same.1
  have low := hexDigit_injective _ _ (by omega) (by omega) same.2
  exact UInt8.toNat_inj.mp (by omega)

/-- Digits tell the bytes that they write. -/
theorem hexBytes_injective (left right : List UInt8)
    (same : left.flatMap hexByte = right.flatMap hexByte) : left = right := by
  induction left generalizing right with
  | nil =>
    cases right with
    | nil => rfl
    | cons byte rest => cases same
  | cons byte rest inductionHypothesis =>
    cases right with
    | nil => cases same
    | cons byte' rest' =>
      rw [List.flatMap_cons, List.flatMap_cons] at same
      obtain ⟨first, others⟩ := List.append_inj same rfl
      rw [hexByte_injective byte byte' first, inductionHypothesis rest' others]

variable (digest : List UInt8 → List UInt8)

/-- A base key tells the first six bytes of a digest, and nothing more. -/
theorem deriveWith_eq_iff (title title' : String) (kind kind' : Kind) :
    deriveWith digest title kind = deriveWith digest title' kind' ↔
      (digest (bytes title kind)).take 6 = (digest (bytes title' kind')).take 6 := by
  constructor
  · intro same
    apply hexBytes_injective
    have texts := congrArg (fun key => key.text.toList) same
    simpa [deriveWith] using texts
  · intro meet
    rw [deriveWith, deriveWith, meet]

/-- Two different messages whose digests begin with the same six bytes. -/
structure Collide (one other : List UInt8) : Prop where
  differ : one ≠ other
  meet : (digest one).take 6 = (digest other).take 6

end Key

/-- The bytes that are digested for a title and a kind are those of no other title and no other
kind, whatever characters the titles hold. So two sections have the same base key exactly if they
have the same title and the same kind, or if their bytes are different and collide under the
digest. -/
theorem baseKeys_told_apart (digest : List UInt8 → List UInt8) :
    (∀ (title title' : String) (kind kind' : Kind),
      Key.bytes title kind = Key.bytes title' kind' ↔ title = title' ∧ kind = kind') ∧
    ∀ one other : Section,
      one.baseKeyWith digest = other.baseKeyWith digest ↔
        (one.title = other.title ∧ one.kind = other.kind) ∨
          Key.Collide digest (Key.bytes one.title one.kind)
            (Key.bytes other.title other.kind) := by
  have told (title title' : String) (kind kind' : Kind) :
      Key.bytes title kind = Key.bytes title' kind' ↔ title = title' ∧ kind = kind' := by
    constructor
    · exact Key.bytes_injective
    · rintro ⟨rfl, rfl⟩
      rfl
  refine ⟨told, ?_⟩
  intro one other
  rw [baseKeyWith, baseKeyWith, Key.deriveWith_eq_iff, ← told]
  constructor
  · intro meet
    by_cases same : Key.bytes one.title one.kind = Key.bytes other.title other.kind
    · exact .inl same
    · exact .inr ⟨same, meet⟩
  · rintro (same | collision)
    · rw [same]
    · exact collision.meet

end CodeReport.Section
