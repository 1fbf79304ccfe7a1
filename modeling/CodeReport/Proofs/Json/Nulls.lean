import CodeReport.Answer.Field
import CodeReport.Proofs.Json.Members

/-!
# Members that are taken out because they are null

A reading that makes nothing of null does not see whether a null is there or missing.
This holds of the readings of texts and of lists of texts.

It does not hold of what is read under two names. There the second name counts only
where the first one is missing, and a null is not missing: it hides what stands under
the second name.
-/

namespace CodeReport

open Json (Value Members)

namespace Json

/-- What is found under a name before and after nulls are taken out: the same, or null before and
nothing after. -/
inductive Value.Fades : Option Value → Option Value → Prop where
  | same (found : Option Value) : Fades found found
  | null : Fades (some .null) none

/-- A reading that makes nothing of null is not changed when nulls are taken out. -/
theorem Value.Fades.read {α : Type} {before after : Option Value} (fades : Fades before after)
    (reading : Option Value → α) (unread : reading (some .null) = reading none) :
    reading before = reading after := by
  cases fades with
  | same found => rfl
  | null => exact unread

namespace Members

variable (object : Members)

/-- Taking out a null changes what is found under its own name, from null to nothing. -/
theorem fades_without {name : String} (null : object.get? name = some .null) (other : String) :
    Value.Fades (object.get? other) ((object.without name).get? other) := by
  rw [get?_without]
  by_cases same : other = name
  · rw [if_pos same, same, null]
    exact .null
  · rw [if_neg same]
    exact .same _

/-- What is found under the first of two names, or else under the second. -/
def either? (first second : String) : Option Value :=
  (object.get? first).or (object.get? second)

section Either

variable {α : Type} (reading : Option Value → α) (unread : reading (some .null) = reading none)
variable {first second : String} (distinct : first ≠ second)

include unread distinct in
/-- Taking out a null is not seen through two names, unless it stands under the first one and there
is something to be read under the second. -/
theorem either?_without {name : String} (null : object.get? name = some .null)
    (silent : name = first → reading (object.get? second) = reading none) :
    reading ((object.without name).either? first second) =
      reading (object.either? first second) := by
  rw [either?, either?, get?_without, get?_without]
  by_cases isFirst : first = name
  · have otherwise : second ≠ name := isFirst ▸ distinct.symm
    rw [if_pos isFirst, if_neg otherwise, isFirst, null, Option.none_or, Option.some_or, unread]
    exact silent isFirst.symm
  · rw [if_neg isFirst]
    by_cases isSecond : second = name
    · rw [if_pos isSecond, isSecond, null, Option.or_none]
      cases object.get? first with
      | none => exact unread.symm
      | some value => rfl
    · rw [if_neg isSecond]

/-- Under a first name that is there, the second is not looked at. -/
theorem either?_hidden (distinct : first ≠ second) (null : object.get? first = some .null) :
    (object.without second).either? first second = object.either? first second := by
  rw [either?, either?, get?_without, if_neg distinct, null, Option.some_or, Option.some_or]

/-- Without its first name a member is what stands under the second one. -/
theorem either?_revealed (distinct : first ≠ second) :
    (object.without first).either? first second = object.get? second := by
  rw [either?, get?_without, if_pos rfl, Option.none_or, get?_without, if_neg distinct.symm]

/-- A look-up under two names does not see what is taken out under another one. -/
theorem either?_elsewhere {other : String} (notFirst : first ≠ other)
    (notSecond : second ≠ other) :
    (object.without other).either? first second = object.either? first second := by
  rw [either?, either?, get?_without, get?_without, if_neg notFirst, if_neg notSecond]

end Either

/-- Taking out a member leaves those of other names. -/
theorem fades_elsewhere (names : List String) {other : String} (apart : other ∉ names) :
    ∀ name ∈ names, Value.Fades ((object.without other).get? name) (object.get? name) := by
  intro name member
  have differs : name ≠ other := by
    rintro rfl
    exact apart member
  rw [get?_without, if_neg differs]
  exact .same _

end Members

end Json

open Json.Value (Fades)

section Texts

variable {before after : Members} {name : String}

/-- A null is no text, so it is read like nothing where a trimmed text is looked for. -/
theorem trimmedText?_fades (fades : Fades (before.get? name) (after.get? name)) :
    before.trimmedText? name = after.trimmedText? name :=
  fades.read
    (fun found =>
      ((found.bind Value.string?).map Text.trim).filter fun text : String => !text.isEmpty) rfl

/-- A null is read like nothing where a text is looked for that is kept as it is. -/
theorem verbatimText?_fades (fades : Fades (before.get? name) (after.get? name)) :
    before.verbatimText? name = after.verbatimText? name :=
  fades.read
    (fun found => (found.bind Value.string?).filter fun text => !Text.isBlankText text) rfl

/-- A null lists nothing, as if it were not there. -/
theorem looseTexts_fades {first second : Option Value} (fades : Fades first second) :
    (first.map Value.looseTexts).getD [] = (second.map Value.looseTexts).getD [] :=
  fades.read (fun found => (found.map Value.looseTexts).getD []) rfl

end Texts

end CodeReport
