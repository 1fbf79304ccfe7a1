import CodeReport.Answer.Reader
import CodeReport.Proofs.Json.Members
import CodeReport.Proofs.Text.Blank

/-!
# The parts of an answer are read on their own

An answer has fourteen parts, and each is read from the members of its own names: one
name, or three for the recommendations. No name belongs to two parts. So whatever is
changed under one name is seen in one part at most, and what stands under any other
name, or in which order the members stand, is not seen at all.

A member can also hold what its part does not take. What a part takes is said by the
shape of the value alone, and anything else is read as if the member were not there.
-/

namespace CodeReport.Answer

open Json (Value Members)

/-- What has to stand in a member so that something is read from it. -/
inductive Shape where
  | text
  | texts
  | array
  | object
  | truth
  | fault
  deriving DecidableEq

/-- The values of a shape. A list of texts may be a single value, and a fault a text or an
object. -/
def Shape.Accepts : Shape → Value → Prop
  | .text, value => ∃ text, value = .string text ∧ Text.isBlankText text = false
  | .texts, value =>
    value ≠ .null ∧ (∀ text, value = .string text → Text.isBlankText text = false) ∧
      ∀ members, value ≠ .object members
  | .array, value => ∃ items, value = .array items
  | .object, value => ∃ members, value = .object members
  | .truth, value => ∃ truth, value = .bool truth
  | .fault, value =>
    (∃ text, value = .string text ∧ Text.isBlankText text = false) ∨
      ∃ members, value = .object members

/-- The parts of an answer. -/
inductive Part where
  | analysis
  | issues
  | recommendations
  | metrics
  | correctedCode
  | language
  | fault
  | warning
  | success
  | model
  | debugSteps
  | bindings
  | solution
  | sections
  deriving DecidableEq

namespace Part

/-- The names of the members that a part is read from. -/
def names : Part → List String
  | .analysis => ["analysis"]
  | .issues => ["issues"]
  | .recommendations => ["recommendations", "solutions", "suggestions"]
  | .metrics => ["metrics"]
  | .correctedCode => ["correctedCode"]
  | .language => ["language"]
  | .fault => ["error"]
  | .warning => ["warning"]
  | .success => ["success"]
  | .model => ["model"]
  | .debugSteps => ["debugSteps"]
  | .bindings => ["variables"]
  | .solution => ["solution"]
  | .sections => ["sections"]

/-- The shape that the members of a part have. -/
def shape : Part → Shape
  | .analysis | .correctedCode | .language | .warning | .model | .solution => .text
  | .recommendations | .debugSteps => .texts
  | .issues | .sections => .array
  | .metrics | .bindings => .object
  | .success => .truth
  | .fault => .fault

/-- What a part holds. -/
abbrev Content : Part → Type
  | .analysis | .correctedCode | .language | .warning | .model | .solution => Option String
  | .recommendations | .debugSteps => List String
  | .issues => List Issue
  | .metrics => List Metric
  | .bindings => List Variable
  | .fault => Option Fault
  | .success => Option Bool
  | .sections => Option (List Value)

/-- The names of all parts. -/
def knownNames : List String :=
  ["analysis", "issues", "recommendations", "solutions", "suggestions", "metrics",
    "correctedCode", "language", "error", "warning", "success", "model", "debugSteps",
    "variables", "solution", "sections"]

/-- A name is known exactly if it belongs to a part. -/
theorem mem_knownNames_iff (name : String) :
    name ∈ knownNames ↔ ∃ wanted : Part, name ∈ wanted.names := by
  constructor
  · have covered : ∀ known ∈ knownNames, ∃ wanted : Part, known ∈ wanted.names := by
      simp only [knownNames, List.forall_mem_cons, List.not_mem_nil, false_implies, implies_true,
        and_true]
      exact ⟨⟨.analysis, by decide⟩, ⟨.issues, by decide⟩, ⟨.recommendations, by decide⟩,
        ⟨.recommendations, by decide⟩, ⟨.recommendations, by decide⟩, ⟨.metrics, by decide⟩,
        ⟨.correctedCode, by decide⟩, ⟨.language, by decide⟩, ⟨.fault, by decide⟩,
        ⟨.warning, by decide⟩, ⟨.success, by decide⟩, ⟨.model, by decide⟩,
        ⟨.debugSteps, by decide⟩, ⟨.bindings, by decide⟩, ⟨.solution, by decide⟩,
        ⟨.sections, by decide⟩⟩
    exact covered name
  · rintro ⟨wanted, source⟩
    have included : ∀ known ∈ wanted.names, known ∈ knownNames := by
      cases wanted <;> decide
    exact included name source

/-- No name belongs to two parts. -/
theorem eq_of_mem_names (name : String) (one another : Part) (first : name ∈ one.names)
    (second : name ∈ another.names) : one = another := by
  have apart : ∀ known ∈ one.names, known ∈ another.names → one = another := by
    cases one <;> cases another <;> decide
  exact apart name first second

end Part

/-- A part of an answer. -/
def part (answer : Answer) : (wanted : Part) → wanted.Content
  | .analysis => answer.analysis
  | .issues => answer.issues
  | .recommendations => answer.recommendations
  | .metrics => answer.metrics
  | .correctedCode => answer.correctedCode
  | .language => answer.language
  | .fault => answer.fault
  | .warning => answer.warning
  | .success => answer.success
  | .model => answer.model
  | .debugSteps => answer.debugSteps
  | .bindings => answer.bindings
  | .solution => answer.solution
  | .sections => answer.sections

/-- An answer is nothing but its parts. -/
theorem eq_of_parts {left right : Answer}
    (same : ∀ wanted, left.part wanted = right.part wanted) : left = right := by
  cases left
  cases right
  rw [mk.injEq]
  exact ⟨same .analysis, same .issues, same .recommendations, same .metrics, same .correctedCode,
    same .language, same .fault, same .warning, same .success, same .model, same .debugSteps,
    same .bindings, same .solution, same .sections⟩

/-- The issues of an answer are what is kept of the items of its list of issues. -/
theorem issues_of_array {members : Members} {items : List Value}
    (held : members.get? "issues" = some (.array items)) :
    (ofJson (.object members)).issues = items.filterMap Issue.ofJson? := by
  have read : (ofJson (.object members)).issues =
      ((members.get? "issues").map issuesOf).getD [] := rfl
  rw [read, held]
  rfl

/-- The sections of an answer are the items of its list of sections, as they are. -/
theorem sections_of_array {members : Members} {items : List Value}
    (held : members.get? "sections" = some (.array items)) :
    (ofJson (.object members)).sections = some items := by
  have read : (ofJson (.object members)).sections =
      (members.get? "sections").bind Value.array? := rfl
  rw [read, held]
  rfl

/-- The texts that a member lists, none if it is not there. -/
def textsAt (members : Members) (name : String) : List String :=
  ((members.get? name).map Value.looseTexts).getD []

/-- The first of some lists that is not empty, or the empty list if all of them are empty. -/
def IsFirstFilled (lists : List (List String)) (chosen : List String) : Prop :=
  (∃ before after, lists = before ++ chosen :: after ∧ (∀ list ∈ before, list = []) ∧
    chosen ≠ []) ∨
  ((∀ list ∈ lists, list = []) ∧ chosen = [])

/-- A search for a list with items finds the first one, or nothing if there is none. -/
theorem isFirstFilled_find? (lists : List (List String)) :
    IsFirstFilled lists ((lists.find? fun list => !list.isEmpty).getD []) := by
  cases found : lists.find? fun list => !list.isEmpty with
  | none =>
    refine .inr ⟨?_, rfl⟩
    intro list member
    simpa using List.find?_eq_none.mp found list member
  | some chosen =>
    obtain ⟨filled, before, after, split, empty⟩ := List.find?_eq_some_iff_append.mp found
    refine .inl ⟨before, after, split, ?_, ?_⟩
    · intro list member
      simpa using empty list member
    · simpa using filled

/-- A member that is not there and one that lists nothing are passed over alike. -/
theorem find?_textsAt (members : Members) (names : List String) :
    ((names.filterMap fun name => (members.get? name).map Value.looseTexts).find?
        fun list => !list.isEmpty).getD [] =
      ((names.map (textsAt members)).find? fun list => !list.isEmpty).getD [] := by
  induction names with
  | nil => rfl
  | cons name rest inductionHypothesis =>
    cases held : members.get? name with
    | none => simpa [textsAt, held] using inductionHypothesis
    | some value =>
      cases listed : value.looseTexts with
      | nil => simpa [textsAt, held, listed] using inductionHypothesis
      | cons text texts => simp [textsAt, held, listed]

/-- The recommendations are those of the first member that lists any. -/
theorem recommendationsOf_eq (members : Members) :
    recommendationsOf members =
      ((Part.recommendations.names.map (textsAt members)).find?
        fun list => !list.isEmpty).getD [] :=
  find?_textsAt members _

/-- A part is made of the members of its own names. -/
theorem part_congr {left right : Members} (wanted : Part)
    (same : ∀ name ∈ wanted.names, left.get? name = right.get? name) :
    (ofMembers left).part wanted = (ofMembers right).part wanted := by
  cases wanted with
  | recommendations =>
    have lists : Part.recommendations.names.map (textsAt left) =
        Part.recommendations.names.map (textsAt right) := by
      refine List.map_congr_left ?_
      intro name member
      rw [textsAt, textsAt, same name member]
    have first : recommendationsOf left = recommendationsOf right := by
      rw [recommendationsOf_eq, recommendationsOf_eq, lists]
    exact first
  | _ =>
    have found := same _ List.mem_cons_self
    simp only [part, ofMembers, Members.trimmedText?, found]

/-- What is changed under one name is seen in the part of this name alone. -/
theorem part_elsewhere {left right : Members} {name : String} {fed : Part}
    (source : name ∈ fed.names) (same : ∀ other, other ≠ name → left.get? other = right.get? other)
    (wanted : Part) (differs : wanted ≠ fed) :
    (ofMembers left).part wanted = (ofMembers right).part wanted := by
  apply part_congr
  intro other wantedSource
  apply same
  rintro rfl
  exact differs (Part.eq_of_mem_names other wanted fed wantedSource source)

section Refused

variable {value : Value}

/-- A value that cannot be a list of texts lists nothing. -/
theorem looseTexts_of_refused (refused : ¬ Shape.texts.Accepts value) : value.looseTexts = [] := by
  cases value with
  | null => rfl
  | object members => rfl
  | string text =>
    by_cases blank : Text.isBlankText text = true
    · rw [Value.looseTexts, if_pos blank]
    · simp [Shape.Accepts, blank] at refused
  | bool truth => simp [Shape.Accepts] at refused
  | number number => simp [Shape.Accepts] at refused
  | array items => simp [Shape.Accepts] at refused

/-- A value that cannot be an array has no items. -/
theorem array?_of_refused (refused : ¬ Shape.array.Accepts value) : value.array? = none := by
  cases value with
  | array items => exact absurd ⟨items, rfl⟩ refused
  | _ => rfl

/-- A value that cannot be an object has no members. -/
theorem object?_of_refused (refused : ¬ Shape.object.Accepts value) : value.object? = none := by
  cases value with
  | object members => exact absurd ⟨members, rfl⟩ refused
  | _ => rfl

/-- A value that cannot be a truth value has none. -/
theorem bool?_of_refused (refused : ¬ Shape.truth.Accepts value) : value.bool? = none := by
  cases value with
  | bool truth => exact absurd ⟨truth, rfl⟩ refused
  | _ => rfl

/-- A value that cannot tell a fault tells none. -/
theorem fault_of_refused (refused : ¬ Shape.fault.Accepts value) : Fault.ofJson? value = none := by
  cases value with
  | object members => exact absurd (.inr ⟨members, rfl⟩) refused
  | string text =>
    by_cases blank : Text.isBlankText text = true
    · rw [Fault.ofJson?, if_pos blank]
    · exact absurd (.inl ⟨text, rfl, Bool.not_eq_true _ ▸ blank⟩) refused
  | _ => rfl

variable {members : Members} {name : String}

/-- A text is read without its blank ends, and a blank one not at all. -/
theorem trimmedText?_string (text : String) (held : members.get? name = some (.string text)) :
    members.trimmedText? name =
      if Text.isBlankText text then none else some (Text.trim text) := by
  have read : members.trimmedText? name = (some (Text.trim text)).filter (!·.isEmpty) := by
    rw [Members.trimmedText?, held]
    rfl
  rw [read, Option.filter_some, Text.isEmpty_trim]
  cases Text.isBlankText text with
  | false => rfl
  | true => rfl

/-- A member that cannot be a text is read as if it were not there. -/
theorem trimmedText?_of_refused (held : members.get? name = some value)
    (refused : ¬ Shape.text.Accepts value) : members.trimmedText? name = none := by
  cases value with
  | string text =>
    have blank : Text.isBlankText text = true := by
      by_contra written
      exact refused ⟨text, rfl, Bool.not_eq_true _ ▸ written⟩
    rw [trimmedText?_string text held, if_pos blank]
  | _ => simp [Members.trimmedText?, held, Value.string?]

/-- What a part does not take is read as if it were not there. -/
theorem part_of_refused (wanted : Part) (source : name ∈ wanted.names)
    (held : members.get? name = some value) (refused : ¬ wanted.shape.Accepts value) :
    (ofMembers (members.without name)).part wanted = (ofMembers members).part wanted := by
  have absent : (members.without name).get? name = none := by
    rw [Members.get?_without, if_pos rfl]
  cases wanted
  case analysis | correctedCode | language | warning | model | solution =>
    obtain rfl := List.mem_singleton.mp source
    have before := trimmedText?_of_refused held refused
    simp only [part, ofMembers, before]
    simp [Members.trimmedText?, absent]
  case issues =>
    obtain rfl := List.mem_singleton.mp source
    simp [part, ofMembers, held, absent, issuesOf, array?_of_refused refused]
  case sections =>
    obtain rfl := List.mem_singleton.mp source
    simp [part, ofMembers, held, absent, array?_of_refused refused]
  case metrics =>
    obtain rfl := List.mem_singleton.mp source
    simp [part, ofMembers, held, absent, metricsOf, object?_of_refused refused]
  case bindings =>
    obtain rfl := List.mem_singleton.mp source
    simp [part, ofMembers, held, absent, variablesOf, object?_of_refused refused]
  case success =>
    obtain rfl := List.mem_singleton.mp source
    simp [part, ofMembers, held, absent, bool?_of_refused refused]
  case fault =>
    obtain rfl := List.mem_singleton.mp source
    simp [part, ofMembers, held, absent, fault_of_refused refused]
  case debugSteps =>
    obtain rfl := List.mem_singleton.mp source
    simp [part, ofMembers, held, absent, looseTexts_of_refused refused]
  case recommendations =>
    have lists : textsAt (members.without name) = textsAt members := by
      funext other
      by_cases same : other = name
      · rw [textsAt, textsAt, same, absent, held, Option.map_some, looseTexts_of_refused refused]
        rfl
      · rw [textsAt, textsAt, Members.get?_without, if_neg same]
    have first : recommendationsOf (members.without name) = recommendationsOf members := by
      rw [recommendationsOf_eq, recommendationsOf_eq, lists]
    exact first

end Refused

/-- The order of an object's members does not matter, and neither does any member of another name
than the known ones. A change under one known name is seen in no other part than its own. The
recommendations are the first of their three lists that is not empty. A member that does not have
the shape of its part is read as if it were not there. -/
theorem parts_read_apart :
    (∀ left right : Members, left.names.Nodup → left.Perm right →
      ofJson (.object left) = ofJson (.object right)) ∧
    (∀ left right : Members,
      (∀ name ∈ Part.knownNames, left.get? name = right.get? name) →
      ofJson (.object left) = ofJson (.object right)) ∧
    (∀ (left right : Members) (name : String) (fed : Part), name ∈ fed.names →
      (∀ other, other ≠ name → left.get? other = right.get? other) →
      ∀ wanted, wanted ≠ fed →
        (ofJson (.object left)).part wanted = (ofJson (.object right)).part wanted) ∧
    (∀ members : Members,
      IsFirstFilled (["recommendations", "solutions", "suggestions"].map (textsAt members))
        (ofJson (.object members)).recommendations) ∧
    ∀ (members : Members) (name : String) (value : Value) (fed : Part), name ∈ fed.names →
      members.get? name = some value → ¬ fed.shape.Accepts value →
      ofJson (.object (members.without name)) = ofJson (.object members) := by
  refine ⟨?_, ?_, ?_, ?_, ?_⟩
  · intro left right distinct permuted
    apply eq_of_parts
    intro wanted
    apply part_congr
    intro name _
    exact Members.get?_perm name distinct permuted
  · intro left right same
    apply eq_of_parts
    intro wanted
    apply part_congr
    intro name source
    exact same name ((Part.mem_knownNames_iff name).mpr ⟨wanted, source⟩)
  · intro left right name fed source same wanted differs
    exact part_elsewhere source same wanted differs
  · intro members
    have first : (ofJson (.object members)).recommendations = recommendationsOf members := rfl
    rw [first, recommendationsOf_eq]
    exact isFirstFilled_find? _
  · intro members name value fed source held refused
    apply eq_of_parts
    intro wanted
    by_cases own : wanted = fed
    · subst own
      exact part_of_refused wanted source held refused
    · refine part_elsewhere source ?_ wanted own
      intro other differs
      rw [Members.get?_without, if_neg differs]

end CodeReport.Answer
