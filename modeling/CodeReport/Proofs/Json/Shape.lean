import CodeReport.Json.Shape
import CodeReport.Proofs.Json.ReadBack

/-!
# What is written in a shape is read back

The look-up of a member is followed through members that are written one behind
the other, some of them left out. A reading puts back what was left out: a member
that may be absent is read as its default exactly where it was not written.

Lists and bytes are read back from what is written for them. Whether the written
value is storable is a second question, and it is answered beside the first.
-/

namespace CodeReport.Json

namespace Members

section Lookup

variable {α : Type} (name : String)

/-- The names of some members, in order. -/
def names (members : Members) : List String := members.map Prod.fst

/-- The names of members in two groups are those of the first and then those of the second. -/
@[simp] theorem names_append (before after : Members) :
    names (before ++ after) = names before ++ names after :=
  List.map_append

/-- A member that is not there is not found. -/
theorem get?_foreign (members : Members) (foreign : name ∉ members.names) :
    members.get? name = none := by
  rw [get?, List.lookup_eq_none_iff]
  intro member inside
  have differs : name ≠ member.1 := by
    rintro rfl
    exact foreign (List.mem_map_of_mem inside)
  exact bne_iff_ne.mpr differs

/-- Among no members nothing is found. -/
@[simp] theorem get?_nil : get? [] name = none :=
  rfl

/-- A name is looked up in the first member and then in the others. -/
@[simp] theorem get?_cons (other : String) (value : Value) (members : Members) :
    get? ((other, value) :: members) name =
      if name = other then some value else members.get? name := by
  by_cases same : name = other
  · rw [if_pos same, get?, List.lookup_cons, same, beq_self_eq_true]
  · rw [if_neg same, get?, List.lookup_cons, beq_false_of_ne same]
    rfl

/-- A name is looked up in the first group of members and then in the second. -/
@[simp] theorem get?_append (before after : Members) :
    get? (before ++ after) name = (before.get? name).or (after.get? name) :=
  List.lookup_append

/-- Between members of other names, a name is looked up among those in the middle. -/
theorem get?_between (before middle after : Members) (notBefore : name ∉ before.names)
    (notAfter : name ∉ after.names) :
    get? (before ++ middle ++ after) name = middle.get? name := by
  rw [get?_append, get?_append, get?_foreign name before notBefore,
    get?_foreign name after notAfter, Option.none_or, Option.or_none]

/-- Under the name of an optional member the thing is found that it was written for, if any. -/
@[simp] theorem get?_optional (other : String) (write : α → Value) (thing : Option α) :
    (optional other write thing).get? name = if name = other then thing.map write else none := by
  cases thing with
  | none => exact (ite_self none).symm
  | some value => exact get?_cons name other (write value) []

/-- Under the name of a list member the items are found, unless there are none. -/
@[simp] theorem get?_unlessEmpty (other : String) (write : List α → Value) (items : List α) :
    (unlessEmpty other write items).get? name =
      if name = other ∧ items ≠ [] then some (write items) else none := by
  cases items with
  | nil => simp [unlessEmpty]
  | cons item rest =>
    have written : unlessEmpty other write (item :: rest) = [(other, write (item :: rest))] := rfl
    rw [written, get?_cons, get?_nil]
    simp

/-- Under the name of a member that may be omitted its value is found, unless it is omitted. -/
@[simp] theorem get?_unless (other : String) (value : Value) (omitted : Bool) :
    get? (if omitted then [] else [(other, value)]) name =
      if name = other ∧ omitted = false then some value else none := by
  cases omitted with
  | true => simp
  | false => simp

end Lookup

section Written

variable {α : Type} (name : String)

/-- The names of an optional member are its one name or none. -/
theorem names_optional (write : α → Value) (thing : Option α) :
    (optional name write thing).names.Sublist [name] := by
  cases thing with
  | none => exact List.nil_sublist _
  | some value => exact List.Sublist.refl _

/-- The names of a member that may be omitted are its one name or none. -/
theorem names_unless (value : Value) (omitted : Bool) :
    (names (if omitted then [] else [(name, value)])).Sublist [name] := by
  cases omitted with
  | true => exact List.nil_sublist _
  | false => exact List.Sublist.refl _

/-- The names of a list member are its one name or none. -/
theorem names_unlessEmpty (write : List α → Value) (items : List α) :
    (unlessEmpty name write items).names.Sublist [name] := by
  cases items with
  | nil => exact List.nil_sublist _
  | cons item rest => exact List.Sublist.refl _

/-- Each value of some members is storable. -/
def EachStorable (depth : Nat) (members : Members) : Prop :=
  ∀ member ∈ members, Storable depth member.2

/-- Each of no members is storable. -/
theorem eachStorable_nil (depth : Nat) : EachStorable depth [] := by
  intro member inside
  cases inside

/-- Members are storable if the first and all others are. -/
theorem EachStorable.cons {depth : Nat} {value : Value} {members : Members}
    (first : Storable depth value) (others : EachStorable depth members) :
    EachStorable depth ((name, value) :: members) :=
  List.forall_mem_cons.mpr ⟨first, others⟩

/-- Members in two groups are storable if those of each group are. -/
theorem EachStorable.append {depth : Nat} {before after : Members}
    (first : EachStorable depth before) (second : EachStorable depth after) :
    EachStorable depth (before ++ after) :=
  List.forall_mem_append.mpr ⟨first, second⟩

/-- An optional member is storable if whatever is written for the thing is. -/
theorem eachStorable_optional {depth : Nat} {write : α → Value} (thing : Option α)
    (storable : ∀ value, Storable depth (write value)) :
    EachStorable depth (optional name write thing) := by
  cases thing with
  | none => exact eachStorable_nil depth
  | some value => exact .cons name (storable value) (eachStorable_nil depth)

/-- A member that may be omitted is storable if its value is. -/
theorem eachStorable_unless {depth : Nat} {value : Value} (omitted : Bool)
    (storable : Storable depth value) :
    EachStorable depth (if omitted then [] else [(name, value)]) := by
  cases omitted with
  | true => exact eachStorable_nil depth
  | false => exact .cons name storable (eachStorable_nil depth)

/-- A list member is storable if what is written for its items is. -/
theorem eachStorable_unlessEmpty {depth : Nat} {write : List α → Value} (items : List α)
    (storable : Storable depth (write items)) :
    EachStorable depth (unlessEmpty name write items) := by
  cases items with
  | nil => exact eachStorable_nil depth
  | cons item rest => exact .cons name storable (eachStorable_nil depth)

/-- An object is storable if its names are among names that differ. -/
theorem EachStorable.object {depth : Nat} {members : Members} {expected : List String}
    (each : EachStorable depth members) (among : members.names.Sublist expected)
    (distinct : expected.Nodup) : Storable (depth + 1) (.object members) :=
  .object depth members (distinct.sublist among) each

end Written

section Readings

variable {α : Type} {members : Members} {name : String}

/-- A member that is there is read. -/
theorem required?_written {read : Value → Option α} {thing : α} (value : Value)
    (found : members.get? name = some value) (reads : read value = some thing) :
    members.required? name read = some thing := by
  rw [required?, found, Option.bind_some, reads]

/-- A member that is read or stands for its default. -/
theorem orDefault?_written {read : Value → Option α} {default thing : α} {value : Option Value}
    (found : members.get? name = value) (absent : value = none → default = thing)
    (reads : ∀ written, value = some written → read written = some thing) :
    members.orDefault? name default read = some thing := by
  rw [orDefault?, found]
  cases value with
  | none => exact congrArg some (absent rfl)
  | some written => exact reads written rfl

/-- An optional member is read back, present or not. -/
theorem orDefault?_optional {read : Value → Option α} {thing : Option α} (write : α → Value)
    (found : members.get? name = thing.map write)
    (reads : ∀ value, Value.orNull? read (write value) = some (some value)) :
    members.orDefault? name none (Value.orNull? read) = some thing := by
  refine orDefault?_written found ?_ ?_
  · intro missing
    exact (Option.map_eq_none_iff.mp missing).symm
  · intro written present
    obtain ⟨value, rfl, rfl⟩ := Option.map_eq_some_iff.mp present
    exact reads value

/-- A member for a list is read back, empty or not. -/
theorem orDefault?_unlessEmpty {read : Value → Option (List α)} {items : List α}
    (write : List α → Value)
    (found : members.get? name = if items ≠ [] then some (write items) else none)
    (reads : read (write items) = some items) :
    members.orDefault? name [] read = some items := by
  cases items with
  | nil => exact orDefault?_written found (fun _ => rfl) (by simp)
  | cons item rest =>
    rw [if_pos (List.cons_ne_nil item rest)] at found
    exact orDefault?_written found (by simp) (by simpa using reads)

end Readings

end Members

namespace Value

/-- The items of a list are read back if each of them is. -/
theorem listOf?_map {α : Type} {read : Value → Option α} {write : α → Value} (items : List α)
    (reads : ∀ item, read (write item) = some item) :
    listOf? read (.array (items.map write)) = some items := by
  have all : items.mapM (fun item => read (write item)) = some items := by
    induction items with
    | nil => rfl
    | cons item rest inductionHypothesis =>
      rw [List.mapM_cons, reads item, inductionHypothesis]
      rfl
  rw [listOf?, array?, Option.bind_some, List.mapM_map]
  exact all

/-- A list of values is storable if each of them is. -/
theorem storable_map {α : Type} {write : α → Value} {depth : Nat} (items : List α)
    (storable : ∀ item, Storable depth (write item)) :
    Storable (depth + 1) (.array (items.map write)) := by
  refine .array depth _ ?_
  intro value inside
  obtain ⟨item, _, rfl⟩ := List.mem_map.mp inside
  exact storable item

/-- Texts are read back from the array that is written for them. -/
theorem texts?_ofTexts (texts : List String) : texts? (ofTexts texts) = some texts :=
  listOf?_map texts fun _ => rfl

/-- The array that is written for texts is one level deep. -/
theorem storable_ofTexts (depth : Nat) (texts : List String) :
    Storable (depth + 1) (ofTexts texts) :=
  storable_map texts fun text => .string depth text

/-- A byte is read back from the number that is written for it. -/
theorem byte?_ofByte (byte : UInt8) : byte? (ofByte byte) = some byte := by
  have natural : (ofByte byte).nat? = some byte.toNat := rfl
  have small : byte.toNat ≤ 255 := Nat.le_of_lt_succ byte.toNat_lt
  rw [byte?, natural, Option.bind_some, if_pos small, UInt8.ofNat_toNat]

/-- The number of a byte is storable at any depth. -/
theorem storable_ofByte (depth : Nat) (byte : UInt8) : Storable depth (ofByte byte) := by
  have small : byte.toNat < 256 := byte.toNat_lt
  refine .integer depth _ ⟨?_, ?_⟩
  · rw [Number.leastInteger]
    omega
  · rw [Number.greatestInteger]
    omega

/-- What is no null and is read is read where null may stand. -/
theorem orNull?_some {α : Type} {read : Value → Option α} {value : Value} {thing : α}
    (present : value.isNull = false) (reads : read value = some thing) :
    orNull? read value = some (some thing) := by
  rw [orNull?, present, reads]
  rfl

end Value

end CodeReport.Json
