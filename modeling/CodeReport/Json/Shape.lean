import CodeReport.Json.Value

/-!
# The shapes of records in JSON

Records, names and lists as they are written by this library, and their strict
readings. Nothing is converted: a number is no text, and null is a value only
where something may be absent. A record is an object whose unknown members are
ignored; it may also be an array of its fields in order, in which fields may be
left out at the end.
-/

namespace CodeReport.Json.Value

/-- An array of texts as a value. -/
def ofTexts (texts : List String) : Value :=
  .array (texts.map .string)

/-- A byte as a value. -/
def ofByte (byte : UInt8) : Value :=
  .number (.integer byte.toNat)

/-- The readings of an array's items, if all of them have one. -/
def listOf? {α : Type} (read : Value → Option α) (value : Value) : Option (List α) :=
  value.array?.bind (List.mapM read)

/-- An array of texts. -/
def texts? : Value → Option (List String) :=
  listOf? string?

/-- A reading of something that null says is absent. -/
def orNull? {α : Type} (read : Value → Option α) (value : Value) : Option (Option α) :=
  if value.isNull then some none else (read value).map some

/-- An integer from 0 to 255. -/
def byte? (value : Value) : Option UInt8 :=
  value.nat?.bind fun number => if number ≤ 255 then some (UInt8.ofNat number) else none

/-- One of some named things: its name, or an object with its name as the only member. Such a
    member holds nothing, which `isNothing` decides. -/
def namedThing? {α : Type} (isNothing : Value → Bool) (things : List (String × α)) :
    Value → Option α
  | .string name => things.lookup name
  | .object [(name, value)] => if isNothing value then things.lookup name else none
  | _ => none

/-- One of some named things, where null stands for nothing. -/
def named? {α : Type} (things : List (String × α)) : Value → Option α :=
  namedThing? isNull things

/-- The members of a record with given field names. -/
def record? (fields : List String) : Value → Option Members
  | .object members => some members
  | .array items => if items.length ≤ fields.length then some (fields.zip items) else none
  | _ => none

end CodeReport.Json.Value

namespace CodeReport.Json.Members

/-- A member that is left out when there is nothing to write. -/
def optional {α : Type} (name : String) (write : α → Value) : Option α → Members
  | none => []
  | some value => [(name, write value)]

/-- A member for a list, left out when the list is empty. -/
def unlessEmpty {α : Type} (name : String) (write : List α → Value) : List α → Members
  | [] => []
  | items => [(name, write items)]

/-- The reading of a member that has to be there. -/
def required? {α : Type} (members : Members) (name : String) (read : Value → Option α) :
    Option α :=
  (members.get? name).bind read

/-- The reading of a member, or a default if it is not there. -/
def orDefault? {α : Type} (members : Members) (name : String) (default : α)
    (read : Value → Option α) : Option α :=
  match members.get? name with
  | none => some default
  | some value => read value

end CodeReport.Json.Members
