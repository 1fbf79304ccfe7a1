import CodeReport.Number.Binary64

/-!
# JSON values

A number is an integer or a binary64 value; the two kinds stay apart, since
they are written differently and only integers count or number things. An
object is an ordered list of members. Members that are put in one by one keep
one member per name: a repeated name keeps its first place and takes the last
value.

`Value.agrees` compares values: numbers within their kind, arrays in order and
objects without regard to the order of their members.
-/

namespace CodeReport.Json

/-- A JSON number. -/
inductive Number where
  /-- Written without fraction and exponent. -/
  | integer (value : Int)
  /-- Any other number. -/
  | real (value : Binary64)
  deriving Repr, DecidableEq

namespace Number

/-- The least integer that is kept as an integer. -/
def leastInteger : Int := -0x8000000000000000

/-- The greatest integer that is kept as an integer. -/
def greatestInteger : Int := 0xFFFFFFFFFFFFFFFF

/-- The number as a binary64 value, rounded if need be. -/
def toBinary64 : Number → Binary64
  | .integer value => .ofInt value
  | .real value => value

/-- The natural number that an integer is; no real number counts, be it whole or not. -/
def toNat? : Number → Option Nat
  | .integer (.ofNat value) => some value
  | _ => none

/-- Numbers of one kind with one value. -/
def agrees : Number → Number → Bool
  | .integer left, .integer right => left == right
  | .real left, .real right => left.sameValue right
  | _, _ => false

end Number

/-- A JSON value. -/
inductive Value where
  | null
  | bool (value : Bool)
  | number (value : Number)
  | string (value : String)
  | array (items : List Value)
  | object (members : List (String × Value))
  deriving Repr

/-- The members of an object, in order. -/
abbrev Members := List (String × Value)

namespace Members

/-- The value of the member with a given name. -/
def get? (members : Members) (name : String) : Option Value :=
  members.lookup name

/-- The members with one more: a name that is there keeps its place and takes the new value. -/
def insert : Members → String → Value → Members
  | [], name, value => [(name, value)]
  | member :: rest, name, value =>
    if member.1 = name then (name, value) :: rest else member :: insert rest name value

/-- The members that are left when some are put in one after the other. -/
def ofWritten (written : Members) : Members :=
  written.foldl (fun members member => insert members member.1 member.2) []

end Members

namespace Value

/-- The value of a boolean. -/
def bool? : Value → Option Bool
  | .bool value => some value
  | _ => none

/-- The text of a string. -/
def string? : Value → Option String
  | .string value => some value
  | _ => none

/-- The number that a value is. -/
def number? : Value → Option Number
  | .number value => some value
  | _ => none

/-- The natural number that a value is. -/
def nat? (value : Value) : Option Nat :=
  value.number?.bind Number.toNat?

/-- The items of an array. -/
def array? : Value → Option (List Value)
  | .array items => some items
  | _ => none

/-- The members of an object. -/
def object? : Value → Option Members
  | .object members => some members
  | _ => none

/-- Whether a value is null. -/
def isNull : Value → Bool
  | .null => true
  | _ => false

mutual
/-- Equality of values: the order of an object's members is no part of it. -/
def agrees : Value → Value → Bool
  | .null, .null => true
  | .bool left, .bool right => left == right
  | .number left, .number right => left.agrees right
  | .string left, .string right => left == right
  | .array left, .array right => itemsAgree left right
  | .object left, .object right => left.length == right.length && membersAgree left right
  | _, _ => false

/-- Equality of arrays, item by item. -/
def itemsAgree : List Value → List Value → Bool
  | [], [] => true
  | left :: lefts, right :: rights => agrees left right && itemsAgree lefts rights
  | _, _ => false

/-- Every member on the left agrees with the member of its name on the right. -/
def membersAgree : List (String × Value) → List (String × Value) → Bool
  | [], _ => true
  | (name, value) :: rest, rights =>
    (match rights.lookup name with
      | some other => agrees value other
      | none => false) && membersAgree rest rights
end

end Value

/-- The look-up of a member that was just put in finds its value. -/
theorem Members.get?_insert_self (members : Members) (name : String) (value : Value) :
    (members.insert name value).get? name = some value := by
  induction members with
  | nil => simp [insert, get?]
  | cons member rest ih =>
    by_cases same : member.1 = name
    · simp [insert, get?, same]
    · have differs : (name == member.1) = false := beq_false_of_ne (Ne.symm same)
      rw [insert, if_neg same, get?, List.lookup_cons, differs]
      exact ih

end CodeReport.Json
