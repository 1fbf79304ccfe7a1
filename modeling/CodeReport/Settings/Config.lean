import CodeReport.Json.Reader
import CodeReport.Json.Shape

/-!
# Configuration

A configuration sets some of six things by name. Whatever the notation of a
file, it comes down to scalars with names: a name is known and stands once, and
its scalar suits it. A list of scalars sets the six in their order, and may end
early.

Nothing is checked beyond that. A mode that is none is found when the settings
are put together, and only if it is used.
-/

namespace CodeReport

/-- What a configuration sets. -/
structure Config where
  endpoint : Option String
  /-- In milliseconds. -/
  timeout : Option Nat
  mode : Option String
  language : Option String
  format : Option String
  logLevel : Option String
  deriving Repr, DecidableEq

namespace Config

/-- The configuration that sets nothing. -/
def empty : Config := ⟨none, none, none, none, none, none⟩

/-- The names of what is set, in order. -/
def names : List String :=
  ["endpoint", "timeout_ms", "mode", "language", "format", "log_level"]

/-- The greatest number that can be set. -/
def greatestNumber : Nat := 0xFFFFFFFFFFFFFFFF

/-- A scalar of a file. -/
inductive Scalar where
  /-- Stands for a setting that is left out. -/
  | nothing
  | text (value : String)
  | number (value : Nat)
  /-- Characters without quotes: a text, and also a number if they write one. -/
  | unquoted (written : String) (number : Option Nat)
  deriving Repr, DecidableEq

namespace Scalar

/-- The scalar as a text setting, if it suits one. -/
def text? : Scalar → Option (Option String)
  | .nothing => some none
  | .text value => some (some value)
  | .unquoted written _ => some (some written)
  | .number _ => none

/-- The scalar as a number setting, if it suits one. -/
def number? : Scalar → Option (Option Nat)
  | .nothing => some none
  | .number value => if value ≤ greatestNumber then some (some value) else none
  | .unquoted _ (some value) => if value ≤ greatestNumber then some (some value) else none
  | _ => none

/-- The scalar that a JSON value is. -/
def ofJson? : Json.Value → Option Scalar
  | .null => some .nothing
  | .string value => some (.text value)
  | value => value.nat?.map .number

end Scalar

/-- A named setting, unset if its name does not stand there. -/
def setting {α : Type} (read : Scalar → Option (Option α)) (named : List (String × Scalar))
    (name : String) : Option (Option α) :=
  match named.lookup name with
  | none => some none
  | some scalar => read scalar

/-- The configuration that named scalars write. -/
def ofScalars? (named : List (String × Scalar)) : Option Config :=
  let written := named.map Prod.fst
  if written.Nodup ∧ written.all names.contains then do
    return {
      endpoint := ← setting Scalar.text? named "endpoint"
      timeout := ← setting Scalar.number? named "timeout_ms"
      mode := ← setting Scalar.text? named "mode"
      language := ← setting Scalar.text? named "language"
      format := ← setting Scalar.text? named "format"
      logLevel := ← setting Scalar.text? named "log_level" }
  else none

/-- The configuration that scalars write in the order of the names. -/
def ofList? (scalars : List Scalar) : Option Config :=
  if scalars.length ≤ names.length then ofScalars? (names.zip scalars) else none

/-- The configuration that members of an object write. -/
def ofMembers? (members : Json.Members) : Option Config :=
  let named? (member : String × Json.Value) : Option (String × Scalar) :=
    (Scalar.ofJson? member.2).map fun scalar => (member.1, scalar)
  (members.mapM named?).bind ofScalars?

/-- The configuration that a JSON value is. -/
def ofJson? : Json.Value → Option Config
  | .object members => ofMembers? members
  | .array items => (items.mapM Scalar.ofJson?).bind ofList?
  | _ => none

/-- The configuration that a JSON text writes. A name that stands twice is refused, so the members
    are taken as they are written. -/
def ofJsonText? (text : String) : Option Config :=
  match Json.membersWritten? text with
  | some members => ofMembers? members
  | none => (Json.Value.ofText text).toOption.bind ofJson?

end Config

end CodeReport
