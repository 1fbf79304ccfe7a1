import CodeReport.Json.Printer
import CodeReport.Text.Blank

/-!
# Loose readings of JSON values

How the fields of an answer are read. A field of another shape than the one
wanted counts as absent, and so does a blank text. Some texts are read without
their blank ends, some as they are.
-/

namespace CodeReport.Json.Members

/-- A text that is not blank, as it is. -/
def verbatimText? (members : Members) (name : String) : Option String :=
  ((members.get? name).bind Value.string?).filter fun text => !Text.isBlankText text

/-- A text that is not blank, without its blank ends. -/
def trimmedText? (members : Members) (name : String) : Option String :=
  (((members.get? name).bind Value.string?).map Text.trim).filter fun text => !text.isEmpty

end CodeReport.Json.Members

namespace CodeReport.Json.Value

/-- The text of a single value: a text itself, a number or a truth value as JSON writes it. -/
def scalarText? : Value → Option String
  | .string text => some text
  | .number value => some value.text
  | .bool truth => some (if truth then "true" else "false")
  | _ => none

/-- One text out of a list: a single value, or an object with a description. -/
def itemText? : Value → Option String
  | .object members =>
    ["description", "message", "text"].findSome? (Members.trimmedText? members)
  | item => item.scalarText?

/-- A list of texts: an array, whose items without a text are left out, or a single value that is
    not blank. -/
def looseTexts : Value → List String
  | .string text => if Text.isBlankText text then [] else [text]
  | .array items => items.filterMap itemText?
  | other => other.scalarText?.toList

end CodeReport.Json.Value
