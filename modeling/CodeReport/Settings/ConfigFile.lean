import CodeReport.Files.Access
import CodeReport.Settings.Toml
import CodeReport.Settings.Yaml.Document
import CodeReport.Text.Letters

/-!
# Configuration files

The extension of a file says how its configuration is written, in any letter
case; a file with another extension or none is JSON. A file that is not there is
no fault. One that cannot be read or holds no configuration is, and the fault
names the path as it was given.
-/

namespace CodeReport.Config

/-- How a configuration is written. -/
inductive Style where
  | toml
  | yaml
  | json
  deriving Repr, DecidableEq

namespace Style

/-- The name of a style. -/
def name : Style → String
  | .toml => "toml"
  | .yaml => "yaml"
  | .json => "json"

/-- The style of files with an extension. -/
def ofExtension (extension : String) : Style :=
  let extension := Text.lowerCase extension
  if extension = "yaml" || extension = "yml" then .yaml
  else if extension = "toml" then .toml
  else .json

/-- The style of the file that a path leads to. -/
def ofPath (path : String) : Style :=
  ofExtension ((Path.extension? path).getD "")

/-- The configuration that a text writes in a style. -/
def config? : Style → String → Option Config
  | .toml => Toml.config?
  | .yaml => Yaml.config?
  | .json => ofJsonText?

end Style

/-- Why there is no configuration. -/
inductive Fault where
  | unreadable (path : String)
  | malformed (style : Style) (path : String)
  deriving Repr, DecidableEq

/-- The wording of a fault. -/
def Fault.message : Fault → String
  | .unreadable path => s!"failed to read config {path}"
  | .malformed style path => s!"failed to parse {style.name} config {path}"

/-- The configuration in a file, from what reading the file brought. -/
def ofFile (path : String) (content : Except FileFault Bytes) : Except Fault Config :=
  match content.bind textOfBytes with
  | .error _ => .error (.unreadable path)
  | .ok text =>
    match (Style.ofPath path).config? text with
    | some config => .ok config
    | none => .error (.malformed (.ofPath path) path)

/-- The configuration in the file that a path leads to, if there is one. -/
def load {m : Type → Type} [Monad m] (access : Access m) (path : String) :
    m (Except Fault (Option Config)) := do
  if ← access.contains path then
    return (ofFile path (← access.read path)).map some
  else return .ok none

end CodeReport.Config
