import CodeReport.Console.Wording
import CodeReport.Number.Digits
import CodeReport.Output.Format
import CodeReport.Program
import CodeReport.Report.Mode

/-!
# Parameters of the command line

A parameter is an option with a value or the file that a command is about. Each
one reads its value strictly, and what was given is kept by parameter. Only
words for sections to collapse may be given more than once.
-/

namespace CodeReport.Command

/-- What can be given on the command line. -/
inductive Parameter where
  | config
  | logLevel
  | language
  | endpoint
  | timeout
  | mode
  | format
  | out
  | collapse
  /-- The source file to analyze. -/
  | source
  /-- The saved answer to show. -/
  | answer
  deriving Repr, DecidableEq

namespace Parameter

/-- The name of an option; a file has none. -/
def name? : Parameter → Option String
  | .config => some "config"
  | .logLevel => some "log-level"
  | .language => some "language"
  | .endpoint => some "endpoint"
  | .timeout => some "timeout-ms"
  | .mode => some "mode"
  | .format => some "format"
  | .out => some "out"
  | .collapse => some "collapse"
  | .source => none
  | .answer => none

/-- The letter of an option that has one. -/
def letter? : Parameter → Option Char
  | .out => some 'o'
  | _ => none

/-- What stands for the value of a parameter. -/
def placeholder : Parameter → String
  | .config => "CONFIG"
  | .logLevel => "LOG_LEVEL"
  | .language => "LANGUAGE"
  | .endpoint => "ENDPOINT"
  | .timeout => "TIMEOUT_MS"
  | .mode => "MODE"
  | .format => "FORMAT"
  | .out => "OUT"
  | .collapse => "KEY"
  | .source => "FILE"
  | .answer => "PAYLOAD"

/-- How a parameter is written. -/
def form (parameter : Parameter) : Console.Wording :=
  match parameter.name? with
  | some name => [.literal s!"--{name}", s!" <{parameter.placeholder}>"]
  | none => [s!"<{parameter.placeholder}>"]

/-- How a parameter is written, without emphasis. -/
def usage (parameter : Parameter) : String := parameter.form.text

/-- What a parameter is for. -/
def purpose : Parameter → String
  | .config => "Config file (.toml, .yaml or .json); defaults to ./bugscope.toml when present"
  | .logLevel => "Log level (trace, debug, info, warn, error)"
  | .language => "Language sent to the service (detected from the extension otherwise)"
  | .endpoint => "Analysis service base URL"
  | .timeout => "Request timeout in milliseconds"
  | .mode => "Report template: analysis or debug"
  | .format => "Output format: html, text or json"
  | .out => "Write the report here instead of stdout"
  | .collapse => "Start this section collapsed (key or title, repeatable)"
  | .source => "Source file to analyze"
  | .answer => "Saved JSON payload"

/-- The environment variable that stands in for an option. -/
def standIn? : Parameter → Option String
  | .endpoint => some "BUGSCOPE_ENDPOINT"
  | _ => none

end Parameter

/-- Why a text is no number. -/
inductive NumberFault where
  | empty
  | noDigit
  | tooLarge
  deriving Repr, DecidableEq

/-- The wording of a fault. -/
def NumberFault.message : NumberFault → String
  | .empty => "cannot parse integer from empty string"
  | .noDigit => "invalid digit found in string"
  | .tooLarge => "number too large to fit in target type"

/-- The greatest number that can be given. -/
def greatestNumber : Nat := 0xFFFFFFFFFFFFFFFF

/-- The number that begins with `value` and goes on with decimal digits. The first character that
    is no digit or makes the number too large decides what is wrong. -/
def numberFrom (value : Nat) : List Char → Except NumberFault Nat
  | [] => .ok value
  | character :: rest =>
    match Digits.valueIn? 10 character with
    | none => .error .noDigit
    | some digit =>
      if 10 * value + digit ≤ greatestNumber then numberFrom (10 * value + digit) rest
      else .error .tooLarge

/-- The number that a text writes: decimal digits, maybe behind a plus sign. -/
def number (text : String) : Except NumberFault Nat :=
  match text.toList with
  | [] => .error .empty
  | ['+'] => .error .noDigit
  | '+' :: digits => numberFrom 0 digits
  | digits => numberFrom 0 digits

/-- Why a command line is refused. -/
inductive UsageError where
  | unknownCommand (word : String)
  | missingCommand
  | unknownArgument (word : String)
  /-- A value was given to an option that has none. -/
  | unneededValue (option value : String)
  | missingValue (parameter : Parameter)
  | invalidValue (parameter : Parameter) (value cause : String)
  | repeated (parameter : Parameter)
  | missingFile
  deriving Repr, DecidableEq

/-- What a command line is refused for. -/
def UsageError.cause : UsageError → Console.Wording
  | .unknownCommand word => ["unrecognized subcommand '", .fault word, "'"]
  | .missingCommand =>
    ["'", .fault Program.name, "' requires a subcommand but one was not provided"]
  | .unknownArgument word => ["unexpected argument '", .fault word, "' found"]
  | .unneededValue option value =>
    ["unexpected value '", .fault value, "' for '", .literal option,
      "' found; no more were expected"]
  | .missingValue parameter =>
    ["a value is required for '", .literal parameter.usage, "' but none was supplied"]
  | .invalidValue parameter value cause =>
    ["invalid value '", .fault value, "' for '", .literal parameter.usage, s!"': {cause}"]
  | .repeated parameter =>
    ["the argument '", .fault parameter.usage, "' cannot be used multiple times"]
  | .missingFile => ["the following required arguments were not provided:"]

/-- The wording of an error, with a pointer to the help. -/
def UsageError.wording (error : UsageError) : Console.Wording :=
  List.flatten [[.alarm "error:", " "], error.cause,
    ["\n\nFor more information, try '", .literal "--help", "'.\n"]]

/-- What was given for the parameters. -/
structure Given where
  config : Option String
  logLevel : Option String
  language : Option String
  endpoint : Option String
  timeout : Option Nat
  mode : Option Mode
  format : Option Format
  out : Option String
  collapse : List String
  file : Option String
  deriving Repr, DecidableEq

namespace Given

/-- Nothing was given. -/
def nothing : Given :=
  ⟨none, none, none, none, none, none, none, none, [], none⟩

/-- Whether a parameter was given that may be given once. -/
def holds (given : Given) : Parameter → Bool
  | .config => given.config.isSome
  | .logLevel => given.logLevel.isSome
  | .language => given.language.isSome
  | .endpoint => given.endpoint.isSome
  | .timeout => given.timeout.isSome
  | .mode => given.mode.isSome
  | .format => given.format.isSome
  | .out => given.out.isSome
  | .collapse => false
  | .source => given.file.isSome
  | .answer => given.file.isSome

/-- A path, which must not be empty. -/
def path (parameter : Parameter) (value : String) : Except UsageError (Option String) :=
  if value.isEmpty then .error (.missingValue parameter) else .ok (some value)

/-- What was given together with one more value, which its parameter reads. -/
def put (given : Given) (parameter : Parameter) (value : String) : Except UsageError Given :=
  match parameter with
  | .config => (path parameter value).map fun config => { given with config }
  | .logLevel => .ok { given with logLevel := some value }
  | .language => .ok { given with language := some value }
  | .endpoint => .ok { given with endpoint := some value }
  | .timeout =>
    match number value with
    | .ok timeout => .ok { given with timeout := some timeout }
    | .error fault => .error (.invalidValue parameter value fault.message)
  | .mode =>
    match Mode.parse value with
    | .ok mode => .ok { given with mode := some mode }
    | .error fault => .error (.invalidValue parameter value fault.message)
  | .format =>
    match Format.parse value with
    | .ok format => .ok { given with format := some format }
    | .error fault => .error (.invalidValue parameter value fault.message)
  | .out => (path parameter value).map fun out => { given with out }
  | .collapse => .ok { given with collapse := given.collapse ++ [value] }
  | .source => (path parameter value).map fun file => { given with file }
  | .answer => (path parameter value).map fun file => { given with file }

/-- Take a value for a parameter. It must be there, and once is enough. -/
def take (given : Given) (parameter : Parameter) : Option String → Except UsageError Given
  | none => .error (.missingValue parameter)
  | some value =>
    if given.holds parameter then .error (.repeated parameter) else given.put parameter value

end Given

end CodeReport.Command
