import CodeReport.Output.Format
import CodeReport.Settings.Config

/-!
# Settings

The settings of a run come from three places. What the command line says wins
over the configuration, and what neither says has a default. Only what is used
is looked at: a mode in the configuration is no fault when the command line
names another one.

The faults are looked for in one order: the timeout, the mode, the format.
-/

namespace CodeReport

/-- What the command line can say about the settings. -/
structure Options where
  endpoint : Option String
  /-- In milliseconds. -/
  timeout : Option Nat
  mode : Option Mode
  language : Option String
  format : Option Format
  logLevel : Option String
  deriving Repr, DecidableEq

/-- Options that say nothing. -/
def Options.empty : Options := ⟨none, none, none, none, none, none⟩

/-- The settings of a run. -/
structure Settings where
  endpoint : String
  /-- In milliseconds. -/
  timeout : Nat
  mode : Mode
  /-- Told from the source file if it is not set. -/
  language : Option String
  format : Format
  logLevel : String
  deriving Repr, DecidableEq

namespace Settings

/-- Why there are no settings. -/
inductive Fault where
  | noTimeout
  | unknownMode (error : UnknownMode)
  | unknownFormat (error : UnknownFormat)
  deriving Repr, DecidableEq

/-- The wording of a fault. -/
def Fault.message : Fault → String
  | .noTimeout => "timeout_ms must be greater than zero"
  | .unknownMode error => s!"invalid mode in config: {error.message}"
  | .unknownFormat error => s!"invalid format in config: {error.message}"

/-- The address of the service that is asked by default. -/
def defaultEndpoint : String := "http://localhost:3001"

/-- How long an answer is waited for by default, in milliseconds. -/
def defaultTimeout : Nat := 60000

/-- How much is logged by default. -/
def defaultLogLevel : String := "info"

/-- The timeout, which is never zero. -/
def timeoutOf (options : Options) (config : Config) : Except Fault Nat :=
  let timeout := (options.timeout.or config.timeout).getD defaultTimeout
  if timeout = 0 then .error .noTimeout else .ok timeout

/-- The mode that is given, or else the one that is named, or else the analysis. -/
def modeOf (options : Options) (config : Config) : Except Fault Mode :=
  match options.mode, config.mode with
  | some mode, _ => .ok mode
  | none, some word => (Mode.parse word).mapError .unknownMode
  | none, none => .ok .analysis

/-- The format that is given, or else the one that is named, or else a page. -/
def formatOf (options : Options) (config : Config) : Except Fault Format :=
  match options.format, config.format with
  | some format, _ => .ok format
  | none, some word => (Format.parse word).mapError .unknownFormat
  | none, none => .ok .html

/-- The settings from options and a configuration. -/
def resolve (options : Options) (config : Config) : Except Fault Settings := do
  let timeout ← timeoutOf options config
  let mode ← modeOf options config
  let format ← formatOf options config
  return {
    endpoint := (options.endpoint.or config.endpoint).getD defaultEndpoint
    timeout
    mode
    language := options.language.or config.language
    format
    logLevel := (options.logLevel.or config.logLevel).getD defaultLogLevel }

end Settings

end CodeReport
