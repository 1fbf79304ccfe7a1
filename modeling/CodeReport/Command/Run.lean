import CodeReport.Command.Line
import CodeReport.Command.Reporting
import CodeReport.Settings.ConfigFile

/-!
# Running the program

A run reads its command line, its configuration and its settings, in this order,
and then does its task. Each step is taken only if those before it succeeded, so
a run that ends early has printed and written nothing.

A configuration file that is named must be there. If none is named, the one in
the working directory counts if it is there.
-/

namespace CodeReport.Command

/-- The configuration file that is looked for if none is named. -/
def defaultConfig : String := "bugscope.toml"

/-- What a run finds around it. -/
structure Setting where
  environment : Variables
  screen : Screen
  exchange : Exchange

/-- Whether printed help is shown with emphasis. -/
def Setting.emphasis (setting : Setting) : Bool :=
  Screen.wantsEmphasis setting.environment setting.screen.terminal

/-- Why a run did not do its task. -/
inductive RunFailure where
  /-- The named configuration file is not there. -/
  | noConfig (path : String)
  | config (fault : Config.Fault)
  | settings (fault : Settings.Fault)
  | task (failure : Failure)
  deriving Repr, DecidableEq

namespace RunFailure

/-- What was not done. -/
def summary : RunFailure → String
  | .noConfig path => s!"config file {path} does not exist"
  | .config fault => fault.message
  | .settings fault => fault.message
  | .task failure => failure.summary

/-- Why it was not done, as far as the summary does not say so. -/
def cause? : RunFailure → Option String
  | .task failure => failure.cause?
  | _ => none

end RunFailure

/-- How a run ends. -/
inductive Ending where
  /-- The task is done. -/
  | done
  /-- Help or the version was printed. -/
  | told
  /-- Nothing was asked for, and help is shown as an error. -/
  | unguided (help : Console.Wording)
  | refused (error : UsageError)
  | failed (failure : RunFailure)
  deriving Repr, DecidableEq

namespace Ending

/-- The exit code. -/
def code : Ending → Nat
  | .done => 0
  | .told => 0
  | .unguided _ => 2
  | .refused _ => 2
  | .failed _ => 1

/-- The words for what went wrong, with or without emphasis, and none if nothing did. -/
def complaint (emphasis : Bool) : Ending → String
  | .refused error => error.wording.shown emphasis
  | .unguided help => help.shown emphasis
  | .failed failure =>
    match failure.cause? with
    | some cause => s!"Error: {failure.summary}\n\nCaused by:\n    {cause}\n"
    | none => s!"Error: {failure.summary}\n"
  | _ => ""

/-- The ending of a task. -/
def ofTask : Except Failure Unit → Ending
  | .ok () => .done
  | .error failure => .failed (.task failure)

end Ending

variable {m : Type → Type} [Monad m]

/-- The configuration of a run. -/
def configFor (access : Access m) (named : Option String) : m (Except RunFailure Config) := do
  match named with
  | some path =>
    match ← Config.load access path with
    | .ok (some config) => return .ok config
    | .ok none => return .error (.noConfig path)
    | .error fault => return .error (.config fault)
  | none =>
    match ← Config.load access defaultConfig with
    | .ok config => return .ok (config.getD .empty)
    | .error fault => return .error (.config fault)

/-- The target of a run. -/
def Invocation.target (invocation : Invocation) (settings : Settings) : Target :=
  ⟨settings.format, invocation.out, invocation.collapse⟩

/-- Do the task of a run. -/
def perform (access : Access m) (setting : Setting) (invocation : Invocation)
    (settings : Settings) : m (Except Failure Unit) :=
  let target := invocation.target settings
  match invocation.task with
  | .render => renderSaved access setting.screen invocation.file settings.mode target
  | .analyze =>
    analyzeFile access setting.screen setting.exchange invocation.file settings target

/-- Do what a command line asks for. -/
def invoke (access : Access m) (setting : Setting) (invocation : Invocation) : m Ending := do
  match ← configFor access invocation.config with
  | .error failure => return .failed failure
  | .ok config =>
    match Settings.resolve invocation.options config with
    | .error fault => return .failed (.settings fault)
    | .ok settings => return .ofTask (← perform access setting invocation settings)

/-- Run the program with the words of a command line. -/
def run (access : Access m) (setting : Setting) (words : List String) : m Ending := do
  match Invocation.ofWords setting.environment words with
  | .ok invocation => invoke access setting invocation
  | .error (.refused error) => return .refused error
  | .error (.unguided help) => return .unguided help
  | .error (.told text) => do
    access.print (text.shown setting.emphasis)
    return .told

end CodeReport.Command
