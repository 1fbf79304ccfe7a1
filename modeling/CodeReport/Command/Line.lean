import CodeReport.Command.Help
import CodeReport.Settings.Resolve

/-!
# Reading the command line

The words of a command line are read one after the other. An option waits for
its value; a value that has come waits until the next option, file or the end,
and only then is it read. So of two faults the earlier one need not win: a word
that is not known is found before the value ahead of it is read.

The words behind a subcommand are read and checked before the value that still
waits ahead of it. Behind two dashes nothing is an option any more.
-/

namespace CodeReport.Command

/-- Why reading stops. -/
inductive Stop where
  | refused (error : UsageError)
  /-- Help or the version was asked for. -/
  | told (text : Console.Wording)
  /-- Nothing was asked for. -/
  | unguided (help : Console.Wording)
  deriving Repr, DecidableEq

/-- What was read of the words of one part. -/
structure Reading where
  given : Given
  /-- The parameter that was named last, with its value if that has come. -/
  waiting : Option (Parameter × Option String)
  deriving Repr, DecidableEq

namespace Reading

/-- Nothing was read. -/
def start : Reading := ⟨.nothing, none⟩

/-- Whether an option waits for its value. -/
def wantsValue (reading : Reading) : Bool :=
  match reading.waiting with
  | some (_, none) => true
  | _ => false

/-- The reading after the waiting parameter was taken. -/
def settle (reading : Reading) : Except Stop Reading :=
  match reading.waiting with
  | none => .ok reading
  | some (parameter, value) =>
    match reading.given.take parameter value with
    | .ok given => .ok ⟨given, none⟩
    | .error error => .error (.refused error)

/-- A parameter was named, maybe with a value that waits. -/
def name (reading : Reading) (parameter : Parameter) (value : Option String) :
    Except Stop Reading :=
  reading.settle.map fun settled => { settled with waiting := some (parameter, value) }

/-- A parameter was named with a value attached, which does not wait. -/
def attach (reading : Reading) (parameter : Parameter) (value : String) : Except Stop Reading := do
  (← reading.name parameter (some value)).settle

/-- The value came that the named parameter waited for. -/
def supply (reading : Reading) (value : String) : Reading :=
  { reading with waiting := reading.waiting.map fun waiting => (waiting.1, some value) }

/-- Whether the file of a part was named. -/
def hasFile (reading : Reading) (file : Parameter) : Bool :=
  reading.given.file.isSome || reading.waiting.any fun waiting => waiting.1 = file

end Reading

/-- Words cannot be read on. -/
def refuse {α : Type} (error : UsageError) : Except Stop α := .error (.refused error)

/-- What a flag stops with, once the waiting parameter was taken. -/
def Flag.stop (flag : Flag) (level : Level) (environment : Variables) (reading : Reading) : Stop :=
  match reading.settle with
  | .error stop => stop
  | .ok _ =>
    match flag with
    | .help => .told (level.help environment)
    | .version => .told versionText

/-- Divide a text at the first equals sign. -/
def splitValue (characters : List Char) : String × Option String :=
  let name := String.ofList (characters.takeWhile (· != '='))
  match characters.dropWhile (· != '=') with
  | [] => (name, none)
  | _ :: value => (name, some (String.ofList value))

/-- Read an option by its name, from behind the two dashes on. -/
def readNamed (level : Level) (environment : Variables) (reading : Reading)
    (characters : List Char) : Except Stop Reading :=
  let (name, value) := splitValue characters
  match level.optionNamed? name, level.flags.find? fun flag => flag.name = name with
  | some option, _ =>
    match value with
    | some value => reading.attach option value
    | none => reading.name option none
  | none, some flag =>
    match value with
    | some value => refuse (.unneededValue s!"--{name}" value)
    | none => .error (flag.stop level environment reading)
  | none, none => refuse (.unknownArgument s!"--{name}")

/-- Read an option by its letter. What follows the letter is the value, with or without an equals
    sign; flags stop at once, so only the first letter can be one. -/
def readLettered (level : Level) (environment : Variables) (reading : Reading) (letter : Char)
    (rest : List Char) : Except Stop Reading :=
  match level.optionLettered? letter, level.flags.find? fun flag => flag.letter = letter with
  | some option, _ =>
    match rest with
    | [] => reading.name option none
    | '=' :: value => reading.attach option (String.ofList value)
    | value => reading.attach option (String.ofList value)
  | none, some flag => .error (flag.stop level environment reading)
  | none, none => refuse (.unknownArgument s!"-{letter}")

/-- Whether a word can stand in the place of a subcommand. -/
def namesSubcommand (word : String) : Bool :=
  word = helpWord || (Level.named? word).isSome

/-- Read a word that is no option and no value of one. -/
def readPlain (level : Level) (trailing : Bool) (reading : Reading) (word : String) :
    Except Stop Reading :=
  match level.file? with
  | some file =>
    if reading.hasFile file then refuse (.unknownArgument word) else reading.name file (some word)
  | none =>
    if trailing && namesSubcommand word then refuse (.unknownArgument word)
    else refuse (.unknownCommand word)

/-- Read a word, not behind two dashes alone and not the name of a subcommand. -/
def readWord (level : Level) (environment : Variables) (reading : Reading) (word : String) :
    Except Stop Reading :=
  match word.toList with
  | '-' :: '-' :: characters => readNamed level environment reading characters
  | '-' :: letter :: rest => readLettered level environment reading letter rest
  | _ =>
    if reading.wantsValue then .ok (reading.supply word) else readPlain level false reading word

/-- Read words up to the end or to the name of a subcommand, which the program reads unless a value
    is wanted. What is left then begins with that name. -/
def readWords (level : Level) (environment : Variables) (reading : Reading) :
    (trailing : Bool) → List String → Except Stop (Reading × List String)
  | _, [] => .ok (reading, [])
  | true, word :: rest =>
    match readPlain level true reading word with
    | .ok reading => readWords level environment reading true rest
    | .error stop => .error stop
  | false, word :: rest =>
    if level = .program && !reading.wantsValue && namesSubcommand word then
      .ok (reading, word :: rest)
    else if word = "--" then readWords level environment reading true rest
    else
      match readWord level environment reading word with
      | .ok reading => readWords level environment reading false rest
      | .error stop => .error stop

/-- What was given to a subcommand, whose file must be there. A variable stands in for an address
    that was not given. -/
def readSubcommand (level : Level) (environment : Variables) (words : List String) :
    Except Stop Given := do
  let (reading, _) ← readWords level environment .start false words
  let given := (← reading.settle).given
  if given.file.isNone then refuse .missingFile
  else
    let standIn := (Parameter.standIn? .endpoint).bind fun name => environment.lookup name
    return { given with endpoint := given.endpoint.or standIn }

/-- What the help word says about the words behind it. -/
def helpOn (environment : Variables) : List String → Stop
  | [] => .told (Level.program.help environment)
  | word :: rest =>
    match Level.named? word, rest with
    | some level, [] => .told (level.help environment)
    | some _, other :: _ => .refused (.unknownCommand other)
    | none, [] =>
      if word = helpWord then .told helpOnHelp else .refused (.unknownCommand word)
    | none, other :: _ => .refused (.unknownCommand (if word = helpWord then other else word))

/-- What is to be done. -/
inductive Task where
  | analyze
  | render
  deriving Repr, DecidableEq

/-- What a command line asks for. -/
structure Invocation where
  task : Task
  /-- The file that the task is about. -/
  file : String
  config : Option String
  options : Options
  out : Option String
  collapse : List String
  deriving Repr, DecidableEq

/-- What is asked for by what was given to the program and to a subcommand. Of what both were given
    that to the subcommand counts. -/
def Invocation.ofGiven (task : Task) (program subcommand : Given) : Invocation where
  task := task
  file := subcommand.file.getD ""
  config := subcommand.config.or program.config
  options := {
    endpoint := subcommand.endpoint
    timeout := subcommand.timeout
    mode := subcommand.mode
    language := subcommand.language
    format := subcommand.format
    logLevel := subcommand.logLevel.or program.logLevel }
  out := subcommand.out
  collapse := subcommand.collapse

/-- The task of a subcommand. -/
def Level.task? : Level → Option Task
  | .program => none
  | .analyze => some .analyze
  | .render => some .render

/-- Why a command line without a subcommand is refused. -/
def withoutSubcommand (environment : Variables) (given : Given) : Stop :=
  if given = .nothing then .unguided (Level.program.help environment) else .refused .missingCommand

/-- What the words of a command line ask for. -/
def Invocation.ofWords (environment : Variables) (words : List String) : Except Stop Invocation := do
  let (reading, rest) ← readWords .program environment .start false words
  match rest with
  | [] => .error (withoutSubcommand environment (← reading.settle).given)
  | word :: rest =>
    match (Level.named? word).bind fun level => level.task?.map fun task => (level, task) with
    | none => .error (helpOn environment rest)
    | some (level, task) =>
      let subcommand ← readSubcommand level environment rest
      return .ofGiven task (← reading.settle).given subcommand

end CodeReport.Command
