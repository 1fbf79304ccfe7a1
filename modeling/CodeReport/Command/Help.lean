import CodeReport.Command.Parameter
import CodeReport.Command.Screen
import CodeReport.Program
import CodeReport.Text.Lines

/-!
# Help

The parts of the command line and the help on each: what it does, how it is
used, and what can be given. Entries are laid out in two columns, of which the
left one is as wide as its longest entry.
-/

namespace CodeReport.Command

/-- The parts of the command line that read arguments. -/
inductive Level where
  /-- The program, before a subcommand is named. -/
  | program
  | analyze
  | render
  deriving Repr, DecidableEq

namespace Level

/-- The subcommands. -/
def subcommands : List Level := [.analyze, .render]

/-- The name of a subcommand; the program is not named by one. -/
def name? : Level → Option String
  | .program => none
  | .analyze => some "analyze"
  | .render => some "render"

/-- The subcommand with a name. -/
def named? (name : String) : Option Level :=
  subcommands.find? fun level => level.name? = some name

/-- What a part does. -/
def purpose : Level → String
  | .program => "Structured, styled reports from AI code analysis"
  | .analyze => "Send a source file to the analysis service and render the answer"
  | .render => "Render a previously saved service payload (offline)"

/-- The options of a part that have a value. Those of the program can also be given to a
    subcommand. -/
def options : Level → List Parameter
  | .program => [.config, .logLevel]
  | .analyze =>
    [.config, .language, .endpoint, .logLevel, .timeout, .mode, .format, .out, .collapse]
  | .render => [.config, .mode, .format, .logLevel, .out, .collapse]

/-- The file that a subcommand is about. -/
def file? : Level → Option Parameter
  | .program => none
  | .analyze => some .source
  | .render => some .answer

/-- The option of a part with a name. -/
def optionNamed? (level : Level) (name : String) : Option Parameter :=
  level.options.find? fun option => option.name? = some name

/-- The option of a part with a letter. -/
def optionLettered? (level : Level) (letter : Char) : Option Parameter :=
  level.options.find? fun option => option.letter? = some letter

end Level

/-- The options without a value. -/
inductive Flag where
  | help
  | version
  deriving Repr, DecidableEq

namespace Flag

/-- The name of a flag. -/
def name : Flag → String
  | .help => "help"
  | .version => "version"

/-- The letter of a flag. -/
def letter : Flag → Char
  | .help => 'h'
  | .version => 'V'

/-- What a flag is for. -/
def purpose : Flag → String
  | .help => "Print help"
  | .version => "Print version"

end Flag

/-- The flags of a part. Only the program has a version. -/
def Level.flags : Level → List Flag
  | .program => [.help, .version]
  | _ => [.help]

/-- The word that asks for help in place of a subcommand. -/
def helpWord : String := "help"

/-- What the help word does. -/
def helpPurpose : String := "Print this message or the help of the given subcommand(s)"

/-- An entry of the help: how something is written, and what it is for. -/
structure HelpEntry where
  form : Console.Wording
  purpose : String
  deriving Repr, DecidableEq

namespace HelpEntry

/-- The number of characters of the left column. -/
def width (entry : HelpEntry) : Nat := entry.form.text.length

/-- The entry in two columns, of which the left one has `width` characters. Lines of the right one
    begin below each other. -/
def line (width : Nat) (entry : HelpEntry) : Console.Wording :=
  let margin := Text.replicate (width + 4) ' '
  let purpose := ("\n" ++ margin).intercalate (entry.purpose.splitOn "\n")
  List.flatten [["  "], entry.form,
    [Text.replicate (width - entry.width + 2) ' ', purpose, "\n"]]

end HelpEntry

/-- Entries in two columns. -/
def layOut (entries : List HelpEntry) : Console.Wording :=
  let width := (entries.map HelpEntry.width).foldl max 0
  entries.flatMap (HelpEntry.line width)

/-- The two forms of an option in one column, where not all options have a letter. -/
def optionForms (letter : Option Char) (form : Console.Wording) : Console.Wording :=
  match letter with
  | some letter => .literal s!"-{letter}" :: ", " :: form
  | none => "    " :: form

/-- The entry of an option. It shows the value of the variable that stands in for it. -/
def Parameter.entry (environment : Variables) (parameter : Parameter) : HelpEntry :=
  let purpose := match parameter.standIn? with
    | some name =>
      let value := (environment.lookup name).getD ""
      s!"{parameter.purpose} [env: {name}={value}]"
    | none => parameter.purpose
  ⟨optionForms parameter.letter? parameter.form, purpose⟩

/-- The entry of a flag. -/
def Flag.entry (flag : Flag) : HelpEntry :=
  ⟨optionForms (some flag.letter) [.literal s!"--{flag.name}"], flag.purpose⟩

/-- The entry of a subcommand. -/
def commandEntry (name purpose : String) : HelpEntry := ⟨[.literal name], purpose⟩

/-- The entries of a part under a heading. -/
def helpPart (heading : String) (entries : List HelpEntry) : Console.Wording :=
  "\n" :: .heading s!"{heading}:" :: "\n" :: layOut entries

/-- What a part does and how it is used: its name, and what stands behind that. -/
def helpHead (purpose name words : String) : Console.Wording :=
  [s!"{purpose}\n\n", .heading "Usage:", " ", .literal name, s!" {words}\n"]

/-- The options of a part, laid out. -/
def Level.optionsHelp (level : Level) (environment : Variables) : Console.Wording :=
  helpPart "Options"
    (level.options.map (Parameter.entry environment) ++ level.flags.map Flag.entry)

/-- What a part reads besides options, laid out below its usage. -/
def Level.usageHelp (level : Level) : Console.Wording :=
  match level.name?, level.file? with
  | some name, some file =>
    helpHead level.purpose s!"{Program.name} {name}" s!"[OPTIONS] {file.usage}" ++
      helpPart "Arguments" [⟨file.form, file.purpose⟩]
  | _, _ =>
    let entries := subcommands.filterMap fun (subcommand : Level) =>
      subcommand.name?.map fun name => commandEntry name subcommand.purpose
    helpHead level.purpose Program.name "[OPTIONS] <COMMAND>" ++
      helpPart "Commands" (entries ++ [commandEntry helpWord helpPurpose])

/-- The help on a part. -/
def Level.help (level : Level) (environment : Variables) : Console.Wording :=
  level.usageHelp ++ level.optionsHelp environment

/-- The help on the help word. -/
def helpOnHelp : Console.Wording :=
  helpHead helpPurpose s!"{Program.name} {helpWord}" "[COMMAND]..." ++
    helpPart "Arguments" [⟨["[COMMAND]..."], "Print help for the subcommand(s)"⟩]

/-- What the version flag prints. -/
def versionText : Console.Wording := [s!"{Program.name} {Program.version}\n"]

end CodeReport.Command
