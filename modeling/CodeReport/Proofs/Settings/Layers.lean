import CodeReport.Proofs.Text.Blank
import CodeReport.Proofs.Text.Letters
import CodeReport.Settings.Resolve

/-!
# Settings come from layers

Each of the six settings is looked for in three layers: what the command line gives, what
a configuration writes, and what is assumed. The first layer that says something decides,
and the layers below it are not looked at, be they sound or not. Modes and formats are
written as texts in a configuration, and a text can fail to name one.

There are three objections to what the layers say, and they are looked for in one order.
Settings are refused with the first objection that can be raised, and made exactly if there
is none. A configuration may be missing as a whole.
-/

namespace CodeReport

namespace Text

/-- A text spells a name if, between blank characters, it consists of the letters of the name in
any case. -/
def Spells (text name : String) : Prop :=
  ∃ word, IsTrimmed text word ∧ List.Forall₂ SameLetter name.toList word.toList

/-- A name in small letters is spelled by the texts that become it when they are trimmed and their
letters are made small. -/
theorem spells_iff (text name : String) (small : lowerCase name = name) :
    Spells text name ↔ lowerCase (trim text) = name := by
  have letters : List.Forall₂ SameLetter name.toList (trim text).toList ↔
      lowerCase (trim text) = name := by
    rw [← map_toLower_eq_iff, ← String.ofList_inj, ← lowerCase, ← lowerCase, small]
    exact eq_comm
  rw [← letters]
  constructor
  · rintro ⟨word, trimmed, same⟩
    rwa [← trimmed.eq_trim]
  · intro same
    exact ⟨trim text, isTrimmed_trim text, same⟩

/-- A text calls something by one of its names. -/
def Calls (names : List String) (text : String) : Prop :=
  ∃ name ∈ names, Spells text name

/-- How things with names are read: a text that calls one is read as it, and any other text is
reported without its blank ends and in small letters. -/
structure ReadsNames {α ε : Type} (parse : String → Except ε α) (names : α → List String)
    (unknown : String → ε) : Prop where
  ok_iff : ∀ text value, parse text = .ok value ↔ Calls (names value) text
  error_iff : ∀ text error, parse text = .error error ↔
    (∀ value, ¬ Calls (names value) text) ∧ error = unknown (lowerCase (trim text))

/-- Names in small letters are read by comparing words with them. -/
theorem readsNames_of_words {α ε : Type} {parse : String → Except ε α} {names : α → List String}
    {unknown : String → ε} (read : String → Except ε α)
    (reads : ∀ text, parse text = read (lowerCase (trim text)))
    (small : ∀ value, ∀ name ∈ names value, lowerCase name = name)
    (found : ∀ word value, read word = .ok value ↔ word ∈ names value)
    (reported : ∀ word error, read word = .error error → error = unknown word) :
    ReadsNames parse names unknown := by
  have calls (text : String) (value : α) :
      parse text = .ok value ↔ Calls (names value) text := by
    rw [reads, found]
    constructor
    · intro isName
      exact ⟨_, isName, (spells_iff text _ (small value _ isName)).mpr rfl⟩
    · rintro ⟨name, isName, spelled⟩
      rwa [(spells_iff text name (small value name isName)).mp spelled]
  refine ⟨calls, ?_⟩
  intro text error
  constructor
  · intro refused
    refine ⟨?_, reported _ error (by rwa [reads] at refused)⟩
    intro value called
    rw [(calls text value).mpr called] at refused
    cases refused
  · rintro ⟨uncalled, rfl⟩
    cases outcome : parse text with
    | ok value => exact absurd ((calls text value).mp outcome) (uncalled value)
    | error other =>
      rw [reads] at outcome
      rw [reported _ other outcome]

end Text

/-- The names of a mode. -/
def Mode.names : Mode → List String
  | .analysis => ["analysis", "analyze"]
  | .debug => ["debug"]

/-- A mode is read from its names and from nothing else. -/
theorem Mode.readsNames_parse : Text.ReadsNames parse names UnknownMode.mk := by
  refine Text.readsNames_of_words
    (fun word => if word = "analysis" || word = "analyze" then .ok .analysis
      else if word = "debug" then .ok .debug
      else .error ⟨word⟩) (fun _ => rfl) ?_ ?_ ?_
  · intro mode
    cases mode <;> decide
  · intro word mode
    cases mode <;> grind [Mode.names]
  · intro word error refused
    split_ifs at refused
    exact (Except.error.inj refused).symm

/-- The names of a format. -/
def Format.names : Format → List String
  | .html => ["html"]
  | .text => ["text", "txt", "console"]
  | .json => ["json"]

/-- A format is read from its names and from nothing else. -/
theorem Format.readsNames_parse : Text.ReadsNames parse names UnknownFormat.mk := by
  refine Text.readsNames_of_words
    (fun word => if word = "html" then .ok .html
      else if word = "text" || word = "txt" || word = "console" then .ok .text
      else if word = "json" then .ok .json
      else .error ⟨word⟩) (fun _ => rfl) ?_ ?_ ?_
  · intro format
    cases format <;> decide
  · intro word format
    cases format <;> grind [Format.names]
  · intro word error refused
    split_ifs at refused
    exact (Except.error.inj refused).symm

namespace Settings

/-- The six settings. -/
inductive Field where
  | endpoint
  | timeout
  | mode
  | language
  | format
  | logLevel
  deriving DecidableEq

namespace Field

/-- What a command line gives for a setting. -/
abbrev Given : Field → Type
  | .endpoint | .language | .logLevel => String
  | .timeout => Nat
  | .mode => Mode
  | .format => Format

/-- What a configuration writes for a setting. -/
abbrev Written : Field → Type
  | .timeout => Nat
  | .endpoint | .mode | .language | .format | .logLevel => String

/-- What a setting is in the end. There may be no language. -/
abbrev Value : Field → Type
  | .endpoint | .logLevel => String
  | .timeout => Nat
  | .mode => Mode
  | .language => Option String
  | .format => Format

/-- What is assumed of a setting. -/
def assumed : (field : Field) → field.Value
  | .endpoint => "http://localhost:3001"
  | .timeout => 60000
  | .mode => .analysis
  | .language => none
  | .format => .html
  | .logLevel => "info"

/-- The value that a command line gives. -/
def taken : (field : Field) → field.Given → field.Value
  | .endpoint, word => word
  | .timeout, number => number
  | .mode, choice => choice
  | .language, word => some word
  | .format, choice => choice
  | .logLevel, word => word

/-- The values that a configuration writes: those that a text calls by name, or else the thing
itself. -/
def Reads : (field : Field) → field.Written → field.Value → Prop
  | .endpoint, word, value => word = value
  | .timeout, number, value => number = value
  | .mode, text, value => Text.Calls value.names text
  | .language, word, value => some word = value
  | .format, text, value => Text.Calls value.names text
  | .logLevel, word, value => word = value

end Field

/-- What a command line says of a setting. -/
def given (options : Options) : (field : Field) → Option field.Given
  | .endpoint => options.endpoint
  | .timeout => options.timeout
  | .mode => options.mode
  | .language => options.language
  | .format => options.format
  | .logLevel => options.logLevel

/-- What a configuration says of a setting. -/
def written (config : Config) : (field : Field) → Option field.Written
  | .endpoint => config.endpoint
  | .timeout => config.timeout
  | .mode => config.mode
  | .language => config.language
  | .format => config.format
  | .logLevel => config.logLevel

/-- The value of a setting. -/
def value (settings : Settings) : (field : Field) → field.Value
  | .endpoint => settings.endpoint
  | .timeout => settings.timeout
  | .mode => settings.mode
  | .language => settings.language
  | .format => settings.format
  | .logLevel => settings.logLevel

/-- The value that the first layer which says something decides on. -/
inductive Chosen (field : Field) (given : Option field.Given) (written : Option field.Written) :
    field.Value → Prop where
  | given (word : field.Given) (said : given = some word) : Chosen field given written
      (field.taken word)
  | written (word : field.Written) (value : field.Value) (silent : given = none)
      (said : written = some word) (reads : field.Reads word value) :
      Chosen field given written value
  | assumed (silent : given = none) (unwritten : written = none) :
      Chosen field given written field.assumed

/-- The value that the layers of a command line and a configuration decide on. -/
abbrev Decided (options : Options) (config : Config) (field : Field) : field.Value → Prop :=
  Chosen field (given options field) (written config field)

/-- A configuration writes something for a setting that is no value of it, and the command line does
not stand in. -/
structure Unread (options : Options) (config : Config) (field : Field) (word : field.Written) :
    Prop where
  silent : given options field = none
  said : written config field = some word
  nothing : ∀ value, ¬ field.Reads word value

/-- What can be said against some layers, with its place in the order of objections and its
wording. -/
inductive Objection (options : Options) (config : Config) : (place : Nat) → String → Prop where
  | noTimeout (zero : Decided options config .timeout 0) :
      Objection options config 0 "timeout_ms must be greater than zero"
  | unknownMode (text : String) (unread : Unread options config .mode text) :
      Objection options config 1
        ("invalid mode in config: " ++
          ("unknown mode '" ++ Text.lowerCase (Text.trim text) ++
            "' (expected analysis or debug)"))
  | unknownFormat (text : String) (unread : Unread options config .format text) :
      Objection options config 2
        ("invalid format in config: " ++
          ("unknown format '" ++ Text.lowerCase (Text.trim text) ++
            "' (expected html, text or json)"))

/-- Settings are nothing but their six values. -/
theorem eq_of_values {left right : Settings}
    (same : ∀ field, left.value field = right.value field) : left = right := by
  cases left
  cases right
  rw [mk.injEq]
  exact ⟨same .endpoint, same .timeout, same .mode, same .language, same .format, same .logLevel⟩

/-- What is written for a setting has at most one value. -/
theorem Field.Reads.unique {field : Field} {word : field.Written} {left right : field.Value}
    (one : field.Reads word left) (other : field.Reads word right) : left = right := by
  cases field with
  | mode =>
    have same := (Mode.readsNames_parse.ok_iff word left).mpr one
    rw [(Mode.readsNames_parse.ok_iff word right).mpr other] at same
    exact (Except.ok.inj same).symm
  | format =>
    have same := (Format.readsNames_parse.ok_iff word left).mpr one
    rw [(Format.readsNames_parse.ok_iff word right).mpr other] at same
    exact (Except.ok.inj same).symm
  | _ => exact one.symm.trans other

/-- No two values are chosen. -/
theorem Chosen.unique {field : Field} {given : Option field.Given} {written : Option field.Written}
    {left right : field.Value} (first : Chosen field given written left)
    (second : Chosen field given written right) : left = right := by
  cases first with
  | given word said =>
    cases second with
    | given other same => rw [Option.some.inj (said.symm.trans same)]
    | written _ _ silent => cases said.symm.trans silent
    | assumed silent => cases said.symm.trans silent
  | written word _ silent said one =>
    cases second with
    | given _ same => cases same.symm.trans silent
    | written other _ _ same two =>
      rw [Option.some.inj (said.symm.trans same)] at one
      exact one.unique two
    | assumed _ unwritten => cases said.symm.trans unwritten
  | assumed silent unwritten =>
    cases second with
    | given _ same => cases same.symm.trans silent
    | written _ _ _ same => cases same.symm.trans unwritten
    | assumed => rfl

section Checks

variable {options : Options} {config : Config}

/-- Where a value is decided on, nothing is unread. -/
theorem Unread.undecided {field : Field} {word : field.Written}
    (unread : Unread options config field word) (value : field.Value) :
    ¬ Decided options config field value := by
  rintro (⟨_, said⟩ | ⟨other, _, _, said, reads⟩ | ⟨_, unwritten⟩)
  · cases unread.silent.symm.trans said
  · rw [Option.some.inj (said.symm.trans unread.said)] at reads
    exact unread.nothing value reads
  · cases unread.said.symm.trans unwritten

/-- There is at most one wording of an objection at a place. -/
theorem Objection.unique {place : Nat} {left right : String}
    (first : Objection options config place left)
    (second : Objection options config place right) : left = right := by
  cases first with
  | noTimeout =>
    cases second
    rfl
  | unknownMode text one =>
    obtain _ | ⟨other, two⟩ | _ := second
    rw [Option.some.inj (one.said.symm.trans two.said)]
  | unknownFormat text one =>
    obtain _ | _ | ⟨other, two⟩ := second
    rw [Option.some.inj (one.said.symm.trans two.said)]

variable (options config)

/-- The command line decides on what is given there. -/
theorem decided_given (field : Field) (word : field.Given)
    (said : Settings.given options field = some word) :
    Decided options config field (field.taken word) :=
  .given word said

/-- The file decides on what is written there, if the command line is silent. -/
theorem decided_written (field : Field) (word : field.Written) (value : field.Value)
    (silent : Settings.given options field = none)
    (said : Settings.written config field = some word) (reads : field.Reads word value) :
    Decided options config field value :=
  .written word value silent said reads

/-- The default is taken where both layers are silent. -/
theorem decided_assumed (field : Field) (silent : Settings.given options field = none)
    (unwritten : Settings.written config field = none) :
    Decided options config field field.assumed :=
  .assumed silent unwritten

/-- The outcome of a check: a value that is decided on and not objected to, or the objection. -/
inductive Checked {α : Type} (decided : α → Prop) (place : Nat) : Except Fault α → Prop where
  | ok (value : α) (here : decided value)
      (sound : ∀ message, ¬ Objection options config place message) :
      Checked decided place (.ok value)
  | error (fault : Fault) (objection : Objection options config place fault.message) :
      Checked decided place (.error fault)

/-- A thing that is taken as it stands is given, or else written, or else assumed. -/
theorem firstSaid_cases {α : Type} (first second : Option α) (assumed : α) (outcome : α → Prop)
    (whenGiven : ∀ value, first = some value → outcome value)
    (whenWritten : ∀ value, first = none → second = some value → outcome value)
    (whenSilent : first = none → second = none → outcome assumed) :
    outcome ((first.or second).getD assumed) := by
  cases first with
  | some value => exact whenGiven value rfl
  | none =>
    cases second with
    | some value => exact whenWritten value rfl rfl
    | none => exact whenSilent rfl rfl

/-- The endpoint is decided on by the first layer that says anything. -/
theorem decided_endpoint : Decided options config .endpoint
    ((options.endpoint.or config.endpoint).getD defaultEndpoint) := by
  apply firstSaid_cases
  · exact decided_given options config .endpoint
  · intro word silent said
    exact decided_written options config .endpoint word word silent said rfl
  · exact decided_assumed options config .endpoint

/-- The time limit is decided on by the first layer that says anything, zero included. -/
theorem decided_timeout : Decided options config .timeout
    ((options.timeout.or config.timeout).getD defaultTimeout) := by
  apply firstSaid_cases
  · exact decided_given options config .timeout
  · intro number silent said
    exact decided_written options config .timeout number number silent said rfl
  · exact decided_assumed options config .timeout

/-- The level of the log is decided on by the first layer that says anything. -/
theorem decided_logLevel : Decided options config .logLevel
    ((options.logLevel.or config.logLevel).getD defaultLogLevel) := by
  apply firstSaid_cases
  · exact decided_given options config .logLevel
  · intro word silent said
    exact decided_written options config .logLevel word word silent said rfl
  · exact decided_assumed options config .logLevel

/-- The language is decided on by the first layer that says anything, and may stay open. -/
theorem decided_language :
    Decided options config .language (options.language.or config.language) := by
  cases first : options.language with
  | some word => exact decided_given options config .language word first
  | none =>
    cases second : config.language with
    | some word => exact decided_written options config .language word (some word) first second rfl
    | none => exact decided_assumed options config .language first second

/-- The time limit is checked first: it is decided on and not zero, or objected to. -/
theorem checked_timeoutOf :
    Checked options config (Decided options config .timeout) 0 (timeoutOf options config) := by
  have decided := decided_timeout options config
  unfold timeoutOf
  dsimp only
  split_ifs with zero
  · rw [zero] at decided
    exact .error _ (.noTimeout decided)
  · refine .ok _ decided ?_
    rintro _ ⟨other⟩
    exact zero (decided.unique other)

/-- What is given, or else what a text is read as, or else what is assumed. -/
def firstNamed {α ε : Type} (parse : String → Except ε α) (fault : ε → Fault) (assumed : α)
    (first : Option α) (second : Option String) : Except Fault α :=
  match first, second with
  | some value, _ => .ok value
  | none, some text => (parse text).mapError fault
  | none, none => .ok assumed

/-- A thing with names is given, or else called by a text, or else assumed; or a text calls
nothing. -/
theorem firstNamed_cases {α ε : Type} {parse : String → Except ε α} {names : α → List String}
    {unknown : String → ε} (reads : Text.ReadsNames parse names unknown) (fault : ε → Fault)
    (assumed : α) (first : Option α) (second : Option String) (outcome : Except Fault α → Prop)
    (whenGiven : ∀ value, first = some value → outcome (.ok value))
    (whenCalled : ∀ text value, first = none → second = some text → Text.Calls (names value) text →
      outcome (.ok value))
    (whenUncalled : ∀ text, first = none → second = some text →
      (∀ value, ¬ Text.Calls (names value) text) →
      outcome (.error (fault (unknown (Text.lowerCase (Text.trim text))))))
    (whenSilent : first = none → second = none → outcome (.ok assumed)) :
    outcome (firstNamed parse fault assumed first second) := by
  unfold firstNamed
  cases first with
  | some value => exact whenGiven value rfl
  | none =>
    cases second with
    | none => exact whenSilent rfl rfl
    | some text =>
      dsimp only
      cases read : parse text with
      | ok value => exact whenCalled text value rfl rfl ((reads.ok_iff text value).mp read)
      | error error =>
        obtain ⟨uncalled, rfl⟩ := (reads.error_iff text error).mp read
        exact whenUncalled text rfl rfl uncalled

/-- The mode is checked second: it is decided on, or its name in the file is objected to. -/
theorem checked_modeOf :
    Checked options config (Decided options config .mode) 1 (modeOf options config) := by
  have sound (mode : Mode) (decided : Decided options config .mode mode) :
      Checked options config (Decided options config .mode) 1 (.ok mode) := by
    refine .ok _ decided ?_
    rintro _ (_ | ⟨text, unread⟩)
    exact unread.undecided mode decided
  have named : modeOf options config =
      firstNamed Mode.parse .unknownMode .analysis options.mode config.mode := by
    unfold modeOf firstNamed
    cases options.mode <;> cases config.mode <;> rfl
  rw [named]
  apply firstNamed_cases Mode.readsNames_parse
  · intro mode said
    exact sound mode (decided_given options config .mode mode said)
  · intro text mode silent said called
    exact sound mode (decided_written options config .mode text mode silent said called)
  · intro text silent said uncalled
    exact .error _ (.unknownMode text ⟨silent, said, uncalled⟩)
  · intro silent unwritten
    exact sound .analysis (decided_assumed options config .mode silent unwritten)

/-- The format is checked last: it is decided on, or its name in the file is objected to. -/
theorem checked_formatOf :
    Checked options config (Decided options config .format) 2 (formatOf options config) := by
  have sound (format : Format) (decided : Decided options config .format format) :
      Checked options config (Decided options config .format) 2 (.ok format) := by
    refine .ok _ decided ?_
    rintro _ (_ | _ | ⟨text, unread⟩)
    exact unread.undecided format decided
  have named : formatOf options config =
      firstNamed Format.parse .unknownFormat .html options.format config.format := by
    unfold formatOf firstNamed
    cases options.format <;> cases config.format <;> rfl
  rw [named]
  apply firstNamed_cases Format.readsNames_parse
  · intro format said
    exact sound format (decided_given options config .format format said)
  · intro text format silent said called
    exact sound format (decided_written options config .format text format silent said called)
  · intro text silent said uncalled
    exact .error _ (.unknownFormat text ⟨silent, said, uncalled⟩)
  · intro silent unwritten
    exact sound .html (decided_assumed options config .format silent unwritten)

/-- Settings are refused with the first objection, or all of them are decided on and nothing can be
objected. -/
theorem resolve_cases :
    (∃ fault place, resolve options config = .error fault ∧
      Objection options config place fault.message ∧
      ∀ earlier other, Objection options config earlier other → place ≤ earlier) ∨
    ∃ settings, resolve options config = .ok settings ∧
      (∀ place message, ¬ Objection options config place message) ∧
      ∀ field, Decided options config field (settings.value field) := by
  have timed := checked_timeoutOf options config
  have named := checked_modeOf options config
  have formatted := checked_formatOf options config
  unfold resolve
  generalize timeoutOf options config = timeout at timed
  generalize modeOf options config = mode at named
  generalize formatOf options config = format at formatted
  cases timed with
  | error fault objection => exact .inl ⟨fault, 0, rfl, objection, fun _ _ _ => Nat.zero_le _⟩
  | ok timeout decidedTimeout soundTimeout =>
    cases named with
    | error fault objection =>
      refine .inl ⟨fault, 1, rfl, objection, ?_⟩
      rintro _ _ (_ | _ | _)
      · exact absurd (.noTimeout ‹_›) (soundTimeout _)
      · exact Nat.le_refl _
      · decide
    | ok mode decidedMode soundMode =>
      cases formatted with
      | error fault objection =>
        refine .inl ⟨fault, 2, rfl, objection, ?_⟩
        rintro _ _ (_ | _ | _)
        · exact absurd (.noTimeout ‹_›) (soundTimeout _)
        · exact absurd (.unknownMode _ ‹_›) (soundMode _)
        · exact Nat.le_refl _
      | ok format decidedFormat soundFormat =>
        refine .inr ⟨_, rfl, ?_, ?_⟩
        · rintro _ _ (_ | _ | _)
          · exact absurd (.noTimeout ‹_›) (soundTimeout _)
          · exact absurd (.unknownMode _ ‹_›) (soundMode _)
          · exact absurd (.unknownFormat _ ‹_›) (soundFormat _)
        · intro field
          cases field with
          | endpoint => exact decided_endpoint options config
          | timeout => exact decidedTimeout
          | mode => exact decidedMode
          | language => exact decided_language options config
          | format => exact decidedFormat
          | logLevel => exact decided_logLevel options config

/-- Settings that are made hold what the first layers decide on, and nothing can be objected. -/
theorem sound_of_resolve {settings : Settings} (made : resolve options config = .ok settings) :
    (∀ place message, ¬ Objection options config place message) ∧
      ∀ field, Decided options config field (settings.value field) := by
  rcases resolve_cases options config with ⟨fault, _, refused, _⟩ | ⟨others, same, rest⟩
  · cases made.symm.trans refused
  · rwa [Except.ok.inj (made.symm.trans same)]

/-- Settings are made exactly if nothing can be objected and each value is the one that is decided
on. -/
theorem resolve_eq_ok_iff (settings : Settings) :
    resolve options config = .ok settings ↔
      (∀ place message, ¬ Objection options config place message) ∧
        ∀ field, Decided options config field (settings.value field) := by
  constructor
  · exact sound_of_resolve options config
  · rintro ⟨sound, chosen⟩
    rcases resolve_cases options config with ⟨fault, place, _, objection, _⟩ |
      ⟨others, made, _, also⟩
    · exact absurd objection (sound place _)
    · rw [made, eq_of_values fun field => (also field).unique (chosen field)]

/-- Settings are refused exactly if something can be objected. -/
theorem resolve_refused_iff :
    (∃ fault, resolve options config = .error fault) ↔
      ∃ place message, Objection options config place message := by
  rcases resolve_cases options config with ⟨fault, place, refused, objection, _⟩ |
    ⟨settings, made, sound, _⟩
  · exact ⟨fun _ => ⟨place, _, objection⟩, fun _ => ⟨fault, refused⟩⟩
  · constructor
    · rintro ⟨fault, refused⟩
      cases made.symm.trans refused
    · rintro ⟨place, message, raised⟩
      exact absurd raised (sound place message)

/-- The wording of a refusal is that of the first objection. -/
theorem resolve_message_iff (message : String) :
    (∃ fault, resolve options config = .error fault ∧ fault.message = message) ↔
      ∃ place, Objection options config place message ∧
        ∀ earlier other, Objection options config earlier other → place ≤ earlier := by
  rcases resolve_cases options config with ⟨fault, place, refused, objection, first⟩ |
    ⟨settings, made, sound, _⟩
  · constructor
    · rintro ⟨other, same, rfl⟩
      rw [Except.error.inj (same.symm.trans refused)]
      exact ⟨place, objection, first⟩
    · rintro ⟨other, raised, least⟩
      -- Both are the first place, and a place has one wording.
      obtain rfl : other = place := Nat.le_antisymm (least _ _ objection) (first _ _ raised)
      exact ⟨fault, refused, objection.unique raised⟩
  · constructor
    · rintro ⟨fault, refused, _⟩
      cases made.symm.trans refused
    · rintro ⟨place, raised, _⟩
      exact absurd raised (sound place message)

/-- Where the command line says something, the configuration is not looked at. -/
theorem resolve_unseen (other : Config)
    (same : ∀ field, given options field = none → written other field = written config field) :
    resolve options other = resolve options config := by
  have plain {α : Type} (first second third : Option α) (alike : first = none → third = second) :
      first.or third = first.or second := by
    cases first with
    | some value => rfl
    | none => rw [alike rfl]
  have endpoint := plain options.endpoint config.endpoint other.endpoint (same .endpoint)
  have timeout := plain options.timeout config.timeout other.timeout (same .timeout)
  have language := plain options.language config.language other.language (same .language)
  have logLevel := plain options.logLevel config.logLevel other.logLevel (same .logLevel)
  have mode : modeOf options other = modeOf options config := by
    unfold modeOf
    cases first : options.mode with
    | some mode => rfl
    | none =>
      have alike : other.mode = config.mode := same .mode first
      rw [alike]
  have format : formatOf options other = formatOf options config := by
    unfold formatOf
    cases first : options.format with
    | some format => rfl
    | none =>
      have alike : other.format = config.format := same .format first
      rw [alike]
  rw [resolve, resolve, timeoutOf, timeoutOf, endpoint, timeout, language, logLevel, mode, format]

end Checks

/-- Settings are refused exactly if there is an objection, with the wording of the first one, and
else they are made of the values that the first layers decide on. What the command line gives hides
whatever the configuration writes for the same setting, and each setting depends on its own layers
alone. The configuration may be missing. -/
theorem first_layer_decides (options : Options) (file : Option Config) :
    let config := file.getD .empty
    ((∃ fault, resolve options config = .error fault) ↔
      ∃ place message, Objection options config place message) ∧
    (∀ message, (∃ fault, resolve options config = .error fault ∧ fault.message = message) ↔
      ∃ place, Objection options config place message ∧
        ∀ earlier other, Objection options config earlier other → place ≤ earlier) ∧
    (∀ settings, resolve options config = .ok settings ↔
      (∀ place message, ¬ Objection options config place message) ∧
        ∀ field, Decided options config field (settings.value field)) ∧
    (∀ other : Config,
      (∀ field, given options field = none → written other field = written config field) →
        resolve options other = resolve options config) ∧
    ∀ (otherOptions : Options) (other : Config) (settings otherSettings : Settings),
      resolve options config = .ok settings → resolve otherOptions other = .ok otherSettings →
      ∀ field, given otherOptions field = given options field →
        written other field = written config field →
        otherSettings.value field = settings.value field := by
  intro config
  refine ⟨resolve_refused_iff options config, resolve_message_iff options config,
    resolve_eq_ok_iff options config, resolve_unseen options config, ?_⟩
  intro otherOptions other settings otherSettings made otherMade field sameGiven sameWritten
  have here := (sound_of_resolve options config made).2 field
  have there := (sound_of_resolve otherOptions other otherMade).2 field
  rw [Decided, sameGiven, sameWritten] at there
  exact there.unique here

/-- A format in the configuration that names none does no harm if the command line gives one. -/
example :
    let file : Config := { Config.empty with mode := some " Debug ", format := some "pdf" }
    (resolve { Options.empty with format := some .json } file).toOption.map Settings.mode =
      some .debug ∧
    resolve Options.empty file = .error (.unknownFormat ⟨"pdf"⟩) := by
  decide

end Settings

end CodeReport
