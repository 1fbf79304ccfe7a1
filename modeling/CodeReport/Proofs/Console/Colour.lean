import CodeReport.Console.Report
import CodeReport.Console.Unstyled
import CodeReport.Report.Texts
import CodeReport.Text.Octets
import Mathlib.Data.List.Forall2

/-!
# Colour changes nothing but colour

A report on the console is put together from texts, some of them painted. What
is painted is complete before: padding, trimming and indentation never see a
style. Taking the styles out of a coloured report therefore gives the report
without colour, character by character.

Escape characters in the texts of a report are out of scope. A text could end
with the beginning of a sequence, which the styles behind it would complete.
-/

namespace CodeReport.Console

/-- A text without an escape character. -/
def Plain (text : String) : Prop := '\x1b' ∉ text.toList

/-- Texts that are written out are plain if their octets are. -/
theorem Plain.literal (text : String) (lacks : Text.lacksOctet 0x1b text = true) : Plain text :=
  Text.not_mem_of_lacksOctet '\x1b' text rfl lacks

/-- A text is plain exactly if both of its parts are. -/
@[simp] theorem plain_append (left right : String) :
    Plain (left ++ right) ↔ Plain left ∧ Plain right := by
  simp [Plain]

/-- A text within a wording stands for itself. -/
@[simp] theorem plain_within (text : String) : Plain (toString text) ↔ Plain text := Iff.rfl

/-- A number is written by digits. -/
@[simp] theorem plain_number (number : Nat) : Plain number.repr := by
  intro member
  rw [Nat.toList_repr] at member
  exact absurd (Nat.isDigit_of_mem_toDigits (by decide) (by decide) member) (by decide)

/-- Characters of a plain text make plain texts only. -/
theorem Plain.part {text : String} (plain : Plain text) (characters : List Char)
    (within : ∀ character ∈ characters, character ∈ text.toList) :
    Plain (String.ofList characters) := by
  intro member
  rw [String.toList_ofList] at member
  exact plain (within _ member)

/-- Copies of a character other than the escape character make a plain text. -/
theorem plain_replicate (count : Nat) (character : Char) (ordinary : character ≠ '\x1b') :
    Plain (Text.replicate count character) := by
  intro member
  rw [Text.replicate, String.toList_ofList] at member
  exact ordinary (List.eq_of_mem_replicate member).symm

/-- Spaces that are put behind a plain text leave it plain. -/
theorem plain_padEnd (width : Nat) (text : String) (plain : Plain text) :
    Plain (Text.padEnd width text) := by
  rw [Text.padEnd, plain_append]
  exact ⟨plain, plain_replicate _ ' ' (by decide)⟩

/-- Trimming takes characters away and adds none. -/
theorem plain_trimEnd (text : String) (plain : Plain text) : Plain (Text.trimEnd text) := by
  apply plain.part
  intro character member
  obtain ⟨dropped, whole, _⟩ := Text.dropBlankEnd_append_blank text.toList
  rw [whole]
  exact List.mem_append_left dropped member

/-- Plain cells are plain after they are padded to their widths. -/
theorem plain_padded (widths : List Nat) (cells : List String)
    (plain : ∀ cell ∈ cells, Plain cell) :
    ∀ padded ∈ List.zipWith Text.padEnd widths cells, Plain padded := by
  induction cells generalizing widths with
  | nil => simp
  | cons cell rest inductionHypothesis =>
    cases widths with
    | nil => simp
    | cons width others =>
      simp only [List.forall_mem_cons, List.zipWith_cons_cons] at plain ⊢
      exact ⟨plain_padEnd width cell plain.1, inductionHypothesis others plain.2⟩

/-- Plain texts with a plain separator between them make a plain text. -/
theorem plain_intercalate (separator : String) (texts : List String) (between : Plain separator)
    (plain : ∀ text ∈ texts, Plain text) : Plain (separator.intercalate texts) :=
  Text.not_mem_intercalate '\x1b' separator texts between plain

/-- A line holds characters of the text alone. -/
theorem mem_lineCharacters (characters line : List Char) (character : Char)
    (isLine : line ∈ Text.lineCharacters characters) (member : character ∈ line) :
    character ∈ characters := by
  induction characters using Text.lineCharacters.induct generalizing line with
  | case1 => simp [Text.lineCharacters] at isLine
  | case2 rest inductionHypothesis =>
    simp only [Text.lineCharacters, List.mem_cons] at isLine
    rcases isLine with rfl | later
    · cases member
    · simp [inductionHypothesis line later member]
  | case3 rest inductionHypothesis =>
    simp only [Text.lineCharacters, List.mem_cons] at isLine
    rcases isLine with rfl | later
    · cases member
    · simp [inductionHypothesis line later member]
  | case4 first rest _ _ inductionHypothesis =>
    rw [Text.lineCharacters] at isLine
    · cases others : Text.lineCharacters rest with
      | nil =>
        rw [others, Text.openLine, List.mem_singleton] at isLine
        subst isLine
        exact List.mem_cons.mpr (.inl (List.mem_singleton.mp member))
      | cons head tail =>
        rw [others, Text.openLine, List.mem_cons] at isLine
        rcases isLine with rfl | later
        · rcases List.mem_cons.mp member with rfl | inHead
          · exact List.mem_cons_self
          · exact List.mem_cons_of_mem _
              (inductionHypothesis head (others ▸ List.mem_cons_self) inHead)
        · exact List.mem_cons_of_mem _
            (inductionHypothesis line (others ▸ List.mem_cons_of_mem head later) member)
    all_goals assumption

/-- The lines of a plain text are plain. -/
theorem plain_lines (text line : String) (plain : Plain text) (isLine : line ∈ Text.lines text) :
    Plain line := by
  obtain ⟨characters, within, rfl⟩ := List.mem_map.mp isLine
  exact plain.part characters fun character member =>
    mem_lineCharacters text.toList characters character within member

/-- A coloured text that shows a plain one, whatever is written behind it. -/
def Shows (coloured shown : String) : Prop :=
  ∀ rest, Style.unstyled (coloured.toList ++ rest) = shown.toList ++ Style.unstyled rest

/-- Text without an escape character stays as it is, and so does what stands behind it. -/
theorem unstyled_append (characters rest : List Char) (plain : '\x1b' ∉ characters) :
    Style.unstyled (characters ++ rest) = characters ++ Style.unstyled rest := by
  induction characters with
  | nil => rfl
  | cons character others inductionHypothesis =>
    rw [List.mem_cons, not_or] at plain
    obtain ⟨ordinary, later⟩ := plain
    have none : Style.behindSequence? (character :: (others ++ rest)) = none := by
      unfold Style.behindSequence?
      split
      next same => exact absurd (List.cons.inj same).1.symm ordinary
      next => rfl
    rw [List.cons_append, Style.unstyled_cons character _ none, inductionHypothesis later]
    rfl

/-- Text without an escape character shows itself. -/
theorem Plain.shows {text : String} (plain : Plain text) : Shows text text :=
  fun rest => unstyled_append text.toList rest plain

variable {left right shownLeft shownRight : String}

/-- Texts in a row show what each of them shows. -/
theorem Shows.append (first : Shows left shownLeft) (second : Shows right shownRight) :
    Shows (left ++ right) (shownLeft ++ shownRight) := by
  intro rest
  rw [String.toList_append, String.toList_append, List.append_assoc, first, second,
    List.append_assoc]

/-- A style that can be taken out: its parameters are parameters. -/
def Style.Proper (style : Style) : Prop := style.parameters.toList.all Style.isParameter = true

/-- A start sequence is a sequence, up to its end. -/
theorem behindSequence?_start (style : Style) (rest : List Char) (proper : style.Proper) :
    Style.behindSequence? (style.start ++ rest) = some rest := by
  have ended : (style.parameters.toList ++ 'm' :: rest).dropWhile Style.isParameter =
      'm' :: rest := by
    rw [List.dropWhile_append_of_pos (by simpa [Style.Proper] using proper)]
    rfl
  simp [Style.start, Style.behindSequence?, ended]

/-- A reset is a sequence. -/
theorem behindSequence?_reset (rest : List Char) :
    Style.behindSequence? (Style.reset ++ rest) = some rest := by
  rfl

/-- Without an escape character there is no reset behind which a style would start again. -/
theorem restart_plain (again characters : List Char) (plain : '\x1b' ∉ characters) :
    Style.restart again characters = characters := by
  induction characters with
  | nil => rfl
  | cons character rest inductionHypothesis =>
    rw [List.mem_cons, not_or] at plain
    unfold Style.restart
    split
    next same => exact absurd (List.cons.inj same).1.symm plain.1
    next same =>
      obtain ⟨rfl, rfl⟩ := List.cons.inj same
      rw [inductionHypothesis plain.2]
    next same => cases same

/-- A painted text shows the text. -/
theorem shows_paint (style : Style) (text : String) (proper : style.Proper) (plain : Plain text) :
    Shows (paint true style text) (paint false style text) := by
  intro rest
  have painted : (paint true style text).toList ++ rest =
      style.start ++ (text.toList ++ (Style.reset ++ rest)) := by
    simp [paint, restart_plain style.start text.toList plain]
  rw [painted, Style.unstyled_sequence _ _ (behindSequence?_start style _ proper),
    unstyled_append text.toList _ plain,
    Style.unstyled_sequence _ _ (behindSequence?_reset rest)]
  rfl

/-- Texts in two lists of the same length, each showing its counterpart. -/
abbrev ShowAll (coloured shown : List String) : Prop := List.Forall₂ Shows coloured shown

/-- Plain texts show themselves. -/
theorem showAll_plain (texts : List String) (plain : ∀ text ∈ texts, Plain text) :
    ShowAll texts texts :=
  List.forall₂_same.mpr fun text member => (plain text member).shows

/-- Lists that show each other, put one behind the other, show each other. -/
theorem ShowAll.append {coloured shown others shownOthers : List String}
    (first : ShowAll coloured shown) (second : ShowAll others shownOthers) :
    ShowAll (coloured ++ others) (shown ++ shownOthers) :=
  List.rel_append first second

/-- What one function makes of each item shows what another one makes of it. -/
theorem showAll_map {α : Type} (coloured shown : α → String) (items : List α)
    (each : ∀ item ∈ items, Shows (coloured item) (shown item)) :
    ShowAll (items.map coloured) (items.map shown) := by
  rw [ShowAll, List.forall₂_map_left_iff, List.forall₂_map_right_iff]
  exact List.forall₂_same.mpr each

/-- A text that shows another does so as a single item. -/
theorem showAll_singleton (shows : Shows left shownLeft) : ShowAll [left] [shownLeft] :=
  .cons shows .nil

/-- What may be absent is absent on both sides. -/
theorem showAll_option (text : Option String) (coloured shown : String → String)
    (each : ∀ present, text = some present → Shows (coloured present) (shown present)) :
    ShowAll (text.map coloured).toList (text.map shown).toList := by
  cases text with
  | none => exact .nil
  | some present => exact showAll_singleton (each present rfl)

/-- Texts that show others one by one show them when they are joined. -/
theorem ShowAll.join {coloured shown : List String} (all : ShowAll coloured shown) :
    Shows (String.join coloured) (String.join shown) := by
  induction all with
  | nil =>
    rw [String.join_nil]
    exact (Plain.literal _ rfl).shows
  | cons first _ inductionHypothesis =>
    rw [String.join_cons, String.join_cons]
    exact first.append inductionHypothesis

/-- Lines that show others one by one show them when line feeds are put behind them. -/
theorem ShowAll.unlines {coloured shown : List String} (all : ShowAll coloured shown) :
    Shows (unlines coloured) (unlines shown) := by
  apply ShowAll.join
  rw [ShowAll, List.forall₂_map_left_iff, List.forall₂_map_right_iff]
  exact all.imp fun line shownLine shows => shows.append (Plain.literal _ rfl).shows

/-- Indentation stands in front of a line and takes no part in its styles. -/
theorem ShowAll.indented {coloured shown : List String} (all : ShowAll coloured shown) :
    ShowAll (coloured.map (indent ++ ·)) (shown.map (indent ++ ·)) := by
  rw [ShowAll, List.forall₂_map_left_iff, List.forall₂_map_right_iff]
  exact all.imp fun line shownLine shows =>
    (Plain.literal _ rfl).shows.append shows

/-- A bar is drawn at full length before its two parts are painted. -/
theorem bar_shows (percentage : UInt8) : Shows (bar true percentage) (bar false percentage) := by
  unfold bar
  have filled (count : Nat) : Plain (Text.replicate count '#') :=
    plain_replicate count '#' (by decide)
  have empty (count : Nat) : Plain (Text.replicate count '-') :=
    plain_replicate count '-' (by decide)
  refine .append (.append (.append (.append (.append ?_ ?_) ?_) ?_) ?_) ?_
  · exact (Plain.literal _ rfl).shows
  · exact shows_paint .green _ rfl (filled _)
  · exact shows_paint .dimmed _ rfl (empty _)
  · exact (Plain.literal _ rfl).shows
  · exact (plain_number _).shows
  · exact (Plain.literal _ rfl).shows

/-- A refusal names the kind of a section, which is plain, and a reason, which may be any text. -/
theorem notShown_shows (kind : Section.Kind) (reason : String) (plain : Plain reason) :
    Shows (notShown true kind reason) (notShown false kind reason) := by
  refine .append (.append (shows_paint .yellow _ rfl ?_) ?_) plain.shows
  · cases kind <;> exact .literal _ rfl
  · exact (Plain.literal _ rfl).shows

/-- The placeholder of an empty body shows the same with and without colours. -/
theorem nothingReported_shows : Shows (nothingReported true) (nothingReported false) :=
  shows_paint .dimmed _ rfl (.literal _ rfl)

/-- A defect is described by numbers. -/
theorem plain_defect (defect : Section.TableDefect) : Plain defect.message := by
  cases defect with
  | noHeaders => exact .literal _ rfl
  | rowLength row cells expected =>
    have literals : Plain "row " ∧ Plain " has " ∧ Plain " cells, expected " ∧ Plain "" :=
      ⟨.literal _ rfl, .literal _ rfl, .literal _ rfl, .literal _ rfl⟩
    simp [Section.TableDefect.message, literals]

/-- Cells in columns stay plain, since they are padded with spaces and trimmed. -/
theorem plain_columns (widths : List Nat) (cells : List String)
    (plain : ∀ cell ∈ cells, Plain cell) : Plain (columns widths cells) := by
  apply plain_trimEnd
  exact plain_intercalate "  " _ (.literal _ rfl) (plain_padded widths cells plain)

/-- The lines of a table. The columns are laid out before the header is painted. -/
theorem tableLines_show (headers : List String) (rows : List (List String))
    (plainHeaders : ∀ header ∈ headers, Plain header)
    (plainRows : ∀ row ∈ rows, ∀ cell ∈ row, Plain cell) :
    ShowAll (tableLines true headers rows) (tableLines false headers rows) := by
  unfold tableLines
  refine .append (.cons ?_ ?_) ?_
  · exact shows_paint .bold _ rfl (plain_columns _ headers plainHeaders)
  · split
    · exact showAll_singleton (shows_paint .dimmed _ rfl (.literal _ rfl))
    · exact .nil
  · exact showAll_map _ _ rows fun row member => (plain_columns _ row (plainRows row member)).shows

/-- Numbered items stay plain behind their numbers. -/
theorem numbered_shows (mark : Nat → String) (items : List String)
    (plainMark : ∀ number, Plain (mark number)) (plain : ∀ item ∈ items, Plain item) :
    ShowAll (numbered mark items) (numbered mark items) := by
  apply showAll_plain
  intro line member
  obtain ⟨⟨item, index⟩, isItem, rfl⟩ := List.mem_map.mp member
  rw [plain_append]
  exact ⟨plainMark _, plain item (List.fst_mem_of_mem_zipIdx isItem)⟩

/-- The lines of a body of any kind, with or without a defect. -/
theorem bodyLines_show (body : Section.Body) (plain : ∀ text ∈ body.texts, Plain text) :
    ShowAll (bodyLines true body) (bodyLines false body) := by
  unfold bodyLines
  cases body.defect? with
  | some defect => exact showAll_singleton (notShown_shows .table _ (plain_defect defect))
  | none =>
    cases body with
    | text content =>
      have plainContent : Plain content := plain content (by simp [Section.Body.texts])
      refine .append ?_ ?_
      · split
        · exact showAll_singleton nothingReported_shows
        · exact .nil
      · exact showAll_plain _ fun line member => plain_lines content line plainContent member
    | list kind items =>
      refine .append ?_ ?_
      · split
        · exact showAll_singleton nothingReported_shows
        · exact .nil
      · cases kind with
        | bullet =>
          refine showAll_map _ _ items fun item member => ?_
          exact .append (Plain.literal _ rfl).shows (plain item member).shows
        | numbered =>
          refine numbered_shows _ items (fun number => ?_) plain
          have literals : Plain "" ∧ Plain ". " := ⟨.literal _ rfl, .literal _ rfl⟩
          simp [literals]
    | table headers rows =>
      refine tableLines_show headers rows (fun header member => ?_) fun row member cell inside => ?_
      · exact plain header (List.mem_append_left _ member)
      · exact plain cell (List.mem_append_right _ (List.mem_flatten_of_mem member inside))
    | code language content =>
      have plainContent : Plain content := plain content (by simp [Section.Body.texts])
      refine .append ?_ ?_
      · refine showAll_option language _ _ fun name present => ?_
        have plainName : Plain name := plain name (by simp [Section.Body.texts, present])
        have literal : Plain "```" := .literal _ rfl
        exact shows_paint .dimmed _ rfl (by simp [literal, plainName])
      · refine showAll_map _ _ _ fun line member => ?_
        exact shows_paint .cyan line rfl
          (plain_lines content line plainContent member)
    | degraded expected reason =>
      have plainReason : Plain reason := plain reason (by simp [Section.Body.texts])
      exact showAll_singleton (notShown_shows expected reason plainReason)

/-- The lines of a chart. Labels are padded and never painted. -/
theorem chartLines_show (bars : List ScoreBar)
    (plain : ∀ label ∈ bars.map ScoreBar.label, Plain label) :
    ShowAll (chartLines true bars) (chartLines false bars) := by
  refine showAll_map _ _ bars fun scoreBar member => ?_
  have plainLabel : Plain scoreBar.label := plain _ (List.mem_map_of_mem member)
  refine .append (.append ?_ ?_) (bar_shows scoreBar.score)
  · exact (plain_padEnd _ scoreBar.label plainLabel).shows
  · exact (Plain.literal _ rfl).shows

/-- The lines of steps. -/
theorem stepLines_show (steps : List String) (plain : ∀ step ∈ steps, Plain step) :
    ShowAll (stepLines true steps) (stepLines false steps) := by
  unfold stepLines
  split
  · exact .nil
  · refine .cons (shows_paint .bold _ rfl (.literal _ rfl)) ?_
    refine numbered_shows _ steps (fun number => ?_) plain
    have literals : Plain "  (" ∧ Plain ") " := ⟨.literal _ rfl, .literal _ rfl⟩
    simp [literals]

/-- A part of a rationale behind its painted name. -/
theorem named_shows (name coloured shown : String) (plain : Plain name)
    (value : Shows coloured shown) :
    Shows (named true name coloured) (named false name shown) :=
  .append (.append (shows_paint .bold name rfl plain)
    (Plain.literal _ rfl).shows) value

/-- The lines of a rationale, with each of its parts or without. -/
theorem rationaleLines_show (rationale : Section.Rationale)
    (plain : ∀ text ∈ rationale.texts, Plain text) :
    ShowAll (rationaleLines true rationale) (rationaleLines false rationale) := by
  obtain ⟨explanation, impact, confidence, references⟩ := rationale
  simp only [Section.Rationale.texts, List.mem_append, Option.mem_toList] at plain
  refine .append (.append (.append ?_ ?_) ?_) ?_
  · refine showAll_option explanation _ _ fun text present => named_shows _ _ _ (.literal _ rfl) ?_
    exact shows_paint .dimmed text rfl (plain text (.inl (.inl present)))
  · refine showAll_option impact _ _ fun text present => named_shows _ _ _ (.literal _ rfl) ?_
    exact shows_paint .dimmed text rfl (plain text (.inl (.inr present)))
  · cases confidence with
    | none => exact .nil
    | some percentage =>
      exact showAll_singleton (named_shows _ _ _ (.literal _ rfl) (bar_shows percentage))
  · refine showAll_map _ _ references fun text member => named_shows _ _ _ (.literal _ rfl) ?_
    exact shows_paint .underlined text rfl (plain text (.inr member))

/-- What an open section shows below its header. -/
theorem contentLines_show (block : Section) (plain : ∀ text ∈ block.texts, Plain text) :
    ShowAll (contentLines true block) (contentLines false block) := by
  simp only [Section.texts, List.mem_cons, List.mem_append] at plain
  refine .append (.append (.append ?_ ?_) ?_) ?_
  · exact bodyLines_show block.body fun text member => plain text (by simp [member])
  · exact chartLines_show block.chart fun text member => plain text (by simp [member])
  · exact stepLines_show block.steps fun text member => plain text (by simp [member])
  · exact rationaleLines_show block.rationale fun text member => plain text (by simp [member])

/-- A badge is one of four, each in a style of its own. -/
theorem badge_shows (severity : Severity) : Shows (badge true severity) (badge false severity) := by
  unfold badge
  cases severity <;> exact shows_paint _ _ rfl (.literal _ rfl)

/-- The header of a section, with a badge or without. -/
theorem header_shows (block : Section) (isOpen : Bool) (plainTitle : Plain block.title)
    (plainKey : Plain block.key.text) :
    Shows (header true block isOpen) (header false block isOpen) := by
  refine .append (.append (.append (.append (.append ?_ ?_) ?_) ?_) ?_) ?_
  · cases isOpen <;> exact shows_paint .dimmed _ rfl (.literal _ rfl)
  · exact (Plain.literal _ rfl).shows
  · exact shows_paint .bold block.title rfl plainTitle
  · cases block.severity with
    | none => exact (Plain.literal "" rfl).shows
    | some severity => exact .append (Plain.literal " " rfl).shows (badge_shows severity)
  · exact (Plain.literal _ rfl).shows
  · exact shows_paint .dimmed block.key.text rfl plainKey

/-- The block of a section, open or closed. -/
theorem block_shows (shown : Section) (isOpen : Bool) (plain : ∀ text ∈ shown.texts, Plain text) :
    Shows (block true shown isOpen) (block false shown isOpen) := by
  refine .append (.append (.append ?_ ?_) ?_) ?_
  · exact (Plain.literal _ rfl).shows
  · exact header_shows shown isOpen (plain _ (by simp [Section.texts]))
      (plain _ (by simp [Section.texts]))
  · exact (Plain.literal _ rfl).shows
  · apply ShowAll.unlines
    cases isOpen with
    | true => exact (contentLines_show shown plain).indented
    | false => exact .nil

/-- What stands before the first section. -/
theorem head_shows (report : Report) (plain : ∀ text ∈ report.texts, Plain text) :
    Shows (head true report) (head false report) := by
  simp only [Report.texts, List.mem_cons, List.mem_append, Option.mem_toList] at plain
  refine .append (ShowAll.unlines (.append (.append (showAll_singleton ?_) ?_) ?_)) ?_
  · refine .append (.append ?_ ?_) ?_
    · exact shows_paint .bold report.title rfl (plain _ (by simp))
    · exact (Plain.literal _ rfl).shows
    · refine shows_paint .dimmed _ rfl ?_
      cases report.mode <;> exact .literal _ rfl
  · refine showAll_plain _ fun text member => ?_
    split at member
    · cases member
    · exact plain text (by simp [List.mem_singleton.mp member])
  · refine showAll_option report.warning _ _ fun text present => ?_
    refine .append (.append ?_ ?_) (plain text (by simp [present])).shows
    · exact shows_paint .boldYellow _ rfl (.literal _ rfl)
    · exact (Plain.literal _ rfl).shows
  · split
    · refine .append (.append ?_ ?_) ?_
      · exact (Plain.literal _ rfl).shows
      · exact shows_paint .dimmed _ rfl (.literal _ rfl)
      · exact (Plain.literal _ rfl).shows
    · exact (Plain.literal _ rfl).shows

/-- What stands behind the last section. -/
theorem tail_shows (report : Report) (plain : ∀ text ∈ report.texts, Plain text) :
    Shows (tail true report) (tail false report) := by
  unfold tail
  split
  next model present =>
    have plainModel : Plain model := plain model (by simp [Report.texts, present])
    have literal : Plain "Analyzed using: " := .literal _ rfl
    refine .append (.append ?_ ?_) ?_
    · exact (Plain.literal _ rfl).shows
    · exact shows_paint .dimmed _ rfl (by simp [literal, plainModel])
    · exact (Plain.literal _ rfl).shows
  next => exact (Plain.literal _ rfl).shows

/-- A coloured report shows the report without colour. -/
theorem report_shows (shown : Report) (openness : Openness)
    (plain : ∀ text ∈ shown.texts, Plain text) :
    Shows (report true shown openness) (report false shown openness) := by
  refine .append (.append (head_shows shown plain) ?_) (tail_shows shown plain)
  refine (showAll_map _ _ shown.sections fun one member => ?_).join
  refine block_shows one (openness.isOpen one.key) fun text inside => plain text ?_
  simp only [Report.texts, List.mem_append, List.mem_flatMap]
  exact .inr ⟨one, member, inside⟩

/-- Taking the styles out of a coloured report gives the report without colour, whatever its
sections hold and whichever of them are open. -/
theorem unstyled_report (shown : Report) (openness : Openness)
    (plain : ∀ text ∈ shown.texts, '\x1b' ∉ text.toList) :
    unstyledText (report true shown openness) = report false shown openness := by
  have shows := report_shows shown openness plain []
  rw [List.append_nil] at shows
  rw [unstyledText, shows]
  simp [Style.unstyled]

/-- Two sections: one with a table, a badge, a step and a rationale, one with a chart. -/
def findings : Report where
  title := "Code Analysis Results"
  introduction := "Two findings."
  mode := .analysis
  warning := some "check them"
  model := none
  sections := [
    { key := ⟨"s-issues"⟩, title := "Issues",
      body := .table ["Line", "Issue"] [["3", "shadowed name"], ["12", "unused"]],
      severity := some .warning, rationale := ⟨none, some "hard to read", some 80, []⟩,
      steps := ["Rename it."], chart := [] },
    { key := ⟨"s-scores"⟩, title := "Scores", body := .text "",
      severity := none, rationale := .empty, steps := [], chart := [⟨"clarity", 70⟩] }]

/-- With the second section closed, the colours of the two findings are taken out without a
trace. -/
theorem findings_unstyled :
    (∀ text ∈ findings.texts, '\x1b' ∉ text.toList) ∧
      unstyledText (report true findings (Openness.pristine.toggle ⟨"s-scores"⟩)) =
        "Code Analysis Results (analysis)\nTwo findings.\nWarning: check them\n\n" ++
          "[-] Issues [⚠️ Warning] s-issues\n    Line  Issue\n    3     shadowed name\n" ++
          "    12    unused\n    Steps:\n      (1) Rename it.\n    Impact: hard to read\n" ++
          "    Confidence: [################----] 80%\n\n[+] Scores s-scores\n" := by
  have plain : ∀ text ∈ findings.texts, '\x1b' ∉ text.toList := by
    have octets : ∀ text ∈ findings.texts, Text.lacksOctet 0x1b text = true := by decide +kernel
    exact fun text member => Plain.literal text (octets text member)
  refine ⟨plain, ?_⟩
  rw [unstyled_report findings _ plain]
  decide +kernel

end CodeReport.Console
