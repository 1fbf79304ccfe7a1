import CodeReport.Proofs.Console.Blocks
import CodeReport.Proofs.Text.Blank
import Mathlib.Algebra.GroupWithZero.Nat
import Mathlib.Order.Bounds.Basic

/-!
# Columns stand one below the other

Without colours, the header of a table and all of its rows are laid out by the
same widths: each column is as wide as the longest of its texts, counted in
characters, and two spaces lie between neighbours. A cell begins where its
column begins and is never cut. What a printed line lacks of its layout is
blank and stands at the end of the line. The bars of a chart begin below each
other behind the longest label.

The layout is described place by place, as windows into a line of full length,
and the printed line is compared with that line. A blank last cell leaves
nothing of itself, so the position of a cell is stated for what is printed of it.

No bound is set on the width of a column, as none is set on the texts. This assumes
of the formatter that it pads to any width (`Text.padEnd`); with one that takes only
widths up to 65535, what is proved here holds of texts that are no longer than that.
-/

namespace CodeReport.Console

/-- Where a column begins: behind the columns before it, each with the two spaces that follow. -/
def columnStart (widths : List Nat) (column : Nat) : Nat :=
  ((widths.take column).map (· + 2)).sum

/-- A further column in front moves all others by its width and two spaces. -/
theorem columnStart_succ (width : Nat) (widths : List Nat) (column : Nat) :
    columnStart (width :: widths) (column + 1) = width + 2 + columnStart widths column := rfl

/-- The next column begins two characters behind the end of this one. -/
theorem columnStart_next (widths : List Nat) (column : Nat) (within : column < widths.length) :
    columnStart widths (column + 1) = columnStart widths column + widths[column] + 2 := by
  rw [columnStart, columnStart, List.take_succ_eq_append_getElem within, List.map_append,
    List.sum_append]
  simp [Nat.add_assoc]

/-- The characters of a text from a place on, `width` of them or as many as there are. -/
def window (text : String) (start width : Nat) : List Char :=
  (text.toList.drop start).take width

/-- A line of full length: each cell begins where its column begins and is followed by spaces up
to the end of the column, and two spaces lie before the next one. -/
structure LaidOut (widths : List Nat) (cells : List String) (full : String) : Prop where
  length : full.length = widths.sum + 2 * (widths.length - 1)
  carries : ∀ column cell width, cells[column]? = some cell → widths[column]? = some width →
    cell.length ≤ width ∧
      window full (columnStart widths column) width =
        cell.toList ++ List.replicate (width - cell.length) ' '
  gaps : ∀ column, 0 < column → column < widths.length →
    window full (columnStart widths column - 2) 2 = [' ', ' ']

/-- The texts that stand in one column of some lines. -/
def textsIn (lines : List (List String)) (column : Nat) : List String :=
  lines.filterMap fun cells => cells[column]?

/-- The lengths of some texts, in characters. -/
def lengths (texts : List String) : Set Nat :=
  {length | ∃ text ∈ texts, text.length = length}

/-- A printed line of a table: a line of full length behind four spaces, without the blank
characters at its end. -/
structure PrintedRow (widths : List Nat) (cells : List String) (line : String) : Prop where
  trimmed : ∃ full kept dropped, LaidOut widths cells full ∧
    line.toList = [' ', ' ', ' ', ' '] ++ kept ∧ full.toList = kept ++ dropped ∧
    (∀ c ∈ dropped, Text.isBlank c = true) ∧ ∀ c ∈ kept.getLast?, Text.isBlank c = false
  places : ∀ column cell, cells[column]? = some cell →
    (Text.trimEnd cell).toList <+: line.toList.drop (4 + columnStart widths column)

/-- The lines of a table: header and rows in the same columns, each as wide as the longest of its
texts. -/
def TableAligned (headers : List String) (rows : List (List String)) (lines : List String) : Prop :=
  ∃ widths headerLine rowLines,
    widths.length = headers.length ∧
    (∀ column width, widths[column]? = some width →
      IsGreatest (lengths (textsIn (headers :: rows) column)) width) ∧
    lines = headerLine :: (if rows = [] then ["    No data."] else []) ++ rowLines ∧
    PrintedRow widths headers headerLine ∧
    List.Forall₂ (PrintedRow widths) rows rowLines

/-- A line of a chart: the label behind four spaces, and the bar two characters behind the column
of the labels. -/
structure PrintedBar (width : Nat) (shown : ScoreBar) (line : String) : Prop where
  label : line.toList.take (4 + width + 2) =
    [' ', ' ', ' ', ' '] ++
      (shown.label.toList ++ List.replicate (width - shown.label.length) ' ') ++ [' ', ' ']
  marks : line.toList.drop (4 + width + 2) = (bar false shown.score).toList
  bracket : line.toList[4 + width + 2]? = some '['

/-- The lines of a chart: one for each bar, all bars below each other. -/
def ChartAligned (chart : List ScoreBar) (lines : List String) : Prop :=
  chart ≠ [] → ∃ width,
    IsGreatest (lengths (chart.map ScoreBar.label)) width ∧
    List.Forall₂ (PrintedBar width) chart lines

/-- An open section: below its header stand its body, then its chart, then steps and rationale.
A table is aligned if it has headers and one cell for each of them in every row. -/
def SectionAligned (shown : Section) (printed : String) : Prop :=
  ∃ body chart,
    printed = "\n" ++ header false shown true ++ "\n" ++
      unlines (body ++ chart ++
        (stepLines false shown.steps ++ rationaleLines false shown.rationale).map (indent ++ ·)) ∧
    body = (bodyLines false shown.body).map (indent ++ ·) ∧
    (∀ headers rows, shown.body = .table headers rows →
      headers ≠ [] → (∀ row ∈ rows, row.length = headers.length) →
      TableAligned headers rows body) ∧
    ChartAligned shown.chart chart ∧ chart.length = shown.chart.length

/-- The widest of some texts is the longest of them, if there is one. -/
theorem isGreatest_widest (texts : List String) (some : texts ≠ []) :
    IsGreatest (lengths texts) (widest texts) := by
  have written : texts.map String.length ≠ [] := by simpa using some
  obtain ⟨greatest, found⟩ : ∃ greatest, (texts.map String.length).max? = .some greatest :=
    Option.isSome_iff_exists.mp (List.isSome_max?_of_ne_nil written)
  obtain ⟨member, bounds⟩ := List.max?_eq_some_iff.mp found
  have same : widest texts = greatest := by
    rw [widest, List.foldl_max, found]
    exact Nat.max_eq_right (Nat.zero_le greatest)
  rw [same]
  constructor
  · obtain ⟨text, isText, length⟩ := List.mem_map.mp member
    exact ⟨text, isText, length⟩
  · rintro length ⟨text, isText, rfl⟩
    exact bounds _ (List.mem_map_of_mem isText)

/-- The width of a column is the length of the longest text in it, its header among them. -/
theorem columnWidth_greatest (headers : List String) (rows : List (List String))
    (column width : Nat) (here : (columnWidths headers rows)[column]? = some width) :
    IsGreatest (lengths (textsIn (headers :: rows) column)) width := by
  rw [columnWidths, List.getElem?_map, List.getElem?_zipIdx] at here
  cases isHeader : headers[column]? with
  | none =>
    rw [isHeader] at here
    cases here
  | some header =>
    simp only [isHeader, Option.map_some, Nat.zero_add, Option.some.injEq] at here
    have inColumn : textsIn (headers :: rows) column =
        header :: rows.filterMap fun row => row[column]? := by
      rw [textsIn, List.filterMap_cons, isHeader]
    rw [inColumn, ← here]
    exact isGreatest_widest _ (List.cons_ne_nil _ _)

/-- Cells that are no longer than their columns are wide, one for each column. -/
abbrev Fits (widths : List Nat) (cells : List String) : Prop :=
  List.Forall₂ (fun width cell => cell.length ≤ width) widths cells

/-- Each line of a table fits into its columns. -/
theorem fits_columnWidths (headers : List String) (rows : List (List String))
    (cells : List String) (member : cells ∈ headers :: rows)
    (complete : cells.length = headers.length) :
    Fits (columnWidths headers rows) cells := by
  have count : (columnWidths headers rows).length = headers.length := by simp [columnWidths]
  rw [Fits, List.forall₂_iff_get]
  refine ⟨count.trans complete.symm, ?_⟩
  intro column isColumn isCell
  have greatest := columnWidth_greatest headers rows column _ (List.getElem?_eq_getElem isColumn)
  apply greatest.2
  have inColumn : cells[column] ∈ textsIn (headers :: rows) column :=
    List.mem_filterMap.mpr ⟨cells, member, List.getElem?_eq_getElem isCell⟩
  exact ⟨cells[column], inColumn, rfl⟩

/-- The characters of a padded cell are its own and then spaces. -/
theorem toList_padEnd (width : Nat) (cell : String) :
    (Text.padEnd width cell).toList =
      cell.toList ++ List.replicate (width - cell.length) ' ' := by
  rw [Text.padEnd, String.toList_append, Text.replicate, String.toList_ofList]

/-- A cell that fits is padded to the width of its column. -/
theorem length_padEnd (width : Nat) (cell : String) (fits : cell.length ≤ width) :
    (Text.padEnd width cell).length = width := by
  rw [← String.length_toList, toList_padEnd, List.length_append, List.length_replicate,
    String.length_toList]
  omega

/-- Padded cells are as long as their columns are wide. -/
theorem lengths_padded {widths : List Nat} {cells : List String} (fits : Fits widths cells) :
    (List.zipWith Text.padEnd widths cells).map String.length = widths := by
  induction fits with
  | nil => rfl
  | cons fit _ inductionHypothesis =>
    rw [List.zipWith_cons_cons, List.map_cons, length_padEnd _ _ fit, inductionHypothesis]

/-- A line begins with its first field. -/
theorem take_field (field : String) (rest : List String) :
    ("  ".intercalate (field :: rest)).toList.take field.length = field.toList := by
  cases rest with
  | nil =>
    rw [String.intercalate_singleton, ← String.length_toList, List.take_length]
  | cons next others =>
    rw [String.intercalate_cons_cons, String.append_assoc, String.toList_append,
      ← String.length_toList, List.take_left]

/-- Behind a field that is not the last one stand two spaces and the line of the others. -/
theorem drop_field (field next : String) (others : List String) :
    ("  ".intercalate (field :: next :: others)).toList.drop field.length =
      [' ', ' '] ++ ("  ".intercalate (next :: others)).toList := by
  rw [String.intercalate_cons_cons, String.append_assoc, String.toList_append,
    ← String.length_toList, List.drop_left, String.toList_append]
  rfl

/-- What stands in a line from a column on is the line of the fields from that one on. -/
theorem drop_columnStart (fields : List String) (column : Nat) (within : column < fields.length) :
    ("  ".intercalate fields).toList.drop (columnStart (fields.map String.length) column) =
      ("  ".intercalate (fields.drop column)).toList := by
  induction fields generalizing column with
  | nil => exact absurd within (Nat.not_lt_zero column)
  | cons field rest inductionHypothesis =>
    cases column with
    | zero => rfl
    | succ column =>
      have behind : column < rest.length := Nat.lt_of_succ_lt_succ within
      cases rest with
      | nil => exact absurd behind (Nat.not_lt_zero column)
      | cons next others =>
        rw [List.map_cons, columnStart_succ, ← List.drop_drop, ← List.drop_drop, drop_field]
        exact inductionHypothesis column behind

/-- A line is as long as its fields and the spaces between them. -/
theorem length_intercalate (fields : List String) :
    ("  ".intercalate fields).length =
      (fields.map String.length).sum + 2 * (fields.length - 1) := by
  induction fields with
  | nil => rfl
  | cons field rest inductionHypothesis =>
    cases rest with
    | nil => simp
    | cons next others =>
      rw [String.intercalate_cons_cons, String.length_append, String.length_append,
        inductionHypothesis]
      simp only [List.map_cons, List.sum_cons, List.length_cons]
      have gap : "  ".length = 2 := rfl
      omega

/-- A field stands in the line from its column on. -/
theorem window_field (fields : List String) (column : Nat) (within : column < fields.length) :
    window ("  ".intercalate fields) (columnStart (fields.map String.length) column)
      fields[column].length = fields[column].toList := by
  rw [window, drop_columnStart fields column within, List.drop_eq_getElem_cons within]
  exact take_field _ _

/-- Before a column that is not the first one stand two spaces. -/
theorem window_gap (fields : List String) (column : Nat) (here : column + 1 < fields.length) :
    window ("  ".intercalate fields)
      (columnStart (fields.map String.length) (column + 1) - 2) 2 = [' ', ' '] := by
  have before : column < fields.length := by omega
  have start : columnStart (fields.map String.length) (column + 1) - 2 =
      columnStart (fields.map String.length) column + fields[column].length := by
    rw [columnStart_next _ column (by rwa [List.length_map]), List.getElem_map]
    omega
  rw [window, start, ← List.drop_drop, drop_columnStart fields column before,
    List.drop_eq_getElem_cons before, List.drop_eq_getElem_cons here, drop_field]
  rfl

/-- Cells that fit are laid out by padding them to the widths of their columns. -/
theorem laidOut_padded {widths : List Nat} {cells : List String} (fits : Fits widths cells) :
    LaidOut widths cells ("  ".intercalate (List.zipWith Text.padEnd widths cells)) := by
  have fieldLengths := lengths_padded fits
  have fieldCount : (List.zipWith Text.padEnd widths cells).length = widths.length := by
    rw [← List.length_map String.length, fieldLengths]
  constructor
  · rw [length_intercalate, fieldLengths, fieldCount]
  · intro column cell width isCell isWidth
    obtain ⟨inCells, rfl⟩ := List.getElem?_eq_some_iff.mp isCell
    obtain ⟨inWidths, rfl⟩ := List.getElem?_eq_some_iff.mp isWidth
    have fit : cells[column].length ≤ widths[column] :=
      (List.forall₂_iff_get.mp fits).2 column inWidths inCells
    have field := window_field (List.zipWith Text.padEnd widths cells) column (by omega)
    rw [fieldLengths, List.getElem_zipWith, length_padEnd _ _ fit, toList_padEnd] at field
    exact ⟨fit, field⟩
  · intro column positive within
    obtain ⟨previous, rfl⟩ : ∃ previous, column = previous + 1 := ⟨column - 1, by omega⟩
    have gap := window_gap (List.zipWith Text.padEnd widths cells) previous (by omega)
    rwa [fieldLengths] at gap

/-- Cells in columns are printed as a line of full length without the blank characters at its
end. -/
theorem printedRow_columns {widths : List Nat} {cells : List String} (fits : Fits widths cells) :
    PrintedRow widths cells (indent ++ columns widths cells) := by
  have laid := laidOut_padded fits
  generalize isFull : "  ".intercalate (List.zipWith Text.padEnd widths cells) = full at laid
  obtain ⟨dropped, whole, blank⟩ := Text.dropBlankEnd_append_blank full.toList
  have line : (indent ++ columns widths cells).toList =
      [' ', ' ', ' ', ' '] ++ Text.dropBlankEnd full.toList := by
    rw [String.toList_append, columns, isFull, Text.trimEnd, String.toList_ofList]
    rfl
  constructor
  · exact ⟨full, _, dropped, laid, line, whole, blank, Text.getLast?_dropBlankEnd _⟩
  · intro column cell isCell
    obtain ⟨within, isCell'⟩ := List.getElem?_eq_some_iff.mp isCell
    have inWidths : column < widths.length := by rw [fits.length_eq]; exact within
    obtain ⟨-, shows⟩ := laid.carries column cell widths[column] isCell
      (List.getElem?_eq_getElem inWidths)
    -- The cell itself may reach into what is dropped, but only with its own blank end.
    have inCell : Text.dropBlankEnd cell.toList <+: cell.toList :=
      List.rdropWhile_prefix Text.isBlank _
    have inWindow : cell.toList <+: window full (columnStart widths column) widths[column] :=
      shows ▸ List.prefix_append _ _
    have begins := (inCell.trans inWindow).trans (List.take_prefix _ _)
    rw [whole, List.drop_append] at begins
    rw [line, ← List.drop_drop, Text.trimEnd, String.toList_ofList]
    exact Text.prefix_of_blank_behind _ _ _ begins
      (fun c member => blank c (List.mem_of_mem_drop member)) (Text.getLast?_dropBlankEnd _)

/-- The lines of a table of full shape. -/
theorem tableLines_aligned (headers : List String) (rows : List (List String))
    (complete : ∀ row ∈ rows, row.length = headers.length) :
    TableAligned headers rows ((tableLines false headers rows).map (indent ++ ·)) := by
  have fits := fits_columnWidths headers rows
  refine ⟨columnWidths headers rows, indent ++ columns (columnWidths headers rows) headers,
    rows.map fun row => indent ++ columns (columnWidths headers rows) row, ?_, ?_, ?_, ?_, ?_⟩
  · simp [columnWidths]
  · exact columnWidth_greatest headers rows
  · cases rows with
    | nil => rfl
    | cons row others => simp [tableLines, paint]
  · exact printedRow_columns (fits headers List.mem_cons_self rfl)
  · rw [List.forall₂_map_right_iff, List.forall₂_same]
    intro row member
    exact printedRow_columns (fits row (List.mem_cons_of_mem headers member) (complete row member))

/-- A blank last cell leaves nothing behind the columns before it. -/
example : tableLines false ["Line", "Note"] [["3", " "], ["é12345", "ok "]] =
    ["Line    Note", "3", "é12345  ok"] := by decide +kernel

/-- A bar begins with its bracket. -/
theorem bar_bracket (percentage : UInt8) :
    ∃ marks, (bar false percentage).toList = '[' :: marks := by
  simp [bar]

/-- A label that fits is padded to the column of the labels, and the bar follows two characters
behind that column. -/
theorem printedBar_line (width : Nat) (scoreBar : ScoreBar)
    (fits : scoreBar.label.length ≤ width) :
    PrintedBar width scoreBar
      (indent ++ (Text.padEnd width scoreBar.label ++ "  " ++ bar false scoreBar.score)) := by
  have line : (indent ++ (Text.padEnd width scoreBar.label ++ "  " ++
      bar false scoreBar.score)).toList =
      ([' ', ' ', ' ', ' '] ++
        (scoreBar.label.toList ++ List.replicate (width - scoreBar.label.length) ' ') ++
        [' ', ' ']) ++ (bar false scoreBar.score).toList := by
    rw [String.toList_append, String.toList_append, String.toList_append, toList_padEnd]
    simp only [List.append_assoc]
    rfl
  have before : ([' ', ' ', ' ', ' '] ++
      (scoreBar.label.toList ++ List.replicate (width - scoreBar.label.length) ' ') ++
      [' ', ' ']).length = 4 + width + 2 := by
    simp only [List.length_append, List.length_replicate, String.length_toList, List.length_cons,
      List.length_nil]
    omega
  constructor
  · rw [line, List.take_left' before]
  · rw [line, List.drop_left' before]
  · obtain ⟨marks, isBar⟩ := bar_bracket scoreBar.score
    rw [line, List.getElem?_append_right (Nat.le_of_eq before), before, Nat.sub_self, isBar]
    rfl

/-- The lines of a chart, behind the widest label. -/
theorem chartLines_aligned (chart : List ScoreBar) :
    ChartAligned chart ((chartLines false chart).map (indent ++ ·)) := by
  intro some
  have greatest := isGreatest_widest (chart.map ScoreBar.label) (by simpa using some)
  refine ⟨_, greatest, ?_⟩
  rw [chartLines, List.map_map, List.forall₂_map_right_iff, List.forall₂_same]
  intro scoreBar member
  exact printedBar_line _ scoreBar (greatest.2 ⟨_, List.mem_map_of_mem member, rfl⟩)

/-- What is printed of an open section. -/
theorem block_aligned (shown : Section) : SectionAligned shown (block false shown true) := by
  refine ⟨(bodyLines false shown.body).map (indent ++ ·),
    (chartLines false shown.chart).map (indent ++ ·),
    ?_, rfl, ?_, chartLines_aligned shown.chart, ?_⟩
  · rw [block_open, List.map_append, List.append_assoc _ _ ((rationaleLines _ _).map _)]
  · intro headers rows isTable named complete
    have sound : shown.body.defect? = none := by
      rw [isTable]
      exact (Section.tableDefect?_eq_none_iff headers rows).mpr ⟨named, complete⟩
    have body : bodyLines false shown.body = tableLines false headers rows := by
      unfold bodyLines
      rw [sound, isTable]
    rw [body]
    exact tableLines_aligned headers rows complete
  · simp [chartLines]

/-- On the console without colours, the tables and the charts of all open sections are aligned:
the columns of a table begin at the same places in its header and in all of its rows, no cell is
cut, nothing but blank characters at the end of a line is left out, and the bars of a chart begin
below each other. -/
theorem report_aligned (shown : Report) (openness : Openness) :
    ∃ blocks, report false shown openness =
        head false shown ++ String.join blocks ++ tail false shown ∧
      List.Forall₂ (fun one printed => openness.isOpen one.key = true → SectionAligned one printed)
        shown.sections blocks := by
  apply report_blocks
  intro one _ isOpen
  rw [isOpen]
  exact block_aligned one

end CodeReport.Console
