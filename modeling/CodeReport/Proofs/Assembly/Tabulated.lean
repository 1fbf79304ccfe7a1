import CodeReport.Assembly.Entry
import Mathlib.Data.List.Forall2

/-!
# Which tables are shown

An entry that declares a table brings the cells of its headers and its rows. The table
is shown if there are headers and each row is an array with one cell for each of them.
Then every cell is shown, in its place; none is left out, and none is cut.

Any other table is refused for one reason. Where several things are wrong at once, a
row that is no array counts before missing headers, and these count before a row of
another length; of several such rows the first is named.
-/

namespace CodeReport.Entry

open Json (Value Members)
open Section (Body)

/-- What a value shows in a cell: null shows nothing, a single value its own text, and an array or
an object its JSON text in one line. -/
inductive CellShows : Value → String → Prop where
  | null : CellShows .null ""
  | yes : CellShows (.bool true) "true"
  | no : CellShows (.bool false) "false"
  | number (number : Json.Number) : CellShows (.number number) number.text
  | string (text : String) : CellShows (.string text) text
  | array (items : List Value) : CellShows (.array items) (Value.array items).compact
  | object (members : Members) : CellShows (.object members) (Value.object members).compact

/-- Each value has one text in a cell. -/
theorem cellShows_iff (value : Value) (text : String) :
    CellShows value text ↔ text = cellText value := by
  constructor
  · intro shown
    cases shown <;> rfl
  · rintro rfl
    cases value with
    | null => exact .null
    | bool truth =>
      cases truth with
      | false => exact .no
      | true => exact .yes
    | number number => exact .number number
    | string text => exact .string text
    | array items => exact .array items
    | object members => exact .object members

section Positions

variable {α β : Type}

/-- Where one thing stands for each item, the things are found by going through the items. -/
theorem forall₂_iff_map {stands : α → β → Prop} {image : α → β}
    (exactly : ∀ item thing, stands item thing ↔ thing = image item) (items : List α)
    (things : List β) : List.Forall₂ stands items things ↔ things = items.map image := by
  induction items generalizing things with
  | nil => simp
  | cons item rest inductionHypothesis =>
    cases things with
    | nil => simp
    | cons thing others => simp [exactly, inductionHypothesis]

/-- Either all items are good, or there is a first one that is not. -/
theorem all_or_first (good : α → Prop) (items : List α) :
    (∀ item ∈ items, good item) ∨
      ∃ before item after, items = before ++ item :: after ∧
        (∀ earlier ∈ before, good earlier) ∧ ¬ good item := by
  induction items with
  | nil => exact .inl fun item member => absurd member List.not_mem_nil
  | cons first rest inductionHypothesis =>
    by_cases firstGood : good first
    · rcases inductionHypothesis with allGood | ⟨before, item, after, rfl, beforeGood, bad⟩
      · exact .inl (List.forall_mem_cons.mpr ⟨firstGood, allGood⟩)
      · exact .inr ⟨first :: before, item, after, rfl,
          List.forall_mem_cons.mpr ⟨firstGood, beforeGood⟩, bad⟩
    · exact .inr ⟨[], first, rest, rfl, fun item member => absurd member List.not_mem_nil,
        firstGood⟩

end Positions

/-- Values of which each is an array are the arrays of some lists. -/
theorem exists_lists (rows : List Value) (arrays : ∀ row ∈ rows, ∃ cells, row = .array cells) :
    ∃ lists : List (List Value), rows = lists.map .array := by
  induction rows with
  | nil => exact ⟨[], rfl⟩
  | cons row rest inductionHypothesis =>
    rw [List.forall_mem_cons] at arrays
    obtain ⟨⟨cells, rfl⟩, others⟩ := arrays
    obtain ⟨lists, rfl⟩ := inductionHypothesis others
    exact ⟨cells :: lists, rfl⟩

/-- The items of the array that a member holds, none if it holds no array. -/
def itemsAt (entry : Members) (name : String) : List Value :=
  match entry.get? name with
  | some (.array items) => items
  | _ => []

/-- The rows of a table. They have two names, and the second one counts only where there is no
member of the first. -/
def rowsAt (entry : Members) : List Value :=
  match entry.get? "tableData" with
  | some _ => itemsAt entry "tableData"
  | none => itemsAt entry "tableRows"

/-- The items under a name are those of the array there, or none. -/
theorem itemsOf_get? (entry : Members) (name : String) :
    itemsOf (entry.get? name) = itemsAt entry name := by
  unfold itemsOf itemsAt
  cases entry.get? name with
  | none => rfl
  | some value => cases value <;> rfl

/-- The rows of an entry are found under the first of two names that is there. -/
theorem itemsOf_rows (entry : Members) :
    itemsOf ((entry.get? "tableData").or (entry.get? "tableRows")) = rowsAt entry := by
  unfold rowsAt
  cases held : entry.get? "tableData" with
  | none => exact itemsOf_get? entry "tableRows"
  | some value => rw [← itemsOf_get?, held, Option.some_or]

/-- What becomes of a table with some headers and rows. -/
inductive Tabulates (headers rows : List Value) : Body → Prop where
  | table (lists : List (List Value)) (titles : List String) (lines : List (List String))
    (headed : headers ≠ []) (arrays : rows = lists.map .array)
    (even : ∀ list ∈ lists, list.length = headers.length)
    (titled : List.Forall₂ CellShows headers titles)
    (filled : List.Forall₂ (List.Forall₂ CellShows) lists lines) :
    Tabulates headers rows (.table titles lines)
  | stray (before : List (List Value)) (row : Value) (after : List Value)
    (arrays : rows = before.map .array ++ row :: after) (single : ∀ cells, row ≠ .array cells) :
    Tabulates headers rows
      (.degraded .table s!"row {before.length + 1} is not a list of cells")
  | headless (lists : List (List Value)) (bare : headers = []) (arrays : rows = lists.map .array) :
    Tabulates headers rows (.degraded .table "table has no headers")
  | uneven (before : List (List Value)) (list : List Value) (after : List (List Value))
    (headed : headers ≠ []) (arrays : rows = (before ++ list :: after).map .array)
    (even : ∀ earlier ∈ before, earlier.length = headers.length)
    (differs : list.length ≠ headers.length) :
    Tabulates headers rows
      (.degraded .table
        s!"row {before.length + 1} has {list.length} cells, expected {headers.length}")

/-- Rows that are all arrays make lines, cell by cell. -/
theorem rowsOf_arrays (number : Nat) (lists : List (List Value)) :
    rowsOf number (lists.map .array) = .ok (lists.map (List.map cellText)) := by
  induction lists generalizing number with
  | nil => rfl
  | cons list rest inductionHypothesis =>
    rw [List.map_cons, rowsOf, inductionHypothesis]
    rfl

/-- The first row that is no array is refused, with its number. -/
theorem rowsOf_stray (number : Nat) (before : List (List Value)) (row : Value)
    (after : List Value) (single : ∀ cells, row ≠ .array cells) :
    rowsOf number (before.map .array ++ row :: after) =
      .error (.rowNotAList (number + before.length)) := by
  induction before generalizing number with
  | nil =>
    cases row with
    | array cells => exact absurd rfl (single cells)
    | _ => rfl
  | cons list rest inductionHypothesis =>
    have counted : number + 1 + rest.length = number + (list :: rest).length := by
      rw [List.length_cons]
      omega
    rw [List.map_cons, List.cons_append, rowsOf, inductionHypothesis, counted]
    rfl

/-- The first row of another length is the one that is found at fault. -/
theorem rowDefect?_uneven (width number : Nat) (before : List (List String)) (row : List String)
    (after : List (List String)) (even : ∀ earlier ∈ before, earlier.length = width)
    (differs : row.length ≠ width) :
    Section.rowDefect? width number (before ++ row :: after) =
      some (.rowLength (number + before.length) row.length width) := by
  induction before generalizing number with
  | nil => rw [List.nil_append, Section.rowDefect?, if_neg differs]; rfl
  | cons first rest inductionHypothesis =>
    rw [List.forall_mem_cons] at even
    have counted : number + 1 + rest.length = number + (first :: rest).length := by
      rw [List.length_cons]
      omega
    rw [List.cons_append, Section.rowDefect?, if_pos even.1, inductionHypothesis _ even.2, counted]

/-- A table that is described is the table that is made. -/
theorem Tabulates.tableBody {entry : Members} {body : Body}
    (tabulates : Tabulates (itemsAt entry "tableHeaders") (rowsAt entry) body) :
    tableBody entry = body := by
  unfold Entry.tableBody tableOf
  rw [itemsOf_get?, itemsOf_rows]
  cases tabulates with
  | table lists titles lines headed arrays even titled filled =>
    rw [forall₂_iff_map cellShows_iff] at titled
    rw [forall₂_iff_map (forall₂_iff_map cellShows_iff)] at filled
    subst titled filled
    have faultless : Section.tableDefect? ((itemsAt entry "tableHeaders").map cellText)
        (lists.map (List.map cellText)) = none := by
      rw [Section.tableDefect?_eq_none_iff]
      refine ⟨by simpa using headed, ?_⟩
      simpa using even
    simp only [arrays, rowsOf_arrays, faultless]
  | stray before row after arrays single =>
    simp only [arrays, rowsOf_stray _ _ _ _ single, TableRefusal.message]
    rw [Nat.add_comm]
  | headless lists bare arrays =>
    simp only [bare, arrays, rowsOf_arrays]
    rfl
  | uneven before list after headed arrays even differs =>
    have found := rowDefect?_uneven (itemsAt entry "tableHeaders").length 1
      (before.map (List.map cellText)) (list.map cellText) (after.map (List.map cellText))
      (by simpa using even) (by simpa using differs)
    have defect : Section.tableDefect? ((itemsAt entry "tableHeaders").map cellText)
        ((before ++ list :: after).map (List.map cellText)) =
          some (.rowLength (before.length + 1) list.length
            (itemsAt entry "tableHeaders").length) := by
      rw [Section.tableDefect?, if_neg (by simpa using headed), List.length_map, List.map_append,
        List.map_cons, found, List.length_map, List.length_map, Nat.add_comm]
    simp only [arrays, rowsOf_arrays, defect, TableRefusal.message, Section.TableDefect.message]

/-- Every table is either shown or refused for a reason. -/
theorem exists_tabulates (headers rows : List Value) : ∃ body, Tabulates headers rows body := by
  rcases all_or_first (fun row => ∃ cells, row = Value.array cells) rows with
    arrays | ⟨before, row, after, rfl, arrays, single⟩
  · obtain ⟨lists, rfl⟩ := exists_lists rows arrays
    by_cases bare : headers = []
    · exact ⟨_, .headless lists bare rfl⟩
    · rcases all_or_first (fun list : List Value => list.length = headers.length) lists with
        even | ⟨before, list, after, rfl, even, differs⟩
      · refine ⟨_, .table lists (headers.map cellText) (lists.map (List.map cellText)) bare rfl even
          ?_ ?_⟩
        · rw [forall₂_iff_map cellShows_iff]
        · rw [forall₂_iff_map (forall₂_iff_map cellShows_iff)]
      · exact ⟨_, .uneven before list after bare rfl even differs⟩
  · obtain ⟨lists, rfl⟩ := exists_lists before arrays
    exact ⟨_, .stray lists row after rfl fun cells same => single ⟨cells, same⟩⟩

/-- An entry of a table has the body that its headers and rows make, and no other one. -/
theorem tabulates_iff (entry : Members) (body : Body) :
    Tabulates (itemsAt entry "tableHeaders") (rowsAt entry) body ↔ tableBody entry = body := by
  constructor
  · exact Tabulates.tableBody
  · rintro rfl
    obtain ⟨body, tabulates⟩ := exists_tabulates (itemsAt entry "tableHeaders") (rowsAt entry)
    rwa [tabulates.tableBody]

/-- A table is shown exactly if its headers and rows make a rectangle. -/
theorem shown_iff (headers rows : List Value) :
    (∃ titles lines, Tabulates headers rows (.table titles lines)) ↔
      headers ≠ [] ∧ ∀ row ∈ rows, ∃ cells, row = .array cells ∧ cells.length = headers.length := by
  constructor
  · rintro ⟨titles, lines, shown⟩
    cases shown with
    | table lists _ _ headed arrays even _ _ =>
      refine ⟨headed, ?_⟩
      subst arrays
      intro row member
      obtain ⟨list, inside, rfl⟩ := List.mem_map.mp member
      exact ⟨list, rfl, even list inside⟩
  · rintro ⟨headed, rectangular⟩
    obtain ⟨lists, rfl⟩ := exists_lists rows fun row member =>
      (rectangular row member).imp fun cells fits => fits.1
    refine ⟨headers.map cellText, lists.map (List.map cellText), .table lists _ _ headed rfl ?_ ?_ ?_⟩
    · intro list member
      obtain ⟨cells, same, fits⟩ := rectangular _ (List.mem_map_of_mem member)
      cases same
      exact fits
    · rw [forall₂_iff_map cellShows_iff]
    · rw [forall₂_iff_map (forall₂_iff_map cellShows_iff)]

/-- A row that is no array is not told as missing headers. -/
theorem stray_ne_headless (number : Nat) :
    s!"row {number} is not a list of cells" ≠ "table has no headers" := by
  intro same
  have written : "row " ++ toString number ++ " is not a list of cells" = "table has no headers" :=
    same
  have firsts := congrArg (fun text : String => text.toList.head?) written
  simp at firsts

/-- A table has no lines exactly if there are no rows. -/
theorem Tabulates.lines_eq_nil_iff {headers rows : List Value} {titles : List String}
    {lines : List (List String)} (tabulates : Tabulates headers rows (.table titles lines)) :
    lines = [] ↔ rows = [] := by
  cases tabulates with
  | table lists _ _ headed arrays even titled filled =>
    rw [arrays, List.map_eq_nil_iff, ← List.length_eq_zero_iff, ← filled.length_eq,
      List.length_eq_zero_iff]

/-- A table is refused for its headers only if all of its rows are arrays. -/
theorem Tabulates.arrays_of_headless {rows : List Value}
    (tabulates : Tabulates [] rows (.degraded .table "table has no headers")) :
    ∀ row ∈ rows, ∃ cells, row = .array cells := by
  -- The cases cannot be told apart by their texts, so the wording is compared by itself.
  generalize told : "table has no headers" = message at tabulates
  cases tabulates with
  | stray before row after arrays single => exact absurd told.symm (stray_ne_headless _)
  | headless lists bare arrays =>
    intro row member
    rw [arrays] at member
    obtain ⟨cells, _, rfl⟩ := List.mem_map.mp member
    exact ⟨cells, rfl⟩
  | uneven before list after headed => exact absurd rfl headed

/-- Rows make no difference to a table exactly if there are none, or if the table is refused for
missing headers with and without them. -/
theorem rows_unseen_iff (headers rows : List Value) :
    (∃ body, Tabulates headers [] body ∧ Tabulates headers rows body) ↔
      rows = [] ∨ headers = [] ∧ ∀ row ∈ rows, ∃ cells, row = .array cells := by
  constructor
  · rintro ⟨body, bare, filled⟩
    -- Without rows a table is empty or has no headers: the other refusals name a row.
    cases bare with
    | table lists titles lines headed arrays even titled cells =>
      left
      have shown : Tabulates headers [] (.table titles lines) :=
        .table lists titles lines headed arrays even titled cells
      exact filled.lines_eq_nil_iff.mp (shown.lines_eq_nil_iff.mpr rfl)
    | stray before row after arrays single => simp at arrays
    | headless lists bare arrays =>
      right
      subst bare
      exact ⟨rfl, filled.arrays_of_headless⟩
    | uneven before list after headed arrays => simp at arrays
  · rintro (rfl | ⟨rfl, arrays⟩)
    · obtain ⟨body, tabulates⟩ := exists_tabulates headers []
      exact ⟨body, tabulates, tabulates⟩
    · obtain ⟨lists, rfl⟩ := exists_lists rows arrays
      exact ⟨_, .headless [] rfl rfl, .headless lists rfl rfl⟩

/-- An entry that declares a table is shown as one exactly if it has headers and each of its rows is
an array of as many cells. Its body then holds every header and every cell in its place. Otherwise
the body is degraded, expects a table, and names the first thing that is wrong. -/
theorem table_exact (entry : Members) (word : String)
    (declared : entry.get? "type" = some (.string word))
    (named : Text.lowerCase (Text.trim word) = "table") :
    ((∃ titles lines, (toSection entry).body = .table titles lines) ↔
      itemsAt entry "tableHeaders" ≠ [] ∧
        ∀ row ∈ rowsAt entry, ∃ cells,
          row = .array cells ∧ cells.length = (itemsAt entry "tableHeaders").length) ∧
    ∀ body, (toSection entry).body = body ↔
      Tabulates (itemsAt entry "tableHeaders") (rowsAt entry) body := by
  have kind : kindOf entry = .table := kindOf_of_word entry word .table declared named
  have made : (toSection entry).body = tableBody entry := by
    have chosen : (toSection entry).body = bodyOf entry := rfl
    rw [chosen, bodyOf, kind]
  constructor
  · rw [made, ← shown_iff]
    simp only [tabulates_iff]
  · intro body
    rw [made, tabulates_iff]

/-- A row of another length is named by its place among all rows, also where a later row has another
length too. -/
theorem ragged_table_exact :
    let entry : Members :=
      [("type", .string " Table "), ("tableHeaders", .array [.string "a", .null]),
        ("tableRows", .array [.array [.number (.integer 1), .bool true], .array [.string "3"],
          .array []])]
    (toSection entry).body = .degraded .table "row 2 has 1 cells, expected 2" := by
  intro entry
  have uneven : Tabulates (itemsAt entry "tableHeaders") (rowsAt entry)
      (.degraded .table "row 2 has 1 cells, expected 2") :=
    .uneven [[.number (.integer 1), .bool true]] [.string "3"] [[]] (List.cons_ne_nil _ _) rfl
      (by decide) (by decide)
  exact ((table_exact entry " Table " rfl (by decide)).2 _).mpr uneven

end CodeReport.Entry
