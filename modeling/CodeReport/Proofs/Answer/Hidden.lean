import CodeReport.Answer.Reader
import CodeReport.Proofs.Assembly.Tabulated
import CodeReport.Proofs.Json.Nulls

/-!
# What a null hides

Three members have a second spelling, which is read where the first one is missing: the
line of an issue, and the kind of list and the rows of an entry. A null under the first
spelling is not missing. It hides what stands under the second one, and the object is
read as if it had neither.

Nothing is hidden where the second spelling makes no difference. A line that is 1 makes
none, and neither does the line of an issue without message. A word for no numbered list
makes none, and neither does any word in an entry that shows no list. An empty list of
rows makes none, and neither do rows of a table that is refused for missing headers with
and without them. All else that stands there is hidden.
-/

namespace CodeReport

open Json (Value Members)
open Json.Value (Fades)

namespace Answer.Issue

/-- The members of an issue that have one spelling. -/
def plainNames : List String := ["message", "description", "column", "severity"]

/-- The message of an issue. An issue without message is left out. -/
def messageOf? (issue : Members) : Option String :=
  (issue.trimmedText? "message").or (issue.trimmedText? "description")

section Congruence

variable {before after : Members}
variable (plain : ∀ name ∈ plainNames, Fades (before.get? name) (after.get? name))

include plain

/-- The message of an issue is not changed when nulls are taken out under its plain names. -/
theorem messageOf?_congr : messageOf? before = messageOf? after := by
  simp only [plainNames, List.forall_mem_cons] at plain
  rw [messageOf?, messageOf?, trimmedText?_fades plain.1, trimmedText?_fades plain.2.1]

/-- An issue is made of its plain members and, if it has a message, of its line under either
spelling. -/
theorem ofJson?_congr
    (line : messageOf? before ≠ none → lineOf (before.either? "lineNumber" "line") =
      lineOf (after.either? "lineNumber" "line")) :
    ofJson? (.object before) = ofJson? (.object after) := by
  have messages := messageOf?_congr plain
  simp only [plainNames, List.forall_mem_cons] at plain
  obtain ⟨_, _, column, severity, _⟩ := plain
  have columns := column.read columnOf rfl
  have severities := severity.read severityOf rfl
  unfold messageOf? at messages line
  unfold Members.either? at line
  simp only [ofJson?, ← messages, columns, severities]
  cases told : (before.trimmedText? "message").or (before.trimmedText? "description") with
  | none => rfl
  | some message =>
    rw [told] at line
    simp only [line (Option.some_ne_none message)]

end Congruence

/-- The line of an issue is found under either spelling. -/
theorem line_ofJson? (issue : Members) :
    (ofJson? (.object issue)).map Issue.line =
      (messageOf? issue).map fun _ => lineOf (issue.either? "lineNumber" "line") := by
  unfold Members.either? messageOf?
  rw [ofJson?, Option.map_map]
  rfl

/-- The first spelling of a member of an issue and the second, where it makes a difference whether
the first one is null or missing. -/
inductive Hides (issue : Members) : String → String → Prop where
  | line (told : messageOf? issue ≠ none) (number : Nat)
    (held : (issue.get? "line").bind Value.nat? = some number) (later : 1 < number) :
    Hides issue "lineNumber" "line"

variable (issue : Members) {name other : String}

/-- A line that is not hidden is line 1. -/
theorem lineOf_silent (told : messageOf? issue ≠ none)
    (silent : ¬ Hides issue "lineNumber" "line") : lineOf (issue.get? "line") = lineOf none := by
  have missing : lineOf none = 1 := rfl
  rw [missing, lineOf]
  cases held : (issue.get? "line").bind Value.nat? with
  | none => rfl
  | some number =>
    have first : number ≤ 1 := by
      by_contra later
      exact silent (.line told number held (by omega))
    have kept : min number greatestPosition ≤ 1 := Nat.le_trans (Nat.min_le_left _ _) first
    exact Nat.max_eq_left kept

/-- A line behind the first is read as such. -/
theorem lineOf_later {found : Option Value} {number : Nat}
    (held : found.bind Value.nat? = some number) (later : 1 < number) : 1 < lineOf found := by
  have inside : 1 < min number greatestPosition := Nat.lt_min.mpr ⟨later, by decide⟩
  rw [lineOf, held]
  exact Nat.lt_of_lt_of_le inside (Nat.le_max_right _ _)

/-- A null that hides nothing is not seen. -/
theorem ofJson?_without (null : issue.get? name = some .null)
    (silent : ∀ other, ¬ Hides issue name other) :
    ofJson? (.object (issue.without name)) = ofJson? (.object issue) := by
  symm
  refine ofJson?_congr (fun other _ => issue.fades_without null other) ?_
  intro told
  refine (issue.either?_without lineOf rfl (by decide) null ?_).symm
  rintro rfl
  exact lineOf_silent issue told (silent "line")

/-- What a null hides is not seen. -/
theorem ofJson?_hidden (hidden : Hides issue name other) (null : issue.get? name = some .null) :
    ofJson? (.object (issue.without other)) = ofJson? (.object issue) := by
  cases hidden with
  | line told number held later =>
    refine ofJson?_congr (issue.fades_elsewhere plainNames (by decide)) ?_
    intro _
    rw [issue.either?_hidden (by decide) null]

/-- Without the null, what it hides is seen. -/
theorem ofJson?_revealed (hidden : Hides issue name other) (null : issue.get? name = some .null) :
    ofJson? (.object (issue.without name)) ≠ ofJson? (.object issue) := by
  cases hidden with
  | line told number held later =>
    intro same
    obtain ⟨message, message_eq⟩ := Option.ne_none_iff_exists'.mp told
    have kept : messageOf? (issue.without "lineNumber") = some message := by
      rw [messageOf?_congr (issue.fades_elsewhere plainNames (by decide)), message_eq]
    have lines := congrArg (Option.map Issue.line) same
    have first : lineOf (issue.either? "lineNumber" "line") = 1 := by
      rw [Members.either?, null]
      rfl
    rw [line_ofJson?, line_ofJson?, kept, message_eq, Option.map_some, Option.map_some,
      issue.either?_revealed (by decide), first, Option.some_inj] at lines
    have behind := lineOf_later held later
    omega

end Answer.Issue

namespace Entry

/-- The members of an entry that have one spelling. -/
def plainNames : List String :=
  ["title", "type", "content", "language", "tableHeaders", "severity", "explanation", "impact",
    "confidence", "references", "steps"]

/-- How a list is marked, by the value that says it. -/
def markOf (found : Option Value) : ListKind :=
  match found.bind Value.string? with
  | some word => if numberedWords.contains (Text.lowerCase word) then .numbered else .bullet
  | none => .bullet

/-- An entry that shows a list: it declares one, and its content is no object. -/
structure ShowsList (entry : Members) : Prop where
  kind : kindOf entry = .list
  content : (entry.get? "content").bind Value.object? = none

section Bodies

variable {entry : Members}

/-- The body of an entry that shows a list is made of its mark and of its items. -/
theorem bodyOf_list (shown : ShowsList entry) :
    bodyOf entry = .list (markOf (entry.either? "listType" "listKind"))
      (((entry.get? "content").map Value.looseTexts).getD []) := by
  rw [bodyOf, shown.kind, shown.content]
  rfl

/-- The body of an entry that declares a table is the table that is made of it, or its degraded
form. -/
theorem bodyOf_table (table : kindOf entry = .table) : bodyOf entry = tableBody entry := by
  rw [bodyOf, table]

end Bodies

section Congruence

variable {before after : Members}

/-- The kind of an entry is not changed when a null is taken out under its name. -/
theorem kindOf_congr (type : Fades (before.get? "type") (after.get? "type")) :
    kindOf before = kindOf after := by
  unfold kindOf
  rw [type.read (fun found => (found.bind Value.string?).map fun text =>
    Text.lowerCase (Text.trim text)) rfl]

/-- Whether an entry has an object as content, and which, is not changed when a null is taken out
there. -/
theorem content_congr (content : Fades (before.get? "content") (after.get? "content")) :
    (before.get? "content").bind Value.object? = (after.get? "content").bind Value.object? :=
  content.read (fun found => found.bind Value.object?) rfl

/-- The table of an entry depends on its headers and on the rows that either name gives. -/
theorem tableBody_congr (headers : Fades (before.get? "tableHeaders") (after.get? "tableHeaders"))
    (rows : itemsOf (before.either? "tableData" "tableRows") =
      itemsOf (after.either? "tableData" "tableRows")) :
    tableBody before = tableBody after := by
  unfold Members.either? at rows
  rw [tableBody, tableBody, tableOf, tableOf, rows, headers.read itemsOf rfl]

/-- An entry's section is made of its plain members. A list depends on its kind besides, and a table
on its rows. -/
theorem toSection_congr
    (plain : ∀ name ∈ plainNames, Fades (before.get? name) (after.get? name))
    (marked : ShowsList before → markOf (before.either? "listType" "listKind") =
      markOf (after.either? "listType" "listKind"))
    (tables : kindOf before = .table → tableBody before = tableBody after) :
    toSection before = toSection after := by
  simp only [plainNames, List.forall_mem_cons] at plain
  obtain ⟨title, type, content, language, headers, severity, explanation, impact, confidence,
    references, steps, _⟩ := plain
  have kinds : kindOf before = kindOf after := kindOf_congr type
  have objects := content_congr content
  have bodies : bodyOf before = bodyOf after := by
    rw [bodyOf, bodyOf, kinds, objects, trimmedText?_fades language, content.read textOf rfl,
      looseTexts_fades content]
    cases kind : kindOf after with
    | text => rfl
    | code => rfl
    | table => exact tables (kinds.trans kind)
    | list =>
      cases held : (after.get? "content").bind Value.object? with
      | some members => rfl
      | none =>
        have marks := marked ⟨kinds.trans kind, objects.trans held⟩
        exact congrArg (Section.Body.list · _) marks
  have rationales : rationaleOf before = rationaleOf after := by
    rw [rationaleOf, rationaleOf, verbatimText?_fades explanation, verbatimText?_fades impact,
      confidence.read (fun found => found.bind confidenceOf) rfl, looseTexts_fades references]
  rw [toSection, toSection, verbatimText?_fades title, bodies, rationales,
    severity.read (fun found => (found.bind Value.string?).bind Severity.ofWord?) rfl,
    looseTexts_fades steps]

end Congruence

/-- The rows under the second name make no difference to a table whose first name is null exactly in
these cases. -/
theorem tableBody_without_iff {entry : Members} (null : entry.get? "tableData" = some .null) :
    tableBody (entry.without "tableData") = tableBody entry ↔
      itemsAt entry "tableRows" = [] ∨
        itemsAt entry "tableHeaders" = [] ∧
          ∀ row ∈ itemsAt entry "tableRows", ∃ cells, row = .array cells := by
  have elsewhere {name : String} (differs : name ≠ "tableData") :
      itemsAt (entry.without "tableData") name = itemsAt entry name := by
    rw [itemsAt, itemsAt, Members.get?_without, if_neg differs]
  have hidden : rowsAt entry = [] := by
    rw [rowsAt, null]
    dsimp only
    rw [itemsAt, null]
  have revealed : rowsAt (entry.without "tableData") = itemsAt entry "tableRows" := by
    rw [rowsAt, Members.get?_without, if_pos rfl]
    exact elsewhere (by decide)
  have made (body : Section.Body) :
      Tabulates (itemsAt entry "tableHeaders") (itemsAt entry "tableRows") body ↔
        tableBody (entry.without "tableData") = body := by
    rw [← tabulates_iff, revealed, elsewhere (by decide)]
  rw [← rows_unseen_iff, eq_comm, ← tabulates_iff, hidden]
  constructor
  · intro bare
    exact ⟨_, bare, (made _).mpr rfl⟩
  · rintro ⟨body, bare, filled⟩
    rwa [(made body).mp filled]

/-- The first spelling of a member of an entry and the second, where it makes a difference whether
the first one is null or missing. -/
inductive Hides (entry : Members) : String → String → Prop where
  | listKind (shown : ShowsList entry) (word : String)
    (held : entry.get? "listKind" = some (.string word))
    (numbered : Text.lowerCase word ∈ numberedWords) : Hides entry "listType" "listKind"
  | tableRows (table : kindOf entry = .table) (filled : itemsAt entry "tableRows" ≠ [])
    (noticed : itemsAt entry "tableHeaders" ≠ [] ∨
      ∃ row ∈ itemsAt entry "tableRows", ∀ cells, row ≠ .array cells) :
    Hides entry "tableData" "tableRows"

variable (entry : Members) {name other : String}

/-- A list whose kind is not hidden is marked by bullets. -/
theorem markOf_silent (shown : ShowsList entry) (silent : ¬ Hides entry "listType" "listKind") :
    markOf (entry.get? "listKind") = markOf none := by
  unfold markOf
  cases held : entry.get? "listKind" with
  | none => rfl
  | some value =>
    cases value with
    | string word =>
      have bullet : ¬ numberedWords.contains (Text.lowerCase word) = true := by
        intro numbered
        exact silent (.listKind shown word held (List.contains_iff_mem.mp numbered))
      exact if_neg bullet
    | _ => rfl

/-- Rows that are not hidden make no difference. -/
theorem tableBody_silent (table : kindOf entry = .table)
    (silent : ¬ Hides entry "tableData" "tableRows")
    (null : entry.get? "tableData" = some .null) :
    tableBody (entry.without "tableData") = tableBody entry := by
  rw [tableBody_without_iff null]
  by_contra seen
  push Not at seen
  obtain ⟨filled, headless⟩ := seen
  refine silent (.tableRows table filled ?_)
  by_cases bare : itemsAt entry "tableHeaders" = []
  · exact .inr (headless bare)
  · exact .inl bare

/-- A null that hides nothing is not seen. -/
theorem toSection_without (null : entry.get? name = some .null)
    (silent : ∀ other, ¬ Hides entry name other) :
    toSection (entry.without name) = toSection entry := by
  symm
  refine toSection_congr (fun other _ => entry.fades_without null other) ?_ ?_
  · intro shown
    refine (entry.either?_without markOf rfl (by decide) null ?_).symm
    rintro rfl
    exact markOf_silent entry shown (silent "listKind")
  · intro table
    by_cases first : name = "tableData"
    · subst first
      exact (tableBody_silent entry table (silent "tableRows") null).symm
    · refine tableBody_congr (entry.fades_without null _) ?_
      refine (entry.either?_without itemsOf rfl (by decide) null ?_).symm
      intro same
      exact absurd same first

/-- What a null hides is not seen. -/
theorem toSection_hidden (hidden : Hides entry name other) (null : entry.get? name = some .null) :
    toSection (entry.without other) = toSection entry := by
  cases hidden with
  | listKind shown word held numbered =>
    have plain := entry.fades_elsewhere plainNames (by decide : "listKind" ∉ plainNames)
    refine toSection_congr plain ?_ ?_
    · intro _
      rw [entry.either?_hidden (by decide) null]
    · intro _
      refine tableBody_congr (plain "tableHeaders" (by decide)) ?_
      rw [entry.either?_elsewhere (by decide) (by decide)]
  | tableRows table filled noticed =>
    have plain := entry.fades_elsewhere plainNames (by decide : "tableRows" ∉ plainNames)
    refine toSection_congr plain ?_ ?_
    · intro _
      rw [entry.either?_elsewhere (by decide) (by decide)]
    · intro _
      refine tableBody_congr (plain "tableHeaders" (by decide)) ?_
      rw [entry.either?_hidden (by decide) null]

/-- Without the null, what it hides is seen. -/
theorem bodyOf_revealed (hidden : Hides entry name other) (null : entry.get? name = some .null) :
    bodyOf (entry.without name) ≠ bodyOf entry := by
  intro same
  cases hidden with
  | listKind shown word held numbered =>
    have plain := entry.fades_elsewhere plainNames (by decide : "listType" ∉ plainNames)
    have stillShown : ShowsList (entry.without "listType") :=
      ⟨(kindOf_congr (plain "type" (by decide))).trans shown.kind,
        (content_congr (plain "content" (by decide))).trans shown.content⟩
    rw [bodyOf_list shown, bodyOf_list stillShown, entry.either?_revealed (by decide),
      Members.either?, null, held] at same
    have marks := (Section.Body.list.inj same).1
    have bullet : markOf ((some Value.null).or (some (.string word))) = .bullet := rfl
    have number : markOf (some (.string word)) = .numbered :=
      if_pos (List.contains_iff_mem.mpr numbered)
    rw [bullet, number] at marks
    exact absurd marks (by decide)
  | tableRows table filled noticed =>
    have plain := entry.fades_elsewhere plainNames (by decide : "tableData" ∉ plainNames)
    have stillTable : kindOf (entry.without "tableData") = .table :=
      (kindOf_congr (plain "type" (by decide))).trans table
    rw [bodyOf_table table, bodyOf_table stillTable, tableBody_without_iff null] at same
    rcases same with empty | ⟨bare, arrays⟩
    · exact filled empty
    · rcases noticed with headed | ⟨row, member, single⟩
      · exact headed bare
      · obtain ⟨cells, isArray⟩ := arrays row member
        exact single cells isArray

end Entry

end CodeReport
