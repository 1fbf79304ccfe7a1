import CodeReport.Page.Content
import CodeReport.Proofs.Page.Unescaped

/-!
# The content of a section is kept in its card

A card is written and read back, and what is read is the content of the section:
every header, cell, item and code once, in its place and without a change, be it
text that looks like markup or like an escape. Only an empty text is read as the
space that is written for it; what a button copies is exact even then.

Each part of the content is looked up by a search. The header of a card, its
chart, its steps and its rationale hold nothing that one of the searches finds,
so each finds in a card what it finds in the view of the body.
-/

namespace CodeReport.Page

open Markup

/-- Whether an element has a name, whatever its attributes. -/
def naming (name other : String) (_ : Attributes) : Bool :=
  other == name

/-- The name of an element is read as it is written. -/
theorem seeks_isNamed (name : String) : Seeks (Node.isNamed name) (naming name) where
  character _ := rfl
  element _ _ _ := rfl

/-- Whether a class is among those of an element. -/
def classing (name : String) (attributes : Attributes) : Bool :=
  (attributes.lookup .classes).any fun classes =>
    (Text.split ' ' classes.toList).contains name.toList

/-- The classes of an element are read as they are written. -/
theorem hasClass_element (className name : String) (attributes : Attributes)
    (children : List Node) :
    (Node.element name (attributes.map writtenAttribute) children).hasClass className =
      classing className attributes := by
  have classes := value?_element name attributes children .classes
  exact congrArg (Option.any _) classes

/-- Whether an element is a list of items. -/
def listing (name : String) (attributes : Attributes) : Bool :=
  (name == "ul" || name == "ol") && classing "content-list" attributes

/-- A list of items is recognised by its name and its class, both in what is read and in what is
written. -/
theorem seeks_isItemList : Seeks Node.isItemList listing where
  character _ := rfl
  element := by
    intro name attributes children
    rw [Node.isItemList, hasClass_element]
    rfl

/-- Whether an element is a button that copies. -/
def copying (name : String) (attributes : Attributes) : Bool :=
  name == "button" && classing "copy-btn" attributes && (attributes.lookup .dataCopy).isSome

/-- A button that copies is recognised by its name, its class and its attribute on both sides. -/
theorem seeks_isCopyButton : Seeks Node.isCopyButton copying where
  character _ := rfl
  element := by
    intro name attributes children
    have copied := value?_element name attributes children .dataCopy
    rw [Node.isCopyButton, hasClass_element]
    exact congrArg (fun value : Option String => _ && value.isSome) copied

/-- A search that finds content alone. -/
structure ContentSearch extends Search where
  contentOnly : ∀ tag attributes, holdsContent tag attributes = false →
    wanted tag.name attributes = false

namespace ContentSearch

/-- A search is made by saying what it spares. -/
def ofWanted (wanted : String → Attributes → Bool)
    (contentOnly : ∀ tag attributes, holdsContent tag attributes = false →
      wanted tag.name attributes = false) : ContentSearch where
  wanted := wanted
  contentOnly := contentOnly
  spared tag attributes fitting := by
    rw [isFitting, Bool.and_eq_true, Bool.not_eq_true'] at fitting
    exact contentOnly tag attributes fitting.2

/-- The search for the elements of a tag that always holds content. -/
def ofTag (tag : Tag) (content : ∀ attributes, tag.holdsContent attributes = true) :
    ContentSearch :=
  ofWanted (naming tag.name) <| by
    intro other attributes plain
    refine beq_false_of_ne ?_
    intro same
    obtain rfl := Tag.name_injective other tag same
    have holds := (Bool.or_eq_false_iff.mp plain).1
    rw [content attributes] at holds
    cases holds

/-- The search for the headers of tables. -/
def headers : ContentSearch := ofTag .th fun _ => rfl

/-- The search for the bodies of tables. -/
def bodies : ContentSearch := ofTag .tbody fun _ => rfl

/-- The search for the cells of rows. -/
def cells : ContentSearch := ofTag .td fun _ => rfl

/-- The search for code. -/
def codes : ContentSearch := ofTag .code fun _ => rfl

/-- The search for lists of items. -/
def lists : ContentSearch :=
  ofWanted listing <| by
    intro tag attributes plain
    cases tag
    case ol => cases plain
    case ul =>
      -- Only references are listed beside items, and their class is another one.
      have references : attributes = [(.classes, "reference-list")] := by
        simpa using (Bool.or_eq_false_iff.mp plain).1
      subst references
      decide
    all_goals rfl

/-- The search for buttons that copy. -/
def copies : ContentSearch :=
  ofWanted copying <| by
    intro tag attributes plain
    have uncopied : attributes.lookup .dataCopy = none := by
      have plainly := List.any_eq_false.mp (Bool.or_eq_false_iff.mp plain).2
      refine List.lookup_eq_none_iff.mpr ?_
      rintro ⟨label, value⟩ member
      rw [bne_iff_ne]
      rintro rfl
      exact plainly _ member rfl
    simp [copying, uncopied]

end ContentSearch

/-- In a card content is found in its body alone. -/
theorem picked_card_content (search : ContentSearch) (block : Section) (place : Nat)
    (isOpen : Bool) :
    (card block place isOpen).picked search.wanted =
      (bodyView block.body).picked search.wanted := by
  simp [card, picked_ofOption, search.contentOnly]

section Bodies

variable (search : ContentSearch)

/-- Paragraphs are no content that is looked for by its element. -/
@[simp] theorem picked_textView_content (content : String) :
    (textView content).picked search.wanted = [] := by
  unfold textView
  split
  · simp [nothingReported]
  · simp [pickedOf_map_nil]

/-- The tag of a list. -/
def listTag : ListKind → Tag
  | .bullet => .ul
  | .numbered => .ol

/-- A list with items, of either kind. -/
theorem listView_filled (kind : ListKind) (items : List String) (filled : items.isEmpty = false) :
    listView kind items =
      .element (listTag kind) [(.classes, s!"content-list {kind.name}")]
        (listed (items.map fun item => plain .li [.text item])) := by
  rw [listView, filled]
  cases kind <;> rfl

/-- In the view of a list with items at most the list itself is found. -/
theorem picked_listView_content (kind : ListKind) (items : List String)
    (filled : items.isEmpty = false) :
    (listView kind items).picked search.wanted =
      if search.wanted (listTag kind).name [(.classes, s!"content-list {kind.name}")] then
        [listView kind items]
      else [] := by
  have entries : pickedOf search.wanted (items.map fun item => plain .li [.text item]) = [] :=
    pickedOf_map_nil _ items (by simp)
  rw [listView_filled kind items filled, picked, pickedOf_listed, entries, List.append_nil]

/-- The button that copies a code. -/
def copyButton (content : String) : Markup :=
  .element .button [(.dataCopy, content), (.title, "Copy code"), (.classes, "copy-btn")]
    [Icon.copy.decoration "14" "", classed .span "copy-label" [.text "Copy"]]

/-- In the view of code at most its copy button and the code itself are found. -/
theorem picked_codeView_content (language : Option String) (content : String) :
    (codeView language content).picked search.wanted =
      (if search.wanted "button" [(.dataCopy, content), (.title, "Copy code"),
        (.classes, "copy-btn")] then [copyButton content] else []) ++
      (if search.wanted "code" [] then [plain .code [.text content]] else []) := by
  simp [codeView, plain]
  rfl

/-- The lines of a table below its headers. -/
def tableLines (rows : List (List String)) : Markup :=
  plain .tbody (listed (rows.map fun row => plain .tr (cells .td row)) ++ [.marker])

/-- Cells are found one by one if cells of their tag are wanted. -/
theorem picked_cells_content (tag : Tag) (texts : List String) :
    pickedOf search.wanted (cells tag texts) =
      if search.wanted tag.name [] then texts.map fun text => plain tag [.text text] else [] := by
  rw [cells, pickedOf_listed, pickedOf_map]
  cases isWanted : search.wanted tag.name [] with
  | true => simpa [plain, isWanted] using List.map_eq_flatMap.symm
  | false => simp [plain, isWanted]

/-- In the view of a table with rows at most its headers, its body and its cells are found, in this
order. -/
theorem picked_tableView_content (headers : List String) (rows : List (List String))
    (filled : rows.isEmpty = false)
    (frame : ∀ attributes, search.wanted Tag.table.name attributes = false ∧
      search.wanted Tag.thead.name attributes = false ∧
      search.wanted Tag.tr.name attributes = false) :
    (tableView headers rows).picked search.wanted =
      (if search.wanted Tag.th.name [] then headers.map fun text => plain .th [.text text]
        else []) ++
      ((if search.wanted Tag.tbody.name [] then [tableLines rows] else []) ++
        (if search.wanted Tag.td.name [] then rows.flatten.map fun text => plain .td [.text text]
          else [])) := by
  have cells : (rows.flatMap fun row => pickedOf search.wanted (cells .td row)) =
      if search.wanted Tag.td.name [] then rows.flatten.map fun text => plain .td [.text text]
        else [] := by
    simp only [picked_cells_content]
    split
    · rw [List.map_flatten, List.flatMap_def]
    · simp
  simpa [tableView, filled, tableLines, plain, classed, picked_cells_content, frame,
    pickedOf_map] using cells

end Bodies

section Readings

/-- The texts of elements that hold one text each. -/
theorem texts_plain (tag : Tag) (texts : List String) :
    (nodesOf (texts.map fun text => plain tag [.text text])).map Node.text =
      texts.map readable := by
  rw [nodesOf_map _ (fun text => elementNode tag [] [.text text]) texts fun _ => rfl, List.map_map]
  exact List.map_congr_left fun text _ => text_elementNode tag [] text

/-- The elements of a name in an element, as they are written. -/
theorem named_elementNode (name : String) (tag : Tag) (attributes : Attributes)
    (children : List Markup) :
    (elementNode tag attributes children).named name =
      nodesOf ((Markup.element tag attributes children).picked (naming name)) := by
  have found := filter_nodes (seeks_isNamed name) (.element tag attributes children)
  have alone : elementsOf (Markup.element tag attributes children).nodes =
      (elementNode tag attributes children).elements :=
    List.append_nil _
  rwa [alone] at found

/-- The texts of the elements of a tag that are the children of an element of another tag. -/
theorem texts_listed (inner outer : Tag) (other : outer.name ≠ inner.name) (attributes : Attributes)
    (texts : List String) :
    ((elementNode outer attributes (listed (texts.map fun text => plain inner [.text text]))).named
      inner.name).map Node.text = texts.map readable := by
  have found : pickedOf (naming inner.name) (texts.map fun text => plain inner [.text text]) =
      texts.map fun text => plain inner [.text text] := by
    rw [pickedOf_map]
    simpa [plain, naming] using List.map_eq_flatMap.symm
  have within : (Markup.element outer attributes
      (listed (texts.map fun text => plain inner [.text text]))).picked (naming inner.name) =
        texts.map fun text => plain inner [.text text] := by
    rw [picked, pickedOf_listed, found, naming, beq_false_of_ne other]
    rfl
  rw [named_elementNode, within, texts_plain]

/-- The rows of a table are read row by row. -/
theorem rows_tableLines (rows : List (List String)) :
    Node.rows (elementNode .tbody []
      (listed (rows.map fun row => plain .tr (cells .td row)) ++ [.marker])) =
        rows.map fun row => row.map readable := by
  have found : pickedOf (naming "tr") (rows.map fun row => plain .tr (cells .td row)) =
      rows.map fun row => plain .tr (cells .td row) := by
    have plainCells (row : List String) : pickedOf (naming "tr") (cells .td row) = [] := by
      simp [cells, pickedOf_map, plain, naming, Tag.name]
    rw [pickedOf_map]
    simpa [plain, naming, plainCells, Tag.name] using List.map_eq_flatMap.symm
  have lines : (elementNode .tbody []
      (listed (rows.map fun row => plain .tr (cells .td row)) ++ [.marker])).named "tr" =
        rows.map fun row => elementNode .tr [] (cells .td row) := by
    rw [named_elementNode, picked, pickedOf_append, pickedOf_listed, found]
    exact (congrArg nodesOf (List.append_nil _)).trans (nodesOf_map _ _ _ fun _ => rfl)
  rw [Node.rows, lines, List.map_map]
  refine List.map_congr_left fun row _ => ?_
  exact texts_listed .td .tr (by decide) [] row

/-- The items of a list are read in order, and its kind from its tag. -/
theorem items_listView (kind : ListKind) (items : List String) (filled : items.isEmpty = false) :
    (nodesOf [listView kind items]).map Node.items = [(kind, items.map readable)] := by
  let attributes : Attributes := [(.classes, s!"content-list {kind.name}")]
  have texts := texts_listed .li (listTag kind) (by cases kind <;> decide) attributes items
  have isKind : (if (listTag kind).name == "ol" then .numbered else .bullet) = kind := by
    cases kind <;> rfl
  rw [listView_filled kind items filled]
  exact congrArg₂ (fun first second => [(first, second)]) isKind texts

end Readings

/-- What a content search finds in a card, it finds in the view of the body. -/
theorem filter_card (search : ContentSearch) (sought : Node → Bool)
    (seeks : Seeks sought search.wanted) (block : Section) (place : Nat) (isOpen : Bool) :
    (elementsOf (card block place isOpen).nodes).filter sought =
      nodesOf ((bodyView block.body).picked search.wanted) := by
  rw [filter_nodes seeks, picked_card_content]

/-- The content that is found in a view. -/
def Content.ofView (view : Markup) : Content where
  headers := (nodesOf (view.picked ContentSearch.headers.wanted)).map Node.text
  rows := (nodesOf (view.picked ContentSearch.bodies.wanted)).flatMap Node.rows
  cells := (nodesOf (view.picked ContentSearch.cells.wanted)).map Node.text
  lists := (nodesOf (view.picked ContentSearch.lists.wanted)).map Node.items
  codes := (nodesOf (view.picked ContentSearch.codes.wanted)).map Node.text
  copies := (nodesOf (view.picked ContentSearch.copies.wanted)).filterMap
    (Node.value? "data-copy")

/-- The content of a card is that of the view of its body. -/
theorem read_card (block : Section) (place : Nat) (isOpen : Bool) :
    Content.read (card block place isOpen).nodes = Content.ofView (bodyView block.body) := by
  have headers := filter_card .headers _ (seeks_isNamed "th") block place isOpen
  have bodies := filter_card .bodies _ (seeks_isNamed "tbody") block place isOpen
  have cells := filter_card .cells _ (seeks_isNamed "td") block place isOpen
  have lists := filter_card .lists _ seeks_isItemList block place isOpen
  have codes := filter_card .codes _ (seeks_isNamed "code") block place isOpen
  have copies := filter_card .copies _ seeks_isCopyButton block place isOpen
  simp only [Content.read, Content.ofView, textsNamed, headers, bodies, cells, lists, codes, copies]

/-- A view without content. Paragraphs are not looked up. -/
theorem ofView_textView (content : String) : Content.ofView (textView content) = {} := by
  simp only [Content.ofView, picked_textView_content]
  rfl

/-- A notice holds no content. -/
theorem ofView_notice (expected : Section.Kind) (reason : String) :
    Content.ofView (notice expected reason) = {} := by
  have none (search : ContentSearch) : (notice expected reason).picked search.wanted = [] := by
    simp [notice, search.contentOnly]
  simp only [Content.ofView, none]
  rfl

/-- The view of a list with items holds what the list holds. -/
theorem ofView_listView (kind : ListKind) (items : List String) (filled : items.isEmpty = false) :
    Content.ofView (listView kind items) = (Section.Body.list kind items).content := by
  have found (search : ContentSearch) := picked_listView_content search kind items filled
  have isList : ContentSearch.lists.wanted (listTag kind).name
      [(.classes, s!"content-list {kind.name}")] = true := by
    cases kind <;> decide
  simp only [Content.ofView, found, isList, if_true, items_listView kind items filled]
  cases kind <;> rfl

/-- The view of code holds the code and the text that is copied. -/
theorem ofView_codeView (language : Option String) (content : String) :
    Content.ofView (codeView language content) = (Section.Body.code language content).content := by
  have found (search : ContentSearch) := picked_codeView_content search language content
  have codes : (codeView language content).picked ContentSearch.codes.wanted =
      [plain .code [.text content]] := found .codes
  have copies : (codeView language content).picked ContentSearch.copies.wanted =
      [copyButton content] := found .copies
  have text : (nodesOf [plain .code [.text content]]).map Node.text = [readable content] :=
    texts_plain .code [content]
  have copied : (nodesOf [copyButton content]).filterMap (Node.value? "data-copy") = [content] :=
    List.filterMap_cons_some (value?_elementNode .button _ _ .dataCopy)
  rw [Content.ofView, codes, copies, text, copied, found, found, found, found]
  rfl

/-- The view of a table with rows holds its headers and its rows. -/
theorem ofView_tableView (headers : List String) (rows : List (List String))
    (filled : rows.isEmpty = false) :
    Content.ofView (tableView headers rows) = (Section.Body.table headers rows).content := by
  have found (search : ContentSearch) := picked_tableView_content search headers rows filled
  have titles : (tableView headers rows).picked ContentSearch.headers.wanted =
      headers.map fun text => plain .th [.text text] :=
    (found .headers fun _ => ⟨rfl, rfl, rfl⟩).trans (List.append_nil _)
  -- The row of the headers is none of the rows, since only the body of the table is searched.
  have bodies : (tableView headers rows).picked ContentSearch.bodies.wanted =
      [tableLines rows] :=
    found .bodies fun _ => ⟨rfl, rfl, rfl⟩
  have cells : (tableView headers rows).picked ContentSearch.cells.wanted =
      rows.flatten.map fun text => plain .td [.text text] :=
    found .cells fun _ => ⟨rfl, rfl, rfl⟩
  have lists : (tableView headers rows).picked ContentSearch.lists.wanted = [] :=
    found .lists fun _ => ⟨rfl, rfl, rfl⟩
  have codes : (tableView headers rows).picked ContentSearch.codes.wanted = [] :=
    found .codes fun _ => ⟨rfl, rfl, rfl⟩
  have copies : (tableView headers rows).picked ContentSearch.copies.wanted = [] :=
    found .copies fun _ => ⟨rfl, rfl, rfl⟩
  have lines : (nodesOf [tableLines rows]).flatMap Node.rows =
      rows.map fun row => row.map readable := by
    rw [← rows_tableLines rows]
    exact List.append_nil _
  rw [Content.ofView, titles, bodies, cells, lists, codes, copies, texts_plain, texts_plain, lines]
  rfl

/-- The view of a body without defect and with something to show has the content of the body. -/
theorem ofView_bodyView (body : Section.Body) (faultless : body.defect? = none)
    (filled : body.isFilled = true) : Content.ofView (bodyView body) = body.content := by
  cases body with
  | text content => exact ofView_textView content
  | list kind items =>
    exact ofView_listView kind items (by simpa [Section.Body.isFilled] using filled)
  | table headers rows =>
    have shown : bodyView (.table headers rows) = tableView headers rows := by
      simp only [bodyView, faultless]
    rw [shown]
    exact ofView_tableView headers rows (by simpa [Section.Body.isFilled] using filled)
  | code language content => exact ofView_codeView language content
  | degraded expected reason => exact ofView_notice expected reason

/-- The card of every section can be read, and its content is that of the section: if the body is a
table, it has no defect and at least one row, and if it is a list, it has at least one item. All
texts are arbitrary, also those of the chart, the steps and the rationale around the body.

Proof: the card is well nested, and its searches lead to the elements of the body alone. Each such
element holds one text, whose escapes are taken back once. -/
theorem content_kept (block : Section) (place : Nat) (isOpen : Bool)
    (faultless : block.body.defect? = none) (filled : block.body.isFilled = true) :
    ∃ nodes, readPage? (card block place isOpen).write = some nodes ∧
      Content.read nodes = block.body.content := by
  have closed : ∀ tag, ∀ text ∈ (card block place isOpen).verbatims tag, '<' ∉ text.toList := by
    intro tag text member
    rw [verbatims_card] at member
    cases member
  refine ⟨_, readPage?_write (card block place isOpen) closed, ?_⟩
  rw [read_card, ofView_bodyView block.body faultless filled]

/-- A cell that looks like an escape is not read as one, and an empty cell is read as a space. -/
theorem lookalike_kept :
    let body := Section.Body.table ["<b>", "\""] [["&lt;", ""], ["&amp;lt;", "</td>"]]
    body.defect? = none ∧ body.isFilled = true ∧
      ∃ nodes, readPage? (card (.ofBody "Table" body) 0 false).write = some nodes ∧
        (Content.read nodes).headers = ["<b>", "\""] ∧
        (Content.read nodes).rows = [["&lt;", " "], ["&amp;lt;", "</td>"]] := by
  intro body
  obtain ⟨nodes, read, content⟩ :=
    content_kept (.ofBody "Table" body) 0 false (by decide) (by decide)
  refine ⟨by decide, by decide, nodes, read, ?_, ?_⟩
  · rw [content]
    decide
  · rw [content]
    decide

end CodeReport.Page
