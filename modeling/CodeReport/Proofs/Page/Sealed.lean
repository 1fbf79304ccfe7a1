import CodeReport.Page.Document
import CodeReport.Proofs.Page.ReadBack
import CodeReport.Text.Octets

/-!
# Reports put nothing into a page but text

A page has one style sheet and one script, the same in every page, and all its
elements and attributes are of the vocabulary. Whatever the strings of a report
hold, a reader finds them as text and as attribute values.

The components are looked through one by one: none of them writes anything as it
is. Only the head of the page does, and the page itself.
-/

namespace CodeReport.Page

/-- The elements in nodes in a row are those of the nodes, in a row. -/
theorem elementsOf_append (first second : List Node) :
    elementsOf (first ++ second) = elementsOf first ++ elementsOf second := by
  induction first with
  | nil => rfl
  | cons node rest inductionHypothesis =>
    rw [List.cons_append, elementsOf, elementsOf, inductionHypothesis, List.append_assoc]

/-- There are no elements in a text. -/
theorem elementsOf_characterNodes (characters : List Char) :
    elementsOf (characterNodes characters) = [] := by
  induction characters with
  | nil => rfl
  | cons character rest inductionHypothesis => exact inductionHypothesis

/-- A node that is no element, or has a name and attributes that components write. -/
def Node.IsKnown : Node → Prop
  | .character _ => True
  | .element name attributes _ =>
    ((∃ tag : Tag, name = tag.name) ∨ (∃ tag : VerbatimTag, name = tag.name) ∨ name = "meta") ∧
      ∀ pair ∈ attributes, ∃ label : AttributeName, pair.1 = label.written

/-- Attributes are written with names of the vocabulary. -/
theorem known_attributes (attributes : Attributes) (pair : String × String)
    (member : pair ∈ attributes.map writtenAttribute) :
    ∃ label : AttributeName, pair.1 = label.written := by
  obtain ⟨source, _, rfl⟩ := List.mem_map.mp member
  exact ⟨source.1, rfl⟩

namespace Markup

mutual
/-- Every element of markup is of the vocabulary. -/
theorem known_nodes (piece : Markup) : ∀ node ∈ elementsOf piece.nodes, node.IsKnown := by
  intro node member
  match piece with
  | .text content => simp [nodes, elementsOf_characterNodes] at member
  | .marker => cases member
  | .element tag attributes children =>
    simp only [nodes, elementsOf, Node.elements, List.append_nil, List.mem_cons] at member
    rcases member with rfl | inner
    · exact ⟨.inl ⟨tag, rfl⟩, known_attributes attributes⟩
    · exact known_nodesOf children node inner
  | .metadata attributes =>
    simp only [nodes, elementsOf, Node.elements, List.append_nil, List.mem_singleton] at member
    subst member
    exact ⟨.inr (.inr rfl), known_attributes attributes⟩
  | .verbatim tag content =>
    simp only [nodes, elementsOf, Node.elements, elementsOf_characterNodes, List.append_nil,
      List.mem_singleton] at member
    subst member
    exact ⟨.inr (.inl ⟨tag, rfl⟩), by simp⟩

/-- Every element of markup in a row is of the vocabulary. -/
theorem known_nodesOf (pieces : List Markup) :
    ∀ node ∈ elementsOf (nodesOf pieces), node.IsKnown := by
  intro node member
  match pieces with
  | [] => cases member
  | piece :: rest =>
    rw [nodesOf, elementsOf_append, List.mem_append] at member
    rcases member with first | later
    · exact known_nodes piece node first
    · exact known_nodesOf rest node later
end

/-- A style sheet or a script as it is read. -/
def verbatimNode (tag : VerbatimTag) (content : String) : Node :=
  .element tag.name [] (characterNodes content.toList)

/-- No ordinary element has the name of a style sheet or a script. -/
theorem name_ne_verbatim (tag : Tag) (wanted : VerbatimTag) : tag.name ≠ wanted.name := by
  cases wanted <;> cases tag <;> decide

mutual
/-- The style sheets and the scripts that are read are those that are written. -/
theorem named_nodes (wanted : VerbatimTag) (piece : Markup) :
    (elementsOf piece.nodes).filter (Node.isNamed wanted.name) =
      (piece.verbatims wanted).map (verbatimNode wanted) := by
  match piece with
  | .text content => simp [nodes, elementsOf_characterNodes, verbatims]
  | .marker => rfl
  | .element tag attributes children =>
    have inner := named_nodesOf wanted children
    simpa [nodes, elementsOf, Node.elements, Node.isNamed, verbatims, name_ne_verbatim] using inner
  | .metadata attributes => cases wanted <;> rfl
  | .verbatim tag content =>
    cases tag <;> cases wanted <;>
      simp [nodes, elementsOf, Node.elements, elementsOf_characterNodes, Node.isNamed, verbatims,
        verbatimNode, VerbatimTag.name]

/-- The style sheets and the scripts that are read in a row are those that are written. -/
theorem named_nodesOf (wanted : VerbatimTag) (pieces : List Markup) :
    (elementsOf (nodesOf pieces)).filter (Node.isNamed wanted.name) =
      (verbatimsOf wanted pieces).map (verbatimNode wanted) := by
  match pieces with
  | [] => rfl
  | piece :: rest =>
    rw [nodesOf, elementsOf_append, List.filter_append, verbatimsOf, List.map_append,
      named_nodes wanted piece, named_nodesOf wanted rest]
end

variable {wanted : VerbatimTag}

/-- Markup in a row holds what its pieces hold. -/
@[simp] theorem verbatimsOf_append (first second : List Markup) :
    verbatimsOf wanted (first ++ second) =
      verbatimsOf wanted first ++ verbatimsOf wanted second := by
  induction first with
  | nil => rfl
  | cons piece rest inductionHypothesis =>
    rw [List.cons_append, verbatimsOf, verbatimsOf, inductionHypothesis, List.append_assoc]

/-- Views of items in a row hold nothing if none of them does. -/
theorem verbatimsOf_map {α : Type} (view : α → Markup) (items : List α)
    (each : ∀ item ∈ items, (view item).verbatims wanted = []) :
    verbatimsOf wanted (items.map view) = [] := by
  induction items with
  | nil => rfl
  | cons item rest inductionHypothesis =>
    have others := inductionHypothesis fun other member =>
      each other (List.mem_cons_of_mem item member)
    rw [List.map_cons, verbatimsOf, each item List.mem_cons_self, others]
    rfl

/-- A view of something that may be absent holds nothing if no view of it does. -/
theorem verbatims_ofOption {α : Type} (view : α → Markup) (item : Option α)
    (each : ∀ present, (view present).verbatims wanted = []) :
    (ofOption (item.map view)).verbatims wanted = [] := by
  cases item with
  | none => rfl
  | some present => exact each present

/-- An element with classes holds the style sheets and scripts of its children. -/
@[simp] theorem verbatims_classed (tag : Tag) (classes : String) (children : List Markup) :
    (classed tag classes children).verbatims wanted = verbatimsOf wanted children := by
  simp [classed]

/-- An element without attributes holds the style sheets and scripts of its children. -/
@[simp] theorem verbatims_plain (tag : Tag) (children : List Markup) :
    (plain tag children).verbatims wanted = verbatimsOf wanted children := by
  simp [plain]

/-- The marker behind a list is neither a style sheet nor a script. -/
@[simp] theorem verbatimsOf_listed (pieces : List Markup) :
    verbatimsOf wanted (listed pieces) = verbatimsOf wanted pieces := by
  simp [listed]

end Markup

open Markup

variable {wanted : VerbatimTag}

/-- Icons hold neither style sheets nor scripts. -/
@[simp] theorem verbatims_icon (icon : Icon) (size classes : String) (label : Option String) :
    (icon.markup size classes label).verbatims wanted = [] := by
  simp [Icon.markup]

/-- Icons that decorate hold neither style sheets nor scripts. -/
@[simp] theorem verbatims_decoration (icon : Icon) (size classes : String) :
    (icon.decoration size classes).verbatims wanted = [] := by
  simp [Icon.decoration]

/-- Small icons hold neither style sheets nor scripts. -/
@[simp] theorem verbatims_small (icon : Icon) (colour : String) :
    (icon.small colour).verbatims wanted = [] := by
  simp [Icon.small]

/-- The placeholder of an empty body holds neither style sheets nor scripts. -/
@[simp] theorem verbatims_nothingReported : nothingReported.verbatims wanted = [] := by
  simp [nothingReported]

/-- Paragraphs hold neither style sheets nor scripts, whatever their text. -/
@[simp] theorem verbatims_textView (content : String) :
    (textView content).verbatims wanted = [] := by
  unfold textView
  split
  · simp
  · simp only [verbatims_classed, verbatimsOf_listed]
    exact verbatimsOf_map _ _ (by simp)

/-- Lists of items hold neither style sheets nor scripts, whatever the items. -/
@[simp] theorem verbatims_listView (kind : ListKind) (items : List String) :
    (listView kind items).verbatims wanted = [] := by
  have entries : verbatimsOf wanted (items.map fun item => plain .li [.text item]) = [] :=
    verbatimsOf_map _ items (by simp)
  unfold listView
  split
  · simp
  · cases kind <;> simpa using entries

/-- Cells hold neither style sheets nor scripts, whatever their texts. -/
@[simp] theorem verbatims_cells (tag : Tag) (texts : List String) :
    verbatimsOf wanted (cells tag texts) = [] := by
  rw [cells, verbatimsOf_listed]
  exact verbatimsOf_map _ texts (by simp)

/-- Tables hold neither style sheets nor scripts, whatever their cells. -/
@[simp] theorem verbatims_tableView (headers : List String) (rows : List (List String)) :
    (tableView headers rows).verbatims wanted = [] := by
  have lines : verbatimsOf wanted (rows.map fun row => plain .tr (cells .td row)) = [] :=
    verbatimsOf_map _ rows (by simp)
  unfold tableView
  cases rows.isEmpty <;> simp [lines, emptyRow]

/-- Code is shown as text, so it holds neither style sheets nor scripts. -/
@[simp] theorem verbatims_codeView (language : Option String) (content : String) :
    (codeView language content).verbatims wanted = [] := by
  simp [codeView]

/-- Notices hold neither style sheets nor scripts, whatever the reason. -/
@[simp] theorem verbatims_notice (expected : Section.Kind) (reason : String) :
    (notice expected reason).verbatims wanted = [] := by
  simp [notice]

/-- Bodies of any kind, with or without a defect. -/
@[simp] theorem verbatims_bodyView (body : Section.Body) :
    (bodyView body).verbatims wanted = [] := by
  unfold bodyView
  cases body.defect? with
  | some defect => simp
  | none => cases body <;> simp

/-- Charts hold neither style sheets nor scripts, whatever the labels. -/
@[simp] theorem verbatims_chart (bars : List ScoreBar) :
    (Chart.view bars).verbatims wanted = [] := by
  unfold Chart.view
  split
  · simp [nothing]
  · simp only [verbatims_classed, verbatims_plain, verbatims, verbatimsOf, verbatimsOf_listed,
      List.append_nil, List.nil_append]
    exact verbatimsOf_map _ _ (by simp [Chart.row])

/-- Badges hold neither style sheets nor scripts. -/
@[simp] theorem verbatims_badge (severity : Severity) : (badge severity).verbatims wanted = [] := by
  simp [badge]

/-- Steps hold neither style sheets nor scripts, whatever they say. -/
@[simp] theorem verbatims_stepsView (steps : List String) :
    (stepsView steps).verbatims wanted = [] := by
  unfold stepsView
  split
  · simp [nothing]
  · simp only [verbatims_classed, verbatimsOf_listed]
    exact verbatimsOf_map _ _ (by simp)

/-- References hold neither style sheets nor scripts, wherever they lead. -/
@[simp] theorem verbatims_referenceView (reference : String) :
    (referenceView reference).verbatims wanted = [] := by
  unfold referenceView
  split <;> simp

/-- Confidences hold neither style sheets nor scripts. -/
@[simp] theorem verbatims_confidenceView (confidence : UInt8) :
    (confidenceView confidence).verbatims wanted = [] := by
  simp [confidenceView]

/-- Headings hold neither style sheets nor scripts. -/
@[simp] theorem verbatims_heading (icon : Icon) (colour title : String) :
    (heading icon colour title).verbatims wanted = [] := by
  simp [heading]

/-- Rationales hold neither style sheets nor scripts. -/
@[simp] theorem verbatims_rationaleView (rationale : Section.Rationale) :
    (rationaleView rationale).verbatims wanted = [] := by
  have references : verbatimsOf wanted (rationale.references.map referenceView) = [] :=
    verbatimsOf_map _ _ (by simp)
  unfold rationaleView
  split
  · simp [nothing]
  · cases rationale.references.isEmpty <;> simp [verbatims_ofOption, references]

/-- A card, with all that its section shows. -/
@[simp] theorem verbatims_card (block : Section) (index : Nat) (isOpen : Bool) :
    (card block index isOpen).verbatims wanted = [] := by
  simp [card, verbatims_ofOption]

/-- All cards of a page. -/
@[simp] theorem verbatims_cards (sections : List Section) (openness : Openness) :
    verbatimsOf wanted (cards sections openness) = [] :=
  verbatimsOf_map _ _ (by simp)

/-- Introductions hold neither style sheets nor scripts, whatever they say. -/
@[simp] theorem verbatims_introductionView (introduction : String) :
    (introductionView introduction).verbatims wanted = [] := by
  unfold introductionView
  split <;> simp [nothing]

/-- Warnings hold neither style sheets nor scripts, whatever they say. -/
@[simp] theorem verbatims_warningView (warning : Option String) :
    (warningView warning).verbatims wanted = [] :=
  verbatims_ofOption _ warning (by simp)

/-- Titles of reports hold neither style sheets nor scripts. -/
@[simp] theorem verbatims_titleView (report : Report) :
    (titleView report).verbatims wanted = [] := by
  simp [titleView]

/-- The sections of a page hold neither style sheets nor scripts. -/
@[simp] theorem verbatims_sectionsView (report : Report) (openness : Openness) :
    (sectionsView report openness).verbatims wanted = [] := by
  unfold sectionsView
  cases report.sections.isEmpty <;> simp

/-- Footers hold neither style sheets nor scripts, whatever the model is called. -/
@[simp] theorem verbatims_footerView (model : Option String) :
    (footerView model).verbatims wanted = [] := by
  simp [footerView, verbatims_ofOption]

/-- A page holds one style sheet and one script, whatever it shows. -/
theorem verbatims_page (report : Report) (openness : Openness) :
    (page report openness).verbatims wanted =
      match wanted with
      | .style => [StyleSheet.text]
      | .script => [Script.text] := by
  cases wanted <;> simp [page, headView]

/-- A text between two line feeds holds no sign that the text does not hold. -/
theorem ordinary_framed (text : String) (ordinary : '<' ∉ text.toList) :
    '<' ∉ ("\n" ++ text ++ "\n").toList := by
  rw [String.toList_append, String.toList_append, List.mem_append, List.mem_append]
  rintro ((member | member) | member)
  · exact absurd member (by decide)
  · exact ordinary member
  · exact absurd member (by decide)

/-- No line of the style sheet holds a sign that would end it. -/
theorem styleSheet_ordinary : '<' ∉ StyleSheet.text.toList := by
  have lines : ∀ paragraph ∈ StyleSheet.sheet, ∀ line ∈ paragraph.flatMap StyleSheet.Item.lines,
      Text.lacksOctet 0x3c line = true := by
    decide +kernel
  have paragraphs (paragraph : StyleSheet.Paragraph) (member : paragraph ∈ StyleSheet.sheet) :
      '<' ∉ (StyleSheet.writeParagraph paragraph).toList := by
    refine Text.not_mem_intercalate '<' "\n" _ (by decide) fun line inside => ?_
    exact Text.not_mem_of_lacksOctet '<' line rfl (lines paragraph member line inside)
  have whole := Text.not_mem_intercalate '<' "\n\n"
    (StyleSheet.sheet.map StyleSheet.writeParagraph) (by decide)
    (List.forall_mem_map.mpr paragraphs)
  exact ordinary_framed _ whole

/-- No line of the script holds a sign that would end it. -/
theorem script_ordinary : '<' ∉ Script.text.toList := by
  have lines : ∀ line ∈ Script.toggleLines ++ Script.copyLines CopyNotice.holdMilliseconds,
      Text.lacksOctet 0x3c line = true := by
    decide +kernel
  have whole := Text.not_mem_intercalate '<' "\n" _ (by decide) fun line member =>
    Text.not_mem_of_lacksOctet '<' line rfl (lines line member)
  exact ordinary_framed _ whole

/-- What a page holds as it is has no end before its end. -/
theorem verbatims_ordinary (report : Report) (openness : Openness) (tag : VerbatimTag)
    (content : String) (member : content ∈ (page report openness).verbatims tag) :
    '<' ∉ content.toList := by
  rw [verbatims_page] at member
  cases tag with
  | style => exact List.mem_singleton.mp member ▸ styleSheet_ordinary
  | script => exact List.mem_singleton.mp member ▸ script_ordinary

/-- A whole page is read back as the tree that its components write. -/
theorem readPage?_document (report : Report) (openness : Openness) :
    readPage? (document report openness) =
      some (.character '\n' :: (page report openness).nodes) :=
  readPage?_declared (page report openness) (verbatims_ordinary report openness)

/-- A tree that holds no more than the components of a page write. -/
structure Node.Sealed (root : Node) : Prop where
  styleSheets : root.named "style" = [.element "style" [] (characterNodes StyleSheet.text.toList)]
  scripts : root.named "script" = [.element "script" [] (characterNodes Script.text.toList)]
  known : ∀ node ∈ root.elements, node.IsKnown
  /-- No attribute is a handler of events. -/
  silent : ∀ name attributes children, .element name attributes children ∈ root.elements →
    ∀ pair ∈ attributes, Text.startsWithLetters "on".toList pair.1.toList = false

/-- Names of the vocabulary are no names of handlers. -/
theorem AttributeName.silent (label : AttributeName) :
    Text.startsWithLetters "on".toList label.written.toList = false := by
  cases label <;> decide

/-- The elements of a name in markup that is one element. -/
theorem named_root (wanted : VerbatimTag) (piece : Markup) (root : Node)
    (single : piece.nodes = [root]) :
    root.named wanted.name = (piece.verbatims wanted).map (verbatimNode wanted) := by
  have named := named_nodes wanted piece
  simpa [single, elementsOf, Node.named] using named

/-- Markup that is one element of the vocabulary is sealed if it holds the style sheet and the
script. -/
theorem sealed_root (piece : Markup) (root : Node) (single : piece.nodes = [root])
    (styleSheet : piece.verbatims .style = [StyleSheet.text])
    (script : piece.verbatims .script = [Script.text]) : root.Sealed := by
  have known : ∀ node ∈ root.elements, node.IsKnown := by
    have all := known_nodes piece
    simpa [single, elementsOf] using all
  constructor
  · have named := named_root .style piece root single
    rw [styleSheet] at named
    exact named
  · have named := named_root .script piece root single
    rw [script] at named
    exact named
  · exact known
  · intro name attributes children member pair inside
    obtain ⟨label, same⟩ := (known _ member).2 pair inside
    rw [same]
    exact label.silent

/-- Every page is well nested and sealed: whatever a report says, and whatever its keys are, it
adds no element, no attribute, no style and no script to the page that shows it. -/
theorem document_sealed (report : Report) (openness : Openness) :
    ∃ children, readPage? (document report openness) =
        some [.character '\n', .element "html" [] children] ∧
      (Node.element "html" [] children).Sealed := by
  obtain ⟨children, single⟩ :
      ∃ children, (page report openness).nodes = [.element "html" [] children] :=
    ⟨_, by rw [page, Markup.plain, Markup.nodes]; rfl⟩
  refine ⟨children, ?_, ?_⟩
  · rw [readPage?_document, single]
  · exact sealed_root _ _ single (verbatims_page report openness) (verbatims_page report openness)

end CodeReport.Page
