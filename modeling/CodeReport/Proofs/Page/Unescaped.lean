import CodeReport.Page.Reading
import CodeReport.Proofs.Page.Marked

/-!
# Escapes are taken back

Texts and attribute values are escaped in two ways, and both are undone by the
one reading. An escape of a text is an escape of a value too; a quote is escaped
in values alone and stands for itself in a text.

Taking back is by one pass from the left. Every ampersand that is written begins
an escape, so what a text holds is never taken for an escape of the page.
-/

namespace CodeReport.Page

/-- The escape of a character in a text is taken back, and reading goes on behind it. -/
theorem unescape_inText (character : Char) (rest : List Char) :
    unescape (escapeInText character ++ rest) = character :: unescape rest := by
  unfold escapeInText
  split_ifs with isAnd isLess isGreater
  · subst isAnd
    rfl
  · subst isLess
    rfl
  · subst isGreater
    rfl
  · exact unescape_cons character rest isAnd

/-- The escape of a character in a value is taken back, and reading goes on behind it. -/
theorem unescape_inValue (character : Char) (rest : List Char) :
    unescape (escapeInValue character ++ rest) = character :: unescape rest := by
  unfold escapeInValue
  split_ifs with isQuote
  · subst isQuote
    rfl
  · exact unescape_inText character rest

/-- What is escaped character by character is taken back as a whole. -/
theorem unescape_flatMap (escape : Char → List Char) (characters : List Char)
    (each : ∀ character rest, unescape (escape character ++ rest) = character :: unescape rest) :
    unescape (characters.flatMap escape) = characters := by
  induction characters with
  | nil => rfl
  | cons character rest inductionHypothesis =>
    rw [List.flatMap_cons, each, inductionHypothesis]

/-- A text that is written is read as it is, or as a space if it is empty. -/
theorem unescape_writeText (content : String) :
    unescape (writeText content).toList = (readable content).toList := by
  unfold writeText readable
  split_ifs with isEmpty
  · rfl
  · rw [String.toList_ofList]
    exact unescape_flatMap escapeInText content.toList unescape_inText

/-- A value that is written is read as it is. -/
theorem unescape_value (value : String) :
    String.ofList (unescape (value.toList.flatMap escapeInValue)) = value := by
  rw [unescape_flatMap escapeInValue value.toList unescape_inValue, String.ofList_toList]

example :
    let source := "&lt; & \"&amp;lt;\""
    unescape (writeText source).toList = source.toList ∧
      unescape source.toList = "< & \"&lt;\"".toList := by
  decide

/-- The value of an attribute is looked up as it is before it is written. -/
theorem value?_element (name : String) (attributes : Attributes) (children : List Node)
    (label : AttributeName) :
    (Node.element name (attributes.map writtenAttribute) children).value? label.written =
      attributes.lookup label := by
  rw [Node.value?]
  induction attributes with
  | nil => rfl
  | cons pair rest inductionHypothesis =>
    obtain ⟨other, value⟩ := pair
    by_cases same : label = other
    · subst same
      simp [writtenAttribute, unescape_value]
    · have differs : label.written ≠ other.written :=
        fun written => same (AttributeName.written_injective label other written)
      have hidden : (label.written == other.written) = false := beq_false_of_ne differs
      have unlike : (label == other) = false := beq_false_of_ne same
      simpa [writtenAttribute, List.lookup_cons, hidden, unlike] using inductionHypothesis

/-- A node with a value of an attribute has the attribute. -/
theorem carries_of_value? (label value : String) (node : Node)
    (found : (node.value? label == some value) = true) : node.carries label = true := by
  cases node with
  | character character => cases found
  | element name attributes children =>
    have present : (attributes.lookup label).isSome = true := by
      cases looked : attributes.lookup label with
      | none => simp [Node.value?, looked] at found
      | some written => rfl
    rw [List.lookup_isSome_iff] at present
    obtain ⟨pair, member, same⟩ := present
    rw [Node.carries, List.any_eq_true]
    exact ⟨pair, member, by simpa [BEq.comm] using same⟩

/-- The element of a tag with attributes, as it is read. -/
def elementNode (tag : Tag) (attributes : Attributes) (children : List Markup) : Node :=
  .element tag.name (attributes.map writtenAttribute) (Markup.nodesOf children)

/-- The value of an attribute is read as it was before it was escaped. -/
theorem value?_elementNode (tag : Tag) (attributes : Attributes) (children : List Markup)
    (label : AttributeName) :
    (elementNode tag attributes children).value? label.written = attributes.lookup label :=
  value?_element tag.name attributes (Markup.nodesOf children) label

/-- The characters of a text are those that are written. -/
theorem charactersOf_characterNodes (characters : List Char) :
    charactersOf (characterNodes characters) = characters := by
  induction characters with
  | nil => rfl
  | cons character rest inductionHypothesis =>
    exact congrArg (character :: ·) inductionHypothesis

/-- The text of an element that holds one text. -/
theorem text_elementNode (tag : Tag) (attributes : Attributes) (content : String) :
    (elementNode tag attributes [.text content]).text = readable content := by
  have characters : (elementNode tag attributes [.text content]).characters =
      (writeText content).toList := by
    have alone : Markup.nodesOf [.text content] = characterNodes (writeText content).toList :=
      List.append_nil _
    rw [elementNode, Node.characters, alone, charactersOf_characterNodes]
  rw [Node.text, characters, unescape_writeText, String.ofList_toList]

/-- Views that are elements are read one by one. -/
theorem nodesOf_map {α : Type} (view : α → Markup) (node : α → Node) (items : List α)
    (each : ∀ item, (view item).nodes = [node item]) :
    Markup.nodesOf (items.map view) = items.map node := by
  induction items with
  | nil => rfl
  | cons item rest inductionHypothesis =>
    rw [List.map_cons, Markup.nodesOf, each, inductionHypothesis]
    rfl

end CodeReport.Page
