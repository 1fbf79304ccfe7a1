import CodeReport.Page.Tree
import Mathlib.Tactic.SplitIfs

/-!
# A page that is read is the page that was written

Markup is written and read back. The reader finds every element with its
attributes and its content, in its place, and nothing else. What a text or an
attribute value holds makes no difference: an escaped text has no `<`, and an
escaped value has no quote, so neither ends before its end.

A style sheet and a script are written as they are. They must not hold the sign
that a reader stops at.
-/

namespace CodeReport.Page

/-- Reading characters leads from a place to a place and completes some pieces. -/
def Reads (start : Place) (characters : List Char) (finish : Place) (tokens : List Token) : Prop :=
  scan start characters = (finish, tokens)

/-- Reading goes on where it has come to. -/
theorem Reads.append {start middle finish : Place} {characters others : List Char}
    {tokens later : List Token} (first : Reads start characters middle tokens)
    (second : Reads middle others finish later) :
    Reads start (characters ++ others) finish (tokens ++ later) := by
  induction characters generalizing start tokens with
  | nil =>
    obtain ⟨rfl, rfl⟩ := Prod.mk.inj first
    exact second
  | cons character rest inductionHypothesis =>
    simp only [Reads, scan_cons, Prod.mk.injEq] at first
    obtain ⟨reached, completed⟩ := first
    have next : Reads (start.next character).1 rest middle
        (scan (start.next character).1 rest).2 := by
      rw [Reads, ← reached]
    have remaining := inductionHypothesis next
    rw [Reads] at remaining ⊢
    rw [List.cons_append, scan_cons, remaining, ← completed, List.append_assoc]

/-- A character before others. -/
theorem Reads.cons {place middle finish : Place} {character : Char} {rest : List Char}
    {tokens later : List Token} (step : place.next character = (middle, tokens))
    (second : Reads middle rest finish later) :
    Reads place (character :: rest) finish (tokens ++ later) := by
  rw [Reads] at second ⊢
  rw [scan_cons, step, second]

/-- Characters that leave the reader where it is, each with its own pieces. -/
theorem reads_staying (place : Place) (token : Char → Token) (characters : List Char)
    (stays : ∀ character ∈ characters, place.next character = (place, [token character])) :
    Reads place characters place (characters.map token) := by
  induction characters with
  | nil => rfl
  | cons character rest inductionHypothesis =>
    have here := stays character List.mem_cons_self
    have later := inductionHypothesis fun other member =>
      stays other (List.mem_cons_of_mem character member)
    exact Reads.cons here later

/-- Characters that are gathered, with nothing complete before they end. -/
theorem reads_gathering (place : List Char → Place) (gathered characters : List Char)
    (gathers : ∀ before, ∀ character ∈ characters,
      (place before).next character = (place (before ++ [character]), [])) :
    Reads (place gathered) characters (place (gathered ++ characters)) [] := by
  induction characters generalizing gathered with
  | nil => rw [List.append_nil]; rfl
  | cons character rest inductionHypothesis =>
    have here := gathers gathered character List.mem_cons_self
    have later := inductionHypothesis (gathered ++ [character]) fun before other member =>
      gathers before other (List.mem_cons_of_mem character member)
    rw [List.append_assoc] at later
    exact Reads.cons here later

/-- Text without `<` is text. -/
theorem reads_text (characters : List Char) (ordinary : '<' ∉ characters) :
    Reads .text characters .text (characters.map .character) := by
  apply reads_staying
  intro character member
  have differs : character ≠ '<' := fun same => ordinary (same ▸ member)
  exact if_neg differs

/-- Content without `<` is content. -/
theorem reads_verbatim (characters : List Char) (ordinary : '<' ∉ characters) :
    Reads .verbatim characters .verbatim (characters.map .character) := by
  apply reads_staying
  intro character member
  have differs : character ≠ '<' := fun same => ordinary (same ▸ member)
  exact if_neg differs

/-- No character of an escaped text begins a tag. -/
theorem writeText_ordinary (content : String) : '<' ∉ (writeText content).toList := by
  have escaped (character : Char) : '<' ∉ escapeInText character := by
    unfold escapeInText
    split_ifs with isAnd isLess isGreater
    · decide
    · decide
    · decide
    · exact fun member => isLess (List.mem_singleton.mp member).symm
  unfold writeText
  split_ifs
  · decide
  · simpa using fun character _ => escaped character

/-- No character of an escaped value ends it. -/
theorem escapeInValue_ordinary (character : Char) : '"' ∉ escapeInValue character := by
  unfold escapeInValue escapeInText
  split_ifs with isQuote
  · decide
  · decide
  · decide
  · decide
  · exact fun member => isQuote (List.mem_singleton.mp member).symm

/-- A name that a tag can have. -/
def isTagName (name : String) : Bool :=
  match name.toList with
  | [] => false
  | first :: rest => first.isAlpha && rest.all (!endsTagName ·)

/-- A name that an attribute can have. -/
def isAttributeName (name : String) : Bool :=
  name != "" && name.toList.all fun character => !endsTagName character && character != '='

/-- A reader takes the names of tags for names. -/
theorem Tag.isTagName_name (tag : Tag) : isTagName tag.name = true := by
  cases tag <;> rfl

/-- A reader takes the names of style sheets and scripts for names. -/
theorem VerbatimTag.isTagName_name (tag : VerbatimTag) : isTagName tag.name = true := by
  cases tag <;> rfl

/-- A reader takes the names of attributes for names. -/
theorem AttributeName.isAttributeName_written (label : AttributeName) :
    isAttributeName label.written = true := by
  cases label <;> rfl

/-- A name of a tag does not end the tag. -/
theorem tagName_ordinary (name : String) (isName : isTagName name = true) :
    '>' ∉ name.toList := by
  intro member
  unfold isTagName at isName
  split at isName
  next => cases isName
  next first rest characters =>
    obtain ⟨isLetter, continues⟩ := (Bool.and_eq_true _ _).mp isName
    rw [characters] at member
    rcases List.mem_cons.mp member with rfl | later
    · exact absurd isLetter (by decide)
    · exact absurd (List.all_eq_true.mp continues '>' later) (by decide)

/-- A place in a start tag that every character treats as the place behind the tag's last
attribute, or behind its name. -/
def Place.Behind (place : Place) (tag : StartTag) : Prop :=
  ∀ character, endsTagName character = true → place.next character = Place.inTag tag character

/-- Among the attributes of a tag a reader stands behind the last of them. -/
theorem behind_attributes (tag : StartTag) : (Place.attributes tag).Behind tag :=
  fun _ _ => rfl

/-- In the name of a tag a reader stands behind a name without attributes. -/
theorem behind_tagName (name : List Char) :
    (Place.tagName name).Behind ⟨String.ofList name, []⟩ :=
  fun _ ends => if_pos ends

/-- The beginning of a start tag. -/
theorem reads_tagName (name : String) (isName : isTagName name = true) :
    Reads .text ('<' :: name.toList) (.tagName name.toList) [] := by
  unfold isTagName at isName
  split at isName
  next => cases isName
  next first rest characters =>
    obtain ⟨isLetter, continues⟩ := (Bool.and_eq_true _ _).mp isName
    have gathered : Reads (.tagName [first]) rest (.tagName ([first] ++ rest)) [] := by
      apply reads_gathering
      intro before character member
      have goesOn := List.all_eq_true.mp continues character member
      exact if_neg (by simpa using goesOn)
    have begun : Reads .sign (first :: rest) (.tagName (first :: rest)) [] := by
      have letter : Place.sign.next first = (.tagName [first], []) := if_pos isLetter
      exact Reads.cons letter gathered
    rw [characters]
    exact Reads.cons rfl begun

/-- A character within a name of an attribute. -/
theorem next_attributeName (tag : StartTag) (before : List Char) (character : Char)
    (inner : (!endsTagName character && character != '=') = true) :
    (Place.attributeName tag before).next character =
      (.attributeName tag (before ++ [character]), []) := by
  simp only [endsTagName, Bool.and_eq_true, Bool.not_eq_true', Bool.or_eq_false_iff,
    bne_iff_ne] at inner
  obtain ⟨⟨⟨noBlank, noSlash⟩, noEnd⟩, noSign⟩ := inner
  simp [Place.next, endsTagName, noBlank, noSlash, noEnd, noSign]

/-- The first character of a name of an attribute. -/
theorem next_attributes (tag : StartTag) (character : Char)
    (inner : (!endsTagName character && character != '=') = true) :
    (Place.attributes tag).next character = (.attributeName tag [character], []) := by
  simp only [endsTagName, Bool.and_eq_true, Bool.not_eq_true', Bool.or_eq_false_iff,
    bne_iff_ne] at inner
  obtain ⟨⟨⟨noBlank, noSlash⟩, noEnd⟩, noSign⟩ := inner
  simp only [decide_eq_false_iff_not] at noSlash noEnd
  simp [Place.next, Place.inTag, noBlank, noSlash, noEnd]

/-- A name of an attribute. -/
theorem reads_attributeName (tag : StartTag) (name : String)
    (isName : isAttributeName name = true) :
    Reads (.attributes tag) name.toList (.attributeName tag name.toList) [] := by
  obtain ⟨present, inner⟩ := (Bool.and_eq_true _ _).mp isName
  cases characters : name.toList with
  | nil => simp [String.toList_eq_nil_iff.mp characters] at present
  | cons first rest =>
    rw [characters, List.all_cons, Bool.and_eq_true] at inner
    obtain ⟨begins, goesOn⟩ := inner
    have gathered :
        Reads (.attributeName tag [first]) rest (.attributeName tag ([first] ++ rest)) [] := by
      apply reads_gathering
      intro before character member
      exact next_attributeName tag before character (List.all_eq_true.mp goesOn character member)
    exact Reads.cons (next_attributes tag first begins) gathered

/-- A value in quotes, which has no quote of its own. -/
theorem reads_value (tag : StartTag) (name value : List Char) (ordinary : '"' ∉ value) :
    Reads (.attributeName tag name) ('=' :: '"' :: value ++ ['"'])
      (.attributes (tag.add name value)) [] := by
  have gathered :
      Reads (.quoted tag name '"' []) value (.quoted tag name '"' ([] ++ value)) [] := by
    apply reads_gathering
    intro before character member
    have differs : character ≠ '"' := fun same => ordinary (same ▸ member)
    exact if_neg differs
  have ended : Reads (.quoted tag name '"' value) ['"'] (.attributes (tag.add name value)) [] := rfl
  exact Reads.cons rfl (Reads.cons rfl (gathered.append ended))

/-- An attribute, wherever attributes can begin. -/
theorem reads_attribute (place : Place) (tag : StartTag) (behind : place.Behind tag)
    (pair : AttributeName × String) :
    Reads place (writeAttribute pair).toList
      (.attributes { tag with attributes := tag.attributes ++ [writtenAttribute pair] }) [] := by
  have blank : place.next ' ' = (.attributes tag, []) := behind ' ' rfl
  have label := reads_attributeName tag pair.1.written pair.1.isAttributeName_written
  have value := reads_value tag pair.1.written.toList (pair.2.toList.flatMap escapeInValue) (by
    simpa using fun character _ => escapeInValue_ordinary character)
  have whole := Reads.cons blank (label.append value)
  simpa [writeAttribute, writtenAttribute, StartTag.add] using whole

/-- Attributes in a row leave the reader where it can go on with more. -/
theorem reads_attributes (attributes : Attributes) (place : Place) (tag : StartTag)
    (behind : place.Behind tag) :
    ∃ finish, finish.Behind ⟨tag.name, tag.attributes ++ attributes.map writtenAttribute⟩ ∧
      Reads place (writeAttributes attributes).toList finish [] := by
  induction attributes generalizing place tag with
  | nil => exact ⟨place, by simpa using behind, by simp [writeAttributes, Reads, scan]⟩
  | cons pair rest inductionHypothesis =>
    obtain ⟨finish, reached, others⟩ := inductionHypothesis _ _ (behind_attributes
      ⟨tag.name, tag.attributes ++ [writtenAttribute pair]⟩)
    refine ⟨finish, by simpa using reached, ?_⟩
    have both := (reads_attribute place tag behind pair).append others
    simpa [writeAttributes] using both

/-- A start tag with its attributes. -/
theorem reads_startTag (name : String) (attributes : Attributes) (isName : isTagName name = true) :
    Reads .text ("<" ++ name ++ writeAttributes attributes ++ ">").toList
      (Place.behindTag ⟨name, attributes.map writtenAttribute⟩).1
      [.opening name (attributes.map writtenAttribute)] := by
  obtain ⟨finish, reached, read⟩ := reads_attributes attributes _ _ (behind_tagName name.toList)
  have closed : finish.next '>' = Place.behindTag ⟨name, attributes.map writtenAttribute⟩ := by
    simpa [Place.inTag] using reached '>' rfl
  have ended : Reads finish ['>'] _ _ := Reads.cons closed rfl
  have whole := ((reads_tagName name isName).append read).append ended
  simpa [Place.behindTag] using whole

/-- An end tag, behind text or behind content that is no markup. -/
theorem reads_endTag (start : Place) (within : start = .text ∨ start = .verbatim) (name : String)
    (isName : isTagName name = true) :
    Reads start ("</" ++ name ++ ">").toList .text [.closing name] := by
  have gathered : Reads (.closing []) name.toList (.closing ([] ++ name.toList)) [] := by
    apply reads_gathering
    intro before character member
    have differs : character ≠ '>' := fun same => tagName_ordinary name isName (same ▸ member)
    exact if_neg differs
  have ended : Reads (.closing name.toList) ['>'] .text [.closing name] := by
    simp [Reads, scan, Place.next]
  have named := gathered.append ended
  rcases within with rfl | rfl
  · have whole : Reads .text ('<' :: '/' :: (name.toList ++ ['>'])) .text [.closing name] :=
      Reads.cons rfl (Reads.cons rfl named)
    simpa using whole
  · have whole : Reads .verbatim ('<' :: '/' :: (name.toList ++ ['>'])) .text [.closing name] :=
      Reads.cons rfl (Reads.cons rfl named)
    simpa using whole

/-- What a reader goes on with behind a start tag depends on the name. -/
theorem behindTag_ordinary (tag : Tag) (attributes : List (String × String)) :
    (Place.behindTag ⟨tag.name, attributes⟩).1 = .text := by
  cases tag <;> rfl

/-- Behind the start tag of a style sheet or a script a reader looks for its end tag alone. -/
theorem behindTag_verbatim (tag : VerbatimTag) (attributes : List (String × String)) :
    (Place.behindTag ⟨tag.name, attributes⟩).1 = .verbatim := by
  cases tag <;> rfl

/-- The marker is left out. -/
theorem reads_marker : Reads .text "<!>".toList .text [] := rfl

namespace Markup

mutual
/-- Markup is read as the pieces that it is written in. -/
theorem reads_write (piece : Markup)
    (closed : ∀ tag, ∀ content ∈ piece.verbatims tag, '<' ∉ content.toList) :
    Reads .text piece.write.toList .text piece.tokens := by
  match piece with
  | .text content => exact reads_text _ (writeText_ordinary content)
  | .marker => exact reads_marker
  | .element tag attributes children =>
    have started := reads_startTag tag.name attributes tag.isTagName_name
    rw [behindTag_ordinary] at started
    have inner := reads_writeAll false children closed
    have ended := reads_endTag .text (.inl rfl) tag.name tag.isTagName_name
    have whole := (started.append inner).append ended
    simpa [write, tokens] using whole
  | .metadata attributes =>
    have started := reads_startTag "meta" attributes rfl
    have ordinary (others : List (String × String)) :
        (Place.behindTag ⟨"meta", others⟩).1 = .text := rfl
    rw [ordinary] at started
    simpa [write, tokens] using started
  | .verbatim tag content =>
    have started := reads_startTag tag.name [] tag.isTagName_name
    rw [behindTag_verbatim] at started
    have inner := reads_verbatim content.toList (closed tag content (by simp [verbatims]))
    have ended := reads_endTag .verbatim (.inr rfl) tag.name tag.isTagName_name
    have whole := (started.append inner).append ended
    simpa [write, tokens, writeAttributes] using whole

/-- Markup in a row is read as its pieces in a row, with or without a marker before it. -/
theorem reads_writeAll (afterText : Bool) (pieces : List Markup)
    (closed : ∀ tag, ∀ content ∈ verbatimsOf tag pieces, '<' ∉ content.toList) :
    Reads .text (writeAll afterText pieces).toList .text (tokensOf pieces) := by
  match pieces with
  | [] => simp [writeAll, tokensOf, Reads, scan]
  | piece :: rest =>
    simp only [verbatimsOf, List.mem_append] at closed
    have parted :
        Reads .text (if afterText && piece.isText then "<!>" else "").toList .text [] := by
      split_ifs
      · exact reads_marker
      · rfl
    have first := reads_write piece fun tag content member => closed tag content (.inl member)
    have others := reads_writeAll piece.isText rest fun tag content member =>
      closed tag content (.inr member)
    have whole := (parted.append first).append others
    simpa [writeAll, tokensOf] using whole
end

end Markup

/-- Characters become nodes of the innermost open element. -/
theorem grows_characters (characters : List Char) (growth : Growth) :
    (characters.map Token.character).foldlM Growth.next? growth =
      some (growth.add (characterNodes characters)) := by
  induction characters generalizing growth with
  | nil => simp [characterNodes, Growth.add]
  | cons character rest inductionHypothesis =>
    have others := inductionHypothesis (growth.add [.character character])
    rw [List.map_cons, List.foldlM_cons]
    simpa [characterNodes, Growth.add, Growth.next?] using others

/-- What stands between a start tag and the end tag of the same name becomes one element. -/
theorem grows_enclosed (name : String) (attributes : List (String × String)) (tokens : List Token)
    (content : List Node) (growth : Growth) (ordinary : name ≠ "meta")
    (inner : ∀ around, tokens.foldlM Growth.next? around = some (around.add content)) :
    (Token.opening name attributes :: tokens ++ [Token.closing name]).foldlM Growth.next? growth =
      some (growth.add [.element name attributes content]) := by
  have opened : growth.next? (.opening name attributes) =
      some ⟨[], ⟨⟨name, attributes⟩, growth.nodes⟩ :: growth.unclosed⟩ := if_neg ordinary
  have closed (nodes : List Node) :
      Growth.next? ⟨nodes, ⟨⟨name, attributes⟩, growth.nodes⟩ :: growth.unclosed⟩ (.closing name) =
        some (growth.add [.element name attributes nodes]) := if_pos rfl
  rw [List.cons_append, List.foldlM_cons, opened]
  simp only [Option.bind_eq_bind, Option.bind_some, List.foldlM_append, inner, List.foldlM_cons,
    List.foldlM_nil, bind_pure]
  exact closed _

/-- Only one element has no end tag. -/
theorem Tag.name_ne_meta (tag : Tag) : tag.name ≠ "meta" := by
  cases tag <;> decide

/-- Style sheets and scripts have end tags. -/
theorem VerbatimTag.name_ne_meta (tag : VerbatimTag) : tag.name ≠ "meta" := by
  cases tag <;> decide

namespace Markup

mutual
/-- The pieces of markup grow into its nodes, which are put behind those that are there. -/
theorem grows_tokens (piece : Markup) (growth : Growth) :
    piece.tokens.foldlM Growth.next? growth = some (growth.add piece.nodes) := by
  match piece with
  | .text content => exact grows_characters _ growth
  | .marker => simp [tokens, nodes, Growth.add]
  | .element tag attributes children =>
    exact grows_enclosed tag.name _ _ _ growth tag.name_ne_meta (grows_tokensOf children)
  | .metadata attributes => simp [tokens, nodes, Growth.next?]
  | .verbatim tag content =>
    exact grows_enclosed tag.name _ _ _ growth tag.name_ne_meta (grows_characters content.toList)

/-- The pieces of markup in a row grow into its nodes in a row. -/
theorem grows_tokensOf (pieces : List Markup) (growth : Growth) :
    (tokensOf pieces).foldlM Growth.next? growth = some (growth.add (nodesOf pieces)) := by
  match pieces with
  | [] => simp [tokensOf, nodesOf, Growth.add]
  | piece :: rest =>
    rw [tokensOf, List.foldlM_append, grows_tokens piece growth]
    have others := grows_tokensOf rest (growth.add piece.nodes)
    simpa [nodesOf, Growth.add] using others
end

end Markup

/-- A page that is read and grown is a tree. -/
theorem readPage?_of_reads (page : String) (tokens : List Token) (nodes : List Node)
    (reads : Reads .text page.toList .text tokens)
    (grows : tokens.foldlM Growth.next? .empty = some ⟨nodes, []⟩) :
    readPage? page = some nodes := by
  have complete : scan .text page.toList = (.text, tokens) := reads
  simp [readPage?, complete, grows]

/-- Markup that is written is read back, whatever its texts and attribute values hold. -/
theorem readPage?_write (piece : Markup)
    (closed : ∀ tag, ∀ content ∈ piece.verbatims tag, '<' ∉ content.toList) :
    readPage? piece.write = some piece.nodes := by
  refine readPage?_of_reads _ _ _ (piece.reads_write closed) ?_
  rw [piece.grows_tokens]
  rfl

/-- Behind the declaration of the document, markup is read back as it is elsewhere. -/
theorem readPage?_declared (piece : Markup)
    (closed : ∀ tag, ∀ content ∈ piece.verbatims tag, '<' ∉ content.toList) :
    readPage? ("<!DOCTYPE html>\n" ++ piece.write) = some (.character '\n' :: piece.nodes) := by
  have declared : Reads .text "<!DOCTYPE html>\n".toList .text [.character '\n'] := rfl
  have written := declared.append (piece.reads_write closed)
  refine readPage?_of_reads _ (.character '\n' :: piece.tokens) _ ?_ ?_
  · rw [String.toList_append]
    exact written
  · have first : Growth.empty.next? (.character '\n') = some ⟨[.character '\n'], []⟩ := rfl
    rw [List.foldlM_cons, first]
    exact piece.grows_tokens ⟨[.character '\n'], []⟩

end CodeReport.Page
