import CodeReport.Proofs.Keys.Distinct
import CodeReport.Proofs.Page.Parts
import CodeReport.Proofs.Page.Unescaped
import Mathlib.Data.List.Forall2
import Mathlib.Data.List.Nodup

/-!
# Buttons open and close their own cards

The script of a page looks for the part that a button opens by the key that the
button carries, and takes the first one in the page. Here the page is read back
and the same search is made: it leads from every button into its own card.

Nothing else in a page carries the attributes that are looked at, whatever the
texts of a report say. That the first part found is the right one rests on keys
being different, and hence holds of reports that are made from answers.
-/

namespace CodeReport

namespace Section.Key

/-- The characters of keys. None of them has a meaning in a quoted selector. -/
def alphabet : List Char := 's' :: '-' :: hexDigits

/-- The digits of numbers are hexadecimal digits. -/
theorem isDigit_mem (character : Char) (digit : character.isDigit = true) :
    character ∈ hexDigits := by
  have bounds : 48 ≤ character.toNat ∧ character.toNat ≤ 57 := by
    simpa [Char.isDigit, UInt32.le_iff_toNat_le] using digit
  have digits : ∀ place : Fin 10, Char.ofNat (48 + place) ∈ hexDigits := by decide
  have found := digits ⟨character.toNat - 48, by omega⟩
  have same : 48 + (character.toNat - 48) = character.toNat := by omega
  rwa [same, Char.ofNat_toNat] at found

/-- A base key is written in the alphabet, and so is the number behind it. -/
theorem withOccurrence_alphabet (key : Key) (isBase : key.IsBase) (occurrence : Nat) :
    ∀ character ∈ (key.withOccurrence occurrence).text.toList, character ∈ alphabet := by
  intro character member
  obtain ⟨digits, text, hexadecimal⟩ := isBase
  rw [withOccurrence_text, String.toList_append, text, List.mem_append] at member
  rcases member with base | number
  · rcases List.mem_cons.mp base with rfl | base
    · decide
    · rcases List.mem_cons.mp base with rfl | digit
      · decide
      · exact List.mem_cons_of_mem _ (List.mem_cons_of_mem _ (hexadecimal character digit))
  · split_ifs at number with many
    · rw [String.toList_append, List.mem_append] at number
      rcases number with hyphen | digit
      · rw [List.mem_singleton.mp hyphen]
        decide
      · have decimal := Nat.isDigit_of_mem_toDigits (by decide) (by decide)
          (Nat.toList_repr ▸ digit)
        exact List.mem_cons_of_mem _ (List.mem_cons_of_mem _ (isDigit_mem character decimal))
    · cases number

end Section.Key

/-- Every key of a report that is made from an answer is written in the alphabet. -/
theorem Report.keys_alphabet (answer : Answer) (mode : Mode) :
    ∀ key ∈ (Report.ofAnswer answer mode).keys, ∀ character ∈ key.text.toList,
      character ∈ Section.Key.alphabet := by
  intro key member
  obtain ⟨base, occurrence, isBase, _, rfl⟩ :=
    Section.mem_keys_numberKeysAfter Digest.sha256 [] _ key member
  exact base.withOccurrence_alphabet isBase occurrence

namespace Page

open Markup

/-- The first element with a value of an attribute. -/
def firstWith (label value : String) (nodes : List Node) : Option Node :=
  (elementsOf nodes).find? fun node => node.value? label == some value

/-- The first element with a value is looked for among those with the attribute. -/
theorem firstWith_marked (label value : String) (nodes : List Node) :
    firstWith label value nodes =
      (marked label nodes).find? fun node => node.value? label == some value := by
  rw [marked, List.find?_filter, firstWith]
  congr 1
  funext node
  cases found : node.value? label == some value with
  | false => simp
  | true => simp [carries_of_value? label value node found]

/-- Of items with different keys the first one with a key is the only one. -/
theorem find?_distinct {α β : Type} [DecidableEq β] (key : α → β) (items : List α)
    (distinct : (items.map key).Nodup) (item : α) (member : item ∈ items) :
    items.find? (fun other => key other == key item) = some item := by
  induction items with
  | nil => cases member
  | cons first rest inductionHypothesis =>
    rw [List.map_cons, List.nodup_cons] at distinct
    rcases List.mem_cons.mp member with rfl | later
    · simp
    · have differs : key first ≠ key item := by
        intro same
        exact distinct.1 (same ▸ List.mem_map_of_mem later)
      rw [List.find?_cons_of_neg (by simpa using differs)]
      exact inductionHypothesis distinct.2 later

/-- A page as it is read. -/
def documentNodes (report : Report) (openness : Openness) : List Node :=
  .character '\n' :: (page report openness).nodes

section Marks

variable {label : AttributeName} {mark : label.isMark = true}

/-- The search for a mark looks at the names of attributes. -/
theorem ofMark_wanted (name : String) (attributes : Attributes) :
    (MarkSearch.ofMark label mark).wanted name attributes = bears label name attributes :=
  rfl

/-- Only the mark of notices is found in bodies. -/
theorem picked_bodyView_other (other : label ≠ .dataExpected) (body : Section.Body) :
    (bodyView body).picked (MarkSearch.ofMark label mark).wanted = [] := by
  rw [bodyView_notice]
  cases body.notice? with
  | none => exact picked_shownView body
  | some shown =>
    have foreign : (AttributeName.dataExpected == label) = false := beq_false_of_ne other.symm
    have plain : (AttributeName.classes == label) = false := by
      apply beq_false_of_ne
      rintro rfl
      cases mark
    simp [noticeView, notice, ofMark_wanted, bears, foreign, plain]

/-- In a card, a mark is found at the card itself, at its button or at the part that the button
opens and closes. -/
theorem picked_card_mark (mark : label.isMark = true) (other : label ≠ .dataExpected)
    (block : Section) (place : Nat) (isOpen : Bool) :
    (card block place isOpen).picked (bears label) =
      (if bears label "section" (cardAttributes block place) then
        [card block place isOpen] else []) ++
      ((if bears label "button" (toggleAttributes block isOpen) then
        [toggleView block isOpen] else []) ++
      (if bears label "div" (contentAttributes block isOpen) then
        [contentView block isOpen] else [])) := by
  change (card block place isOpen).picked (MarkSearch.ofMark label mark).wanted = _
  have pieces : pickedOf (MarkSearch.ofMark label mark).wanted (contentPieces block) = [] := by
    simp [contentPieces, picked_bodyView_other other]
  have button : pickedOf (MarkSearch.ofMark label mark).wanted (togglePieces block) = [] := by
    simp [togglePieces]
  have toggle : (toggleView block isOpen).picked (MarkSearch.ofMark label mark).wanted =
      if bears label "button" (toggleAttributes block isOpen) then
        [toggleView block isOpen] else [] := by
    rw [toggleView, picked, button, List.append_nil]
    rfl
  have content : (contentView block isOpen).picked (MarkSearch.ofMark label mark).wanted =
      if bears label "div" (contentAttributes block isOpen) then
        [contentView block isOpen] else [] := by
    rw [contentView, picked, pieces, List.append_nil]
    rfl
  have badges : (ofOption (block.severity.map badge)).picked
      (MarkSearch.ofMark label mark).wanted = [] :=
    picked_ofOption badge block.severity (by simp)
  rw [card_divided, picked]
  simp only [pickedOf, picked_classed, toggle, content, badges, List.append_nil]
  rfl

/-- A part that every card has once, and that is found by a mark. -/
structure CardPart (label : AttributeName) where
  mark : label.isMark = true
  tag : Tag
  attributes : Section → Nat → Bool → Attributes
  children : Section → Bool → List Markup
  /-- The mark is found in a card where the part is, and nowhere else. -/
  single : ∀ block place isOpen,
    (card block place isOpen).picked (bears label) =
      [.element tag (attributes block place isOpen) (children block isOpen)]

namespace CardPart

/-- A part of a card, as it is read. -/
def node (part : CardPart label) (block : Section) (place : Nat) (isOpen : Bool) : Node :=
  elementNode part.tag (part.attributes block place isOpen) (part.children block isOpen)

/-- In a card that is read the mark leads to the one part. -/
theorem marked_card (part : CardPart label) (block : Section) (place : Nat) (isOpen : Bool) :
    marked label.written (card block place isOpen).nodes = [part.node block place isOpen] := by
  have found : marked label.written (card block place isOpen).nodes =
      nodesOf ((card block place isOpen).picked (bears label)) :=
    filter_nodes (seeks_carries label) (card block place isOpen)
  rw [found, part.single]
  rfl

/-- In a page that is read the mark leads to the parts of its cards, in order. -/
theorem marked_document (part : CardPart label) (report : Report) (openness : Openness) :
    marked label.written (documentNodes report openness) =
      report.sections.zipIdx.map fun numbered =>
        part.node numbered.1 numbered.2 (openness.isOpen numbered.1.key) := by
  have found : marked label.written (documentNodes report openness) =
      nodesOf ((page report openness).picked (bears label)) :=
    filter_nodes (seeks_carries label) (page report openness)
  have within : (page report openness).picked (bears label) =
      pickedOf (bears label) (cards report.sections openness) :=
    @picked_page (.ofMark label part.mark) report openness
  have cardwise : pickedOf (bears label) (cards report.sections openness) =
      report.sections.zipIdx.map fun numbered =>
        .element part.tag
          (part.attributes numbered.1 numbered.2 (openness.isOpen numbered.1.key))
          (part.children numbered.1 (openness.isOpen numbered.1.key)) := by
    rw [cards, pickedOf_map]
    simp only [part.single]
    exact List.map_eq_flatMap.symm
  rw [found, within, cardwise]
  exact nodesOf_map _ _ _ fun numbered => rfl

/-- The values of the mark in a page, card by card. -/
theorem values_document (part : CardPart label) (report : Report) (openness : Openness)
    (value : Section → Nat → String)
    (valued : ∀ block place isOpen,
      (part.attributes block place isOpen).lookup label = some (value block place)) :
    (marked label.written (documentNodes report openness)).map (Node.value? label.written) =
      report.sections.zipIdx.map fun numbered => some (value numbered.1 numbered.2) := by
  rw [part.marked_document, List.map_map]
  refine List.map_congr_left fun numbered _ => ?_
  exact (value?_elementNode part.tag _ _ label).trans (valued _ _ _)

/-- A mark whose values are the keys of the sections. -/
theorem keys_document (part : CardPart label) (report : Report) (openness : Openness)
    (keyed : ∀ block place isOpen,
      (part.attributes block place isOpen).lookup label = some block.key.text) :
    (marked label.written (documentNodes report openness)).map (Node.value? label.written) =
      report.keys.map fun key => some key.text := by
  rw [part.values_document report openness (fun block _ => block.key.text) keyed, Report.keys,
    List.map_map]
  conv_rhs => rw [← List.zipIdx_map_fst 0 report.sections, List.map_map]
  rfl

end CardPart

end Marks

/-- Cards, by the attribute that holds their keys. -/
def keyedCard : CardPart .dataSectionKey where
  mark := rfl
  tag := .sectioning
  attributes block place _ := cardAttributes block place
  children block isOpen := [
    classed .header "section-header" [toggleView block isOpen, ofOption (block.severity.map badge)],
    contentView block isOpen]
  single := by
    intro block place isOpen
    rw [picked_card_mark rfl (by decide)]
    rfl

/-- Cards, by the attribute that holds their anchors. -/
def anchoredCard : CardPart .id where
  mark := rfl
  tag := .sectioning
  attributes block place _ := cardAttributes block place
  children := keyedCard.children
  single := by
    intro block place isOpen
    rw [picked_card_mark rfl (by decide)]
    rfl

/-- The buttons of cards. -/
def cardButton : CardPart .dataToggle where
  mark := rfl
  tag := .button
  attributes block _ isOpen := toggleAttributes block isOpen
  children block _ := togglePieces block
  single := by
    intro block place isOpen
    rw [picked_card_mark rfl (by decide)]
    rfl

/-- The parts of cards that are opened and closed. -/
def cardContent : CardPart .dataSectionBody where
  mark := rfl
  tag := .div
  attributes block _ isOpen := contentAttributes block isOpen
  children block _ := contentPieces block
  single := by
    intro block place isOpen
    rw [picked_card_mark rfl (by decide)]
    rfl

/-- A card with a button and a part that the button opens and closes. The first part in the page
with the key that the button carries is the one in the card of the button. -/
structure Wired (nodes : List Node) (key : String) (isOpen : Bool) (card button content : Node) :
    Prop where
  card_key : card.value? "data-section-key" = some key
  own_button : marked "data-toggle" [card] = [button]
  own_content : marked "data-section-body" [card] = [content]
  button_key : button.value? "data-toggle" = some key
  content_found : firstWith "data-section-body" key nodes = some content
  /-- What the button says, what the class of the part says and what is asked for are the same. -/
  expanded : button.value? "aria-expanded" = some (if isOpen then "true" else "false")
  collapsed : content.hasClass "collapsed" = !isOpen

/-- If keys are different, the first part with the key of a section is that of its card. -/
theorem firstWith_content (report : Report) (openness : Openness)
    (distinct : report.keys.Nodup) (block : Section) (place : Nat)
    (member : (block, place) ∈ report.sections.zipIdx) :
    firstWith "data-section-body" block.key.text (documentNodes report openness) =
      some (cardContent.node block place (openness.isOpen block.key)) := by
  have texts : (report.sections.zipIdx.map fun numbered => numbered.1.key).Nodup := by
    have keys : (report.sections.zipIdx.map Prod.fst).map Section.key = report.keys := by
      rw [List.zipIdx_map_fst, Report.keys]
    rwa [← keys, List.map_map] at distinct
  have same (other : Section × Nat) :
      ((cardContent.node other.1 other.2 (openness.isOpen other.1.key)).value?
        "data-section-body" == some block.key.text) = (other.1.key == block.key) := by
    have value : (cardContent.node other.1 other.2 (openness.isOpen other.1.key)).value?
        "data-section-body" = some other.1.key.text :=
      value?_elementNode _ _ _ .dataSectionBody
    rw [value, Bool.eq_iff_iff, beq_iff_eq, beq_iff_eq, Option.some.injEq]
    exact (Section.Key.mk.injEq _ _).symm.to_iff
  have parts : marked "data-section-body" (documentNodes report openness) = _ :=
    cardContent.marked_document report openness
  -- The search goes through the parts of all cards, and no other part has the key of this one.
  rw [firstWith_marked, parts, List.find?_map]
  have found := find?_distinct (fun numbered : Section × Nat => numbered.1.key)
    report.sections.zipIdx texts (block, place) member
  simp only [Function.comp_def, same, found, Option.map_some]

/-- The card of each section is wired, if keys are different. -/
theorem wired_card (report : Report) (openness : Openness) (distinct : report.keys.Nodup)
    (block : Section) (place : Nat) (member : (block, place) ∈ report.sections.zipIdx) :
    let isOpen := openness.isOpen block.key
    Wired (documentNodes report openness) block.key.text isOpen
      (keyedCard.node block place isOpen) (cardButton.node block place isOpen)
      (cardContent.node block place isOpen) where
  card_key := value?_elementNode _ _ _ .dataSectionKey
  own_button := cardButton.marked_card block place _
  own_content := cardContent.marked_card block place _
  button_key := value?_elementNode _ _ _ .dataToggle
  content_found := firstWith_content report openness distinct block place member
  expanded := value?_elementNode _ _ _ .ariaExpanded
  collapsed := by
    have classes : (cardContent.node block place (openness.isOpen block.key)).value? "class" =
        some (contentClass (openness.isOpen block.key)) :=
      value?_elementNode _ _ _ .classes
    rw [Node.hasClass, classes]
    cases openness.isOpen block.key <;> decide

/-- The cards of a page are wired in the order of their sections, if keys are different. -/
theorem wired_document (report : Report) (openness : Openness) (distinct : report.keys.Nodup) :
    List.Forall₂ (fun block card => ∃ button content,
        Wired (documentNodes report openness) block.key.text (openness.isOpen block.key) card
          button content)
      report.sections (marked "data-section-key" (documentNodes report openness)) := by
  have inOrder : marked "data-section-key" (documentNodes report openness) = _ :=
    keyedCard.marked_document report openness
  have blocks : report.sections = report.sections.zipIdx.map Prod.fst :=
    (List.zipIdx_map_fst 0 report.sections).symm
  rw [inOrder, List.forall₂_map_right_iff]
  nth_rewrite 1 [blocks]
  rw [List.forall₂_map_left_iff, List.forall₂_same]
  rintro ⟨block, place⟩ member
  exact ⟨_, _, wired_card report openness distinct block place member⟩

/-- Anchors are told apart by their numbers. -/
theorem nodup_anchors (count : Nat) :
    ((List.range count).map fun place => some s!"section-{place + 1}").Nodup := by
  refine List.Nodup.map ?_ List.nodup_range
  intro left right same
  have written : "section-" ++ toString (left + 1) = "section-" ++ toString (right + 1) := by
    simpa using same
  have digits := congrArg String.toList written
  rw [String.toList_append, String.toList_append, List.append_cancel_left_eq] at digits
  have numbers := Section.Key.toDigits_injective (left + 1) (right + 1) (by simpa using digits)
  omega

/-- The anchors of a page count its cards. -/
theorem anchors_document (report : Report) (openness : Openness) :
    (marked "id" (documentNodes report openness)).map (Node.value? "id") =
      (List.range report.sections.length).map fun place => some s!"section-{place + 1}" := by
  have numbered : (marked "id" (documentNodes report openness)).map (Node.value? "id") =
      report.sections.zipIdx.map fun numbered => some s!"section-{numbered.2 + 1}" :=
    anchoredCard.values_document report openness (fun _ place => s!"section-{place + 1}")
      fun _ _ _ => rfl
  rw [numbered, List.range_eq_range', ← List.zipIdx_map_snd, List.map_map]
  rfl

end Page

open Page in
/-- The page of every report that is made from an answer is wired, whatever the texts of the answer
are and whatever is open. The cards, their buttons and the parts that the buttons open and close are
equally many, one of each for every section in order, and carry the keys of the sections. The keys
are different and need no escape in a quoted selector; the anchors are numbered and different.

Proof: the marks of a page are those of its cards, and each card has every mark once. Values are
read as they were written. The first part with a key is hence the part of the first section with
that key, and there is only one such section. -/
theorem toggles_wired (answer : Answer) (mode : Mode) (openness : Openness) :
    let report := Report.ofAnswer answer mode
    ∃ nodes, readPage? (document report openness) = some nodes ∧
      ((∀ mark ∈ ["data-section-key", "data-toggle", "data-section-body"],
          (marked mark nodes).map (Node.value? mark) = report.keys.map fun key => some key.text) ∧
        (report.keys.map Section.Key.text).Nodup ∧
        ∀ key ∈ report.keys, ∀ character ∈ key.text.toList,
          character ∈ Section.Key.alphabet) ∧
      ((marked "id" nodes).map (Node.value? "id") =
          (List.range report.sections.length).map (fun place => some s!"section-{place + 1}") ∧
        ((marked "id" nodes).map (Node.value? "id")).Nodup) ∧
      List.Forall₂ (fun block card => ∃ button content,
          Wired nodes block.key.text (openness.isOpen block.key) card button content)
        report.sections (marked "data-section-key" nodes) := by
  intro report
  have distinct : report.keys.Nodup := Report.nodup_keys answer mode
  refine ⟨documentNodes report openness, readPage?_document report openness,
    ⟨?_, ?_, Report.keys_alphabet answer mode⟩,
    ⟨anchors_document report openness, ?_⟩, wired_document report openness distinct⟩
  · intro mark member
    rcases List.mem_cons.mp member with rfl | member
    · exact keyedCard.keys_document report openness fun _ _ _ => rfl
    rcases List.mem_cons.mp member with rfl | member
    · exact cardButton.keys_document report openness fun _ _ _ => rfl
    rw [List.mem_singleton.mp member]
    exact cardContent.keys_document report openness fun _ _ _ => rfl
  · refine distinct.map ?_
    intro left right same
    exact (Section.Key.mk.injEq _ _).mpr same
  · rw [anchors_document]
    exact nodup_anchors report.sections.length

end CodeReport
