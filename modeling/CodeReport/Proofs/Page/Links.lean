import CodeReport.Proofs.Page.Content
import CodeReport.Proofs.Page.Kinds
import CodeReport.Proofs.Text.Letters

/-!
# References become links only if they lead to the web

The links of a page are looked up in what is read back from it, by the name of
their element and by their address. Both ways find the references that begin
with one of the two schemes of the web, and nothing else: no other text of a
report, whatever it looks like, becomes a link or an address. Every other
reference is shown as text in its place between the links.

The scheme is compared behind the blank characters at the start of a reference,
but the address and the label are the whole reference with them.
-/

namespace CodeReport

/-- A text that begins, behind blank characters, with one of the two schemes of the web, whatever
the case of its letters. -/
def IsWebAddress (reference : String) : Prop :=
  ∃ scheme ∈ ["http://", "https://"], ∃ blanks front rest,
    reference.toList = blanks ++ front ++ rest ∧ (∀ c ∈ blanks, Text.isBlank c = true) ∧
    List.Forall₂ Text.SameLetter scheme.toList front

/-- The first letter of a scheme is not blank in either case. -/
theorem Text.not_blank_of_h (c : Char) (same : SameLetter 'h' c) : isBlank c = false := by
  have numbers : c.toNat = 104 ∨ c.toNat = 72 := by
    rcases same with rfl | ⟨upper, -⟩ | ⟨-, differs⟩
    · exact .inl rfl
    · cases upper
    · have h : 'h'.toNat = 104 := rfl
      omega
  rcases numbers with small | capital
  · simp [isBlank, small]
  · simp [isBlank, capital]

namespace Page

/-- The test for links decides whether a reference leads to the web. -/
theorem isWebLink_iff (reference : String) :
    isWebLink reference = true ↔ IsWebAddress reference := by
  have begins (scheme : String) :
      Text.startsWithLetters scheme.toList (Text.dropBlankStart reference.toList) = true ↔
        ∃ front rest, Text.dropBlankStart reference.toList = front ++ rest ∧
          List.Forall₂ Text.SameLetter scheme.toList front :=
    Text.startsWithLetters_iff _ _
  rw [isWebLink, List.any_eq_true, IsWebAddress]
  constructor
  · rintro ⟨scheme, isScheme, found⟩
    obtain ⟨front, rest, behind, same⟩ := (begins scheme).mp found
    refine ⟨scheme, isScheme, reference.toList.takeWhile Text.isBlank, front, rest, ?_, ?_, same⟩
    · rw [List.append_assoc, ← behind]
      exact List.takeWhile_append_dropWhile.symm
    · intro c member
      exact List.all_eq_true.mp List.all_takeWhile c member
  · rintro ⟨scheme, isScheme, blanks, front, rest, whole, blank, same⟩
    refine ⟨scheme, isScheme, (begins scheme).mpr ⟨front, rest, ?_, same⟩⟩
    -- Dropping blank characters stops at the scheme, since its first letter is none.
    have first : ∃ others, scheme.toList = 'h' :: others := by
      rcases List.mem_cons.mp isScheme with rfl | later
      · exact ⟨_, rfl⟩
      · obtain rfl := List.mem_singleton.mp later
        exact ⟨_, rfl⟩
    obtain ⟨others, isScheme⟩ := first
    rw [isScheme] at same
    obtain ⟨c, letters, alike, -, rfl⟩ := List.forall₂_cons_left_iff.mp same
    rw [Text.dropBlankStart, whole, List.append_assoc, List.dropWhile_append_of_pos blank,
      List.cons_append, List.dropWhile_cons, Text.not_blank_of_h c alike]
    rfl

instance : DecidablePred IsWebAddress :=
  fun reference => decidable_of_iff _ (isWebLink_iff reference)

/-- The octets behind the blank characters decide too: they must be whole characters, and the
letters of a scheme. -/
theorem isWebAddress_octets (reference : String) :
    IsWebAddress reference ↔ ∃ scheme ∈ ["http://", "https://"], ∃ front,
      Text.frontOfOctets? scheme.length (Text.dropBlankStart reference.toList) = some front ∧
        List.Forall₂ Text.SameLetter scheme.toList front := by
  have single : ∀ scheme ∈ ["http://", "https://"], ∀ c ∈ scheme.toList, c.utf8Size = 1 := by
    have all : (["http://", "https://"].all fun scheme =>
        scheme.toList.all fun c => c.utf8Size == 1) = true := by decide
    simpa only [List.all_eq_true, beq_iff_eq] using all
  rw [← isWebLink_iff, isWebLink, List.any_eq_true]
  refine exists_congr fun scheme => and_congr_right fun isScheme => ?_
  rw [← String.length_toList]
  exact Text.startsWithLetters_octets _ _ (single scheme isScheme)

/-- The last reference has a character of two octets where the scheme ends. -/
example : IsWebAddress "\u00a0 HTTPS://a" ∧ ¬ IsWebAddress "javascript:alert(1)" ∧
    ¬ IsWebAddress "http" ∧ ¬ IsWebAddress "http:/é" := by
  decide

/-- The links of a page, in order: where they lead, and what they show. -/
def links (nodes : List Node) : List (Option String × String) :=
  ((elementsOf nodes).filter (Node.isNamed "a")).map fun link => (link.value? "href", link.text)

/-- The addresses in a page, whatever element they stand in. -/
def addresses (nodes : List Node) : List String :=
  (elementsOf nodes).filterMap (Node.value? "href")

/-- How a reference is shown. -/
structure ShownReference where
  addresses : List String
  text : String
  isPlain : Bool
  deriving Repr, DecidableEq

/-- What is read in an item of a list of references. -/
def ShownReference.read (item : Node) : ShownReference where
  addresses := item.elements.filterMap (Node.value? "href")
  text := item.text
  isPlain := item.hasClass "reference-text"

/-- A reference that leads to the web is shown as a link, any other one as text. -/
def ShownReference.of (reference : String) : ShownReference :=
  if IsWebAddress reference then ⟨[reference], reference, false⟩
  else ⟨[], readable reference, true⟩

/-- Whether a node is a list of references. -/
def Node.isReferenceList (node : Node) : Bool :=
  node.isNamed "ul" && node.hasClass "reference-list"

/-- The references that a page shows, list by list. -/
def referenceLists (nodes : List Node) : List (List ShownReference) :=
  ((elementsOf nodes).filter Node.isReferenceList).map fun list =>
    (list.named "li").map ShownReference.read

end Page

/-- The references of all sections, in order. -/
def Report.references (report : Report) : List String :=
  report.sections.flatMap fun block => block.rationale.references

namespace Page

open Markup

/-- The kinds of all elements but those of references. -/
def otherKinds : List ElementKind :=
  frameKinds ++ cardKinds ++ bodyKinds ++ chartKinds ++ stepKinds ++ noteKinds

/-- Items that are found one by one are those that are chosen. -/
theorem flatMap_chosen {α β : Type} (chosen : α → Bool) (view : α → β) (items : List α) :
    (items.flatMap fun item => if chosen item then [view item] else []) =
      (items.filter chosen).map view := by
  induction items with
  | nil => rfl
  | cons item rest inductionHypothesis =>
    rw [List.flatMap_cons, inductionHypothesis, List.filter_cons]
    split
    · rfl
    · rfl

section Searches

variable {sought : ElementKind → Bool}

/-- A search that spares everything else finds the references of the sections, in order. -/
theorem picked_page_references (spared : ∀ kind ∈ otherKinds, sought kind = false)
    (report : Report) (openness : Openness) :
    (page report openness).picked (ofKind sought) =
      report.sections.flatMap fun block =>
        (referencesView block.rationale.references).picked (ofKind sought) := by
  -- One list for each component beside the references.
  simp only [otherKinds, List.forall_mem_append] at spared
  obtain ⟨⟨⟨⟨⟨frame, card⟩, body⟩, chart⟩, steps⟩, notes⟩ := spared
  rw [picked_page_contents (List.forall_mem_append.mpr ⟨frame, card⟩)]
  congr 1
  funext block
  rw [contentPieces, pickedOf, picked_made (kinds_bodyView _) body, pickedOf,
    picked_made (kinds_chart _) chart, pickedOf, picked_made (kinds_stepsView _) steps, pickedOf,
    picked_references notes]
  exact List.append_nil _

/-- What is found in a page that is read, if everything but references is spared. -/
theorem filter_page (sees : Node → Bool) (seeks : Seeks sees (ofKind sought))
    (spared : ∀ kind ∈ otherKinds, sought kind = false) (report : Report) (openness : Openness) :
    (elementsOf (.character '\n' :: (page report openness).nodes)).filter sees =
      nodesOf (report.sections.flatMap fun block =>
        (referencesView block.rationale.references).picked (ofKind sought)) := by
  rw [← picked_page_references spared]
  exact filter_nodes seeks (page report openness)

end Searches

/-- The attributes of a link. -/
def linkAttributes (reference : String) : Attributes :=
  [(.href, reference), (.target, "_blank"), (.rel, "noopener noreferrer")]

/-- The link of a reference. -/
def linkView (reference : String) : Markup :=
  .element .a (linkAttributes reference) [.text reference]

/-- Searches that find the links in a list of references, and nothing else there. -/
structure FindsLinks (sought : ElementKind → Bool) : Prop where
  link : sought ⟨"a", [.href, .target, .rel], none⟩ = true
  list : sought ⟨"ul", [.classes], some "reference-list"⟩ = false
  item : sought ⟨"li", [], none⟩ = false
  plainItem : sought ⟨"li", [.classes], some "reference-text"⟩ = false

namespace FindsLinks

variable {sought : ElementKind → Bool}

/-- In the item of a reference its link is found, if it is shown as one. -/
theorem picked_referenceView (finds : FindsLinks sought) (reference : String) :
    (referenceView reference).picked (ofKind sought) =
      if isWebLink reference then [linkView reference] else [] := by
  unfold referenceView
  split
  · rw [plain, picked_within _ _ _ finds.item]
    have isLink : ofKind sought Tag.a.name (linkAttributes reference) = true := finds.link
    have alone : (linkView reference).picked (ofKind sought) = [linkView reference] := by
      rw [linkView, picked, isLink]
      rfl
    rw [← linkAttributes, ← linkView, pickedOf, alone]
    rfl
  · rw [classed, picked_within _ _ _ finds.plainItem]
    rfl

/-- In a list of references the links are found, in order. -/
theorem picked_referencesView (finds : FindsLinks sought) (references : List String) :
    (referencesView references).picked (ofKind sought) =
      (references.filter isWebLink).map linkView := by
  have items : pickedOf (ofKind sought) (references.map referenceView) =
      (references.filter isWebLink).map linkView := by
    rw [pickedOf_map]
    simp only [finds.picked_referenceView]
    exact flatMap_chosen isWebLink linkView references
  unfold referencesView
  split
  · rename_i none
    rw [List.isEmpty_iff.mp none]
    rfl
  · rw [referenceList, classed, picked_within _ _ _ finds.list, pickedOf_listed, items]

/-- In a page the links of all sections are found, in order. -/
theorem filter_page_links (finds : FindsLinks sought)
    (spared : ∀ kind ∈ otherKinds, sought kind = false) (sees : Node → Bool)
    (seeks : Seeks sees (ofKind sought)) (report : Report) (openness : Openness) :
    (elementsOf (.character '\n' :: (page report openness).nodes)).filter sees =
      (report.references.filter isWebLink).map fun reference =>
        elementNode .a (linkAttributes reference) [.text reference] := by
  have found : (report.sections.flatMap fun block =>
      (referencesView block.rationale.references).picked (ofKind sought)) =
        (report.references.filter isWebLink).map linkView := by
    simp only [finds.picked_referencesView]
    rw [Report.references, List.filter_flatMap, List.map_flatMap]
  rw [filter_page sees seeks spared, found]
  exact nodesOf_map _ _ _ fun reference => rfl

end FindsLinks

/-- The search for links by their name. -/
theorem links_by_name : FindsLinks fun kind => kind.name == "a" := by
  constructor <;> rfl

/-- The search for links by their address. -/
theorem links_by_address : FindsLinks fun kind => kind.labels.any (· == .href) := by
  constructor <;> rfl

/-- An element has an address in what is read exactly if its kind has one in what is written. -/
theorem seeks_address :
    Seeks (Node.carries "href") (ofKind fun kind => kind.labels.any (· == .href)) where
  character _ := rfl
  element := by
    intro name attributes children
    rw [ofKind, ElementKind.of, List.any_map]
    exact (seeks_carries .href).element name attributes children

/-- An address of a page stands in an element that has one. -/
theorem addresses_marked (nodes : List Node) :
    addresses nodes =
      ((elementsOf nodes).filter (Node.carries "href")).filterMap (Node.value? "href") := by
  rw [addresses, List.filterMap_filter]
  congr 1
  funext node
  cases carries : node.carries "href" with
  | true => rfl
  | false =>
    cases value : node.value? "href" with
    | none => rfl
    | some address =>
      have carried := carries_of_value? "href" address node (by simp [value])
      rw [carries] at carried
      cases carried

/-- An address of the web is not empty, so it is shown as it is. -/
theorem readable_of_isWebAddress (reference : String) (leads : IsWebAddress reference) :
    readable reference = reference := by
  rw [readable, if_neg]
  intro none
  obtain rfl := String.isEmpty_iff.mp none
  revert leads
  decide

/-- The references that become links are those that lead to the web. -/
theorem filter_isWebLink (references : List String) :
    references.filter isWebLink = references.filter IsWebAddress := by
  congr 1
  funext reference
  exact Bool.eq_iff_iff.mpr ((isWebLink_iff reference).trans decide_eq_true_iff.symm)

/-- The links of a page are the references that lead to the web. -/
theorem links_page (report : Report) (openness : Openness) :
    links (.character '\n' :: (page report openness).nodes) =
      (report.references.filter IsWebAddress).map fun reference => (some reference, reference) := by
  rw [links, links_by_name.filter_page_links (by decide +kernel) _ (seeks_isNamed "a"),
    List.map_map, filter_isWebLink]
  refine List.map_congr_left fun reference member => ?_
  have leads : IsWebAddress reference := by simpa using (List.mem_filter.mp member).2
  exact congrArg₂ Prod.mk (value?_elementNode .a (linkAttributes reference) _ .href)
    ((text_elementNode .a _ reference).trans (readable_of_isWebAddress reference leads))

/-- The addresses of a page are the references that lead to the web. -/
theorem addresses_page (report : Report) (openness : Openness) :
    addresses (.character '\n' :: (page report openness).nodes) =
      report.references.filter IsWebAddress := by
  have address : (Node.value? "href" ∘ fun reference =>
      elementNode .a (linkAttributes reference) [.text reference]) = some := by
    funext reference
    exact value?_elementNode .a (linkAttributes reference) _ .href
  rw [addresses_marked,
    links_by_address.filter_page_links (by decide +kernel) _ seeks_address, List.filterMap_map,
    address, List.filterMap_some, filter_isWebLink]

/-- The item of a reference, as it is read. -/
def itemNode (reference : String) : Node :=
  if isWebLink reference then elementNode .li [] [linkView reference]
  else elementNode .li [(.classes, "reference-text")] [.text reference]

/-- A reference is read as one item. -/
theorem nodes_referenceView (reference : String) :
    (referenceView reference).nodes = [itemNode reference] := by
  unfold referenceView itemNode
  split
  · rfl
  · rfl

/-- A text alone has no elements. -/
theorem elementsOf_text (content : String) : elementsOf (nodesOf [.text content]) = [] := by
  rw [nodesOf, elementsOf_append, nodes, elementsOf_characterNodes]
  rfl

/-- The item of a link holds the one address, and the text of the link. -/
theorem read_linkItem (reference : String) :
    ShownReference.read (elementNode .li [] [linkView reference]) =
      ⟨[reference], readable reference, false⟩ := by
  have elements : (elementNode .li [] [linkView reference]).elements =
      [elementNode .li [] [linkView reference],
        elementNode .a (linkAttributes reference) [.text reference]] := by
    have inner := elementsOf_text reference
    rw [elementNode, Node.elements, linkView, nodesOf, nodes, nodesOf, List.append_nil, elementsOf,
      Node.elements, inner]
    rfl
  have address : [elementNode .li [] [linkView reference],
      elementNode .a (linkAttributes reference) [.text reference]].filterMap (Node.value? "href") =
        [reference] := by
    have none := value?_elementNode .li [] [linkView reference] .href
    have here := value?_elementNode .a (linkAttributes reference) [.text reference] .href
    exact (List.filterMap_cons_none none).trans (List.filterMap_cons_some here)
  have text : (elementNode .li [] [linkView reference]).text = readable reference := by
    have inner := text_elementNode .a (linkAttributes reference) reference
    have characters : (elementNode .li [] [linkView reference]).characters =
        (elementNode .a (linkAttributes reference) [.text reference]).characters :=
      List.append_nil _
    rw [Node.text, characters]
    exact inner
  have plainly : (elementNode .li [] [linkView reference]).hasClass "reference-text" = false :=
    hasClass_element "reference-text" Tag.li.name [] _
  rw [ShownReference.read, elements, address, text, plainly]

/-- The item of another reference holds no address, but the text of the reference. -/
theorem read_textItem (reference : String) :
    ShownReference.read (elementNode .li [(.classes, "reference-text")] [.text reference]) =
      ⟨[], readable reference, true⟩ := by
  have elements : (elementNode .li [(.classes, "reference-text")] [.text reference]).elements =
      [elementNode .li [(.classes, "reference-text")] [.text reference]] := by
    have inner := elementsOf_text reference
    rw [elementNode, Node.elements, inner]
  have address : [elementNode .li [(.classes, "reference-text")] [.text reference]].filterMap
      (Node.value? "href") = [] :=
    List.filterMap_cons_none (value?_elementNode .li _ _ .href)
  have plainly : (elementNode .li [(.classes, "reference-text")] [.text reference]).hasClass
      "reference-text" = true :=
    (hasClass_element "reference-text" Tag.li.name [(.classes, "reference-text")] _).trans
      (by decide)
  rw [ShownReference.read, elements, address, text_elementNode, plainly]

/-- An item is read as the reference that it shows. -/
theorem read_itemNode (reference : String) :
    ShownReference.read (itemNode reference) = .of reference := by
  by_cases leads : IsWebAddress reference
  · rw [itemNode, if_pos ((isWebLink_iff reference).mpr leads), read_linkItem, ShownReference.of,
      if_pos leads, readable_of_isWebAddress reference leads]
  · rw [itemNode, if_neg (mt (isWebLink_iff reference).mp leads), read_textItem, ShownReference.of,
      if_neg leads]

/-- A list of references, as it is read. -/
def listNode (references : List String) : Node :=
  elementNode .ul [(.classes, "reference-list")] (listed (references.map referenceView))

/-- A list is read as the references that it shows, in order. -/
theorem read_listNode (references : List String) :
    ((listNode references).named "li").map ShownReference.read =
      references.map .of := by
  have item (reference : String) : (referenceView reference).picked (naming "li") =
      [referenceView reference] := by
    unfold referenceView
    split
    · rfl
    · rfl
  have items : (Markup.element .ul [(.classes, "reference-list")]
      (listed (references.map referenceView))).picked (naming "li") =
        references.map referenceView := by
    rw [picked, pickedOf_listed, pickedOf_map]
    simp only [item]
    exact List.map_eq_flatMap.symm
  rw [listNode, named_elementNode, items, nodesOf_map _ itemNode references nodes_referenceView,
    List.map_map]
  exact List.map_congr_left fun reference _ => read_itemNode reference

/-- The kinds of lists of references. -/
def isReferenceListKind (kind : ElementKind) : Bool :=
  kind.name == "ul" && kind.classes.any fun classes =>
    (Text.split ' ' classes.toList).contains "reference-list".toList

/-- A list of references is recognised by its kind. -/
theorem seeks_isReferenceList : Seeks Node.isReferenceList (ofKind isReferenceListKind) where
  character _ := rfl
  element := by
    intro name attributes children
    rw [Node.isReferenceList, hasClass_element]
    rfl

/-- A list of references is found as a whole, if there are any. -/
theorem picked_referenceList (references : List String) :
    (referencesView references).picked (ofKind isReferenceListKind) =
      if !references.isEmpty then [referenceList references] else [] := by
  have items : pickedOf (ofKind isReferenceListKind) (references.map referenceView) = [] := by
    apply pickedOf_map_nil
    intro reference
    unfold referenceView
    split
    · rfl
    · rfl
  have isList : ofKind isReferenceListKind Tag.ul.name [(.classes, "reference-list")] = true := by
    decide
  unfold referencesView
  cases references.isEmpty with
  | true => rfl
  | false =>
    rw [if_neg Bool.false_ne_true, referenceList, classed, picked, isList, pickedOf_listed, items]
    rfl

/-- The lists of references of a page are those of the sections that have references. -/
theorem referenceLists_page (report : Report) (openness : Openness) :
    referenceLists (.character '\n' :: (page report openness).nodes) =
      ((report.sections.map fun block => block.rationale.references).filter (!·.isEmpty)).map
        fun references => references.map .of := by
  have found : (report.sections.flatMap fun block =>
      (referencesView block.rationale.references).picked (ofKind isReferenceListKind)) =
        ((report.sections.map fun block => block.rationale.references).filter (!·.isEmpty)).map
          referenceList := by
    rw [← flatMap_chosen, List.flatMap_map]
    simp only [picked_referenceList]
  have lists := nodesOf_map referenceList listNode
    ((report.sections.map fun block => block.rationale.references).filter (!·.isEmpty))
    fun _ => rfl
  rw [referenceLists, filter_page _ seeks_isReferenceList (by decide +kernel), found, lists,
    List.map_map]
  exact List.map_congr_left fun references _ => read_listNode references

/-- The references of a report in its page. Its links are exactly the references that lead to the
web, in the order of the sections and of their references, each with its whole text as address and
as label. No other address stands in the page. Every section with references has a list of them, in
which each stands in its place: as a link if it leads to the web, else as text. -/
theorem references_document (report : Report) (openness : Openness) :
    ∃ nodes, readPage? (document report openness) = some nodes ∧
      links nodes =
        (report.references.filter IsWebAddress).map
          (fun reference => (some reference, reference)) ∧
      addresses nodes = report.references.filter IsWebAddress ∧
      referenceLists nodes =
        ((report.sections.map fun block => block.rationale.references).filter (!·.isEmpty)).map
          fun references => references.map ShownReference.of :=
  ⟨_, readPage?_document report openness, links_page report openness,
    addresses_page report openness, referenceLists_page report openness⟩

end Page

end CodeReport
