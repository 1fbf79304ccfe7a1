import CodeReport.Proofs.Page.Content
import CodeReport.Proofs.Page.Kinds
import CodeReport.Proofs.Page.Toggles

/-!
# Parts of a card found by their class

Texts, bars and confidences stand in elements with classes of their own. Each
class is given to elements of one component only, so a search for it finds in a
card what it finds in that component.
-/

namespace CodeReport.Page

open Markup

/-- The elements of a class in an element. -/
def Node.ofClass (name : String) (node : Node) : List Node :=
  node.elements.filter (Node.hasClass name)

/-- Whether a class is among those of the elements of a kind. -/
def ElementKind.hasClass (name : String) (kind : ElementKind) : Bool :=
  kind.classes.any fun classes => (Text.split ' ' classes.toList).contains name.toList

/-- The search for a class. -/
abbrev byClass (name : String) : String → Attributes → Bool :=
  ofKind (ElementKind.hasClass name)

/-- A class that is read is among those that are written. -/
theorem seeks_hasClass (name : String) : Seeks (Node.hasClass name) (byClass name) where
  character _ := rfl
  element := by
    intro tag attributes children
    rw [hasClass_element]
    rfl

/-- The elements of a class in an element, as they are written. -/
theorem ofClass_elementNode (name : String) (tag : Tag) (attributes : Attributes)
    (children : List Markup) :
    (elementNode tag attributes children).ofClass name =
      nodesOf ((Markup.element tag attributes children).picked (byClass name)) := by
  have found := filter_nodes (seeks_hasClass name) (.element tag attributes children)
  have alone : elementsOf (Markup.element tag attributes children).nodes =
      (elementNode tag attributes children).elements :=
    List.append_nil _
  rwa [alone] at found

/-- A card as it is read. -/
abbrev cardNode (block : Section) (place : Nat) (isOpen : Bool) : Node :=
  keyedCard.node block place isOpen

/-- The card of a section is read as one element. -/
theorem nodes_card (block : Section) (place : Nat) (isOpen : Bool) :
    (card block place isOpen).nodes = [cardNode block place isOpen] := by
  rw [card_divided]
  rfl

/-- A class that the rest of a card does not have is looked for in the four parts of its section. -/
theorem ofClass_card (name : String) (spared : ∀ kind ∈ cardKinds, kind.hasClass name = false)
    (block : Section) (place : Nat) (isOpen : Bool) :
    (cardNode block place isOpen).ofClass name =
      nodesOf ((bodyView block.body).picked (byClass name) ++
        ((Chart.view block.chart).picked (byClass name) ++
          ((stepsView block.steps).picked (byClass name) ++
            (rationaleView block.rationale).picked (byClass name)))) := by
  have found := filter_nodes (seeks_hasClass name) (card block place isOpen)
  have alone : elementsOf [cardNode block place isOpen] =
      (cardNode block place isOpen).elements := List.append_nil _
  rw [nodes_card, alone, picked_contents spared] at found
  rw [Node.ofClass, found]
  simp only [contentPieces, pickedOf, List.append_nil]

end CodeReport.Page
