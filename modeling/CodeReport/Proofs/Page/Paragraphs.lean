import CodeReport.Proofs.Page.Classes
import CodeReport.Proofs.Text.Paragraphs

/-!
# Texts are shown paragraph by paragraph

A text is written with one element for each of its paragraphs and read back. What
is read is the text but for its blank characters: in the order of the text, cut
exactly where a pair of line feeds stands between two characters that are shown.
A text that is blank has no paragraphs, and a notice in their place.
-/

namespace CodeReport.Page

open Markup

/-- The paragraphs of the texts in a page. -/
def shownParagraphs (nodes : List Node) : List String :=
  ((elementsOf nodes).filter (Node.hasClass "text-block")).flatMap fun block =>
    (block.named "p").map Node.text

/-- A paragraph is not empty, so it is shown as it is. -/
theorem readable_paragraph (content paragraph : String)
    (member : paragraph ∈ Text.paragraphs content) : readable paragraph = paragraph := by
  rw [readable, if_neg]
  intro none
  obtain rfl := String.isEmpty_iff.mp none
  obtain ⟨stretches, texts, divides⟩ := Text.divides_paragraphs content
  rw [← texts] at member
  obtain ⟨stretch, inside, empty⟩ := List.mem_map.mp member
  obtain ⟨c, first, -⟩ := (divides.paragraph stretch inside).begins
  rw [Text.Stretch.text, String.ofList_eq_empty_iff] at empty
  rw [empty] at first
  cases first

/-- The elements of paragraphs are no blocks of texts. -/
theorem picked_paragraphs (paragraphs : List String) :
    pickedOf (byClass "text-block")
      (paragraphs.map fun paragraph => plain .p [.text paragraph]) = [] :=
  pickedOf_map_nil _ _ fun _ => rfl

/-- The paragraphs of a text are read as they are. -/
theorem shownParagraphs_textView (content : String) :
    shownParagraphs (textView content).nodes = Text.paragraphs content := by
  have found := filter_nodes (seeks_hasClass "text-block") (textView content)
  have unchanged : (Text.paragraphs content).map readable = Text.paragraphs content :=
    (List.map_congr_left (readable_paragraph content)).trans (List.map_id' _)
  rw [shownParagraphs, found]
  unfold textView
  cases written : Text.paragraphs content with
  | nil => rfl
  | cons first others =>
    have isBlock : byClass "text-block" Tag.div.name [(.classes, "text-block")] = true := by
      decide
    have texts := texts_listed .p .div (by decide) [(.classes, "text-block")] (first :: others)
    dsimp only
    rw [classed, picked, isBlock, if_pos rfl, pickedOf_listed, picked_paragraphs]
    rw [written] at unchanged
    exact (List.append_nil _).trans (texts.trans unchanged)

/-- What a page shows of a text. The paragraphs that are read there hold all of its characters but
the blank ones, in order. Each is a stretch of the text, the stretches stand one behind the other,
and each begins and ends with a character that is not blank and holds no two adjacent line feeds.
Two characters of the text that are not blank stand in the same paragraph exactly if no two adjacent
line feeds stand between them. -/
theorem paragraphs_kept (content : String) :
    ∃ nodes, readPage? (textView content).write = some nodes ∧
      Text.visible ((shownParagraphs nodes).flatMap String.toList) =
        Text.visible content.toList ∧
      (∀ paragraph ∈ shownParagraphs nodes, Text.IsParagraph paragraph.toList) ∧
      ∃ stretches : List Text.Stretch,
        stretches.map Text.Stretch.text = shownParagraphs nodes ∧
        Text.Divides stretches content.toList ∧
        ∀ first second, first < second → Text.VisibleAt content.toList first →
          Text.VisibleAt content.toList second →
            ((∃ stretch ∈ stretches, stretch.Covers first ∧ stretch.Covers second) ↔
              ¬ ∃ place, first < place ∧ place + 1 < second ∧
                Text.PairAt content.toList place) := by
  have read : readPage? (textView content).write = some (textView content).nodes :=
    readPage?_write _ (by simp)
  obtain ⟨stretches, texts, divides⟩ := Text.divides_paragraphs content
  refine ⟨_, read, ?_⟩
  rw [shownParagraphs_textView]
  refine ⟨Text.visible_paragraphs content, ?_, stretches, texts, divides,
    fun _ _ before => divides.together_iff before⟩
  rw [← texts]
  refine List.forall_mem_map.mpr fun stretch member => ?_
  rw [Text.Stretch.text, String.toList_ofList]
  exact divides.paragraph stretch member

end CodeReport.Page
