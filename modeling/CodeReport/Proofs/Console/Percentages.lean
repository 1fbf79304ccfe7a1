import CodeReport.Console.Report
import Mathlib.Data.List.DropRight

/-!
# Percentages on the console

The lines that show a percentage end with it: behind the marks of a bar stand a
bracket, a space and the number with its sign. A label or a title in front of it
may hold any characters, so a percentage is read from the end of its line. Colours
reach no further than the marks, so they make no difference to what is read.
-/

namespace CodeReport.Console

/-- What stands behind the last space of a line. -/
def lastWord (line : String) : String :=
  String.ofList (line.toList.rtakeWhile (· ≠ ' '))

/-- The last word of a text is what stands behind its last space. -/
theorem lastWord_append (front word : String) (single : ' ' ∉ word.toList) :
    lastWord (front ++ " " ++ word) = word := by
  have line : (front ++ " " ++ word).toList.reverse =
      word.toList.reverse ++ ' ' :: front.toList.reverse := by
    rw [String.toList_append, String.toList_append, List.reverse_append, List.reverse_append]
    rfl
  have others : ∀ c ∈ word.toList.reverse, decide (c ≠ ' ') = true := by
    intro c member
    rw [List.mem_reverse] at member
    exact decide_eq_true fun same => single (same ▸ member)
  rw [lastWord, List.rtakeWhile, line, List.takeWhile_append_of_pos others, List.takeWhile_cons]
  simp

/-- A percentage is written without spaces. -/
theorem percentage_single (number : Nat) : ' ' ∉ s!"{number}%".toList := by
  have text : s!"{number}%" = number.repr ++ "%" := rfl
  have characters : s!"{number}%".toList = Nat.toDigits 10 number ++ ['%'] := by
    rw [text, String.toList_append, Nat.toList_repr]
    rfl
  rw [characters, List.mem_append]
  rintro (digit | sign)
  · have isDigit := Nat.isDigit_of_mem_toDigits (by decide) (by decide) digit
    revert isDigit
    decide
  · revert sign
    decide

/-- A bar is read as its percentage, whatever stands in front of it. -/
theorem lastWord_bar (colour : Bool) (front : String) (percentage : UInt8) :
    lastWord (front ++ bar colour percentage) = s!"{min percentage.toNat 100}%" := by
  rw [← lastWord_append (front ++ ("[" ++
    paint colour .green (Text.replicate (min percentage.toNat 100 * barWidth / 100) '#') ++
    paint colour .dimmed (Text.replicate
      (barWidth - min percentage.toNat 100 * barWidth / 100) '-') ++ "]")) _
    (percentage_single (min percentage.toNat 100))]
  congr 1
  have space : "] " = "]" ++ " " := rfl
  have text : s!"{min percentage.toNat 100}%" = toString (min percentage.toNat 100) ++ "%" := rfl
  rw [bar, space, text]
  simp only [String.append_assoc]

/-- The lines that an open section prints for its chart. -/
def printedChart (colour : Bool) (shown : Section) : List String :=
  (chartLines colour shown.chart).map (indent ++ ·)

/-- The lines that an open section prints for its rationale. -/
def printedRationale (colour : Bool) (shown : Section) : List String :=
  (rationaleLines colour shown.rationale).map (indent ++ ·)

/-- The lines of a chart end with the percentages of its bars. -/
theorem lastWord_printedChart (colour : Bool) (shown : Section) :
    (printedChart colour shown).map lastWord =
      shown.chart.map fun scoreBar => s!"{min scoreBar.score.toNat 100}%" := by
  rw [printedChart, chartLines, List.map_map, List.map_map]
  refine List.map_congr_left fun scoreBar _ => ?_
  rw [Function.comp_apply, Function.comp_apply, ← String.append_assoc]
  exact lastWord_bar colour _ scoreBar.score

/-- Whether a line begins with the name of a confidence. -/
def tellsConfidence (colour : Bool) (line : String) : Bool :=
  (indent ++ paint colour .bold "Confidence:").toList.isPrefixOf line.toList

/-- The other parts of a rationale have other names. -/
theorem tellsConfidence_other (colour : Bool) (name value : String)
    (other : name ∈ ["Why this matters:", "Impact:", "See:"]) :
    tellsConfidence colour (indent ++ named colour name value) = false := by
  rw [tellsConfidence, named, String.toList_append, String.toList_append, String.toList_append,
    String.toList_append]
  simp only [List.mem_cons, List.not_mem_nil, or_false] at other
  rcases other with rfl | rfl | rfl <;> cases colour <;> rfl

/-- The line of a confidence is recognised as one. -/
theorem tellsConfidence_confidence (colour : Bool) (value : String) :
    tellsConfidence colour (indent ++ named colour "Confidence:" value) = true := by
  have line : (indent ++ named colour "Confidence:" value).toList =
      (indent ++ paint colour .bold "Confidence:").toList ++ (" " ++ value).toList := by
    rw [named, ← String.toList_append]
    simp only [String.append_assoc]
  rw [tellsConfidence, line]
  exact List.isPrefixOf_iff_prefix.mpr (List.prefix_append _ _)

/-- The parts of a rationale with another name have no confidence. -/
theorem filter_tellsConfidence_other (colour : Bool) (name : String)
    (other : name ∈ ["Why this matters:", "Impact:", "See:"]) (values : List String) :
    (values.map fun value => indent ++ named colour name value).filter
      (tellsConfidence colour) = [] := by
  refine List.filter_eq_nil_iff.mpr (List.forall_mem_map.mpr fun value _ => ?_)
  rw [tellsConfidence_other colour name value other]
  exact Bool.false_ne_true

/-- A rationale has a line for its confidence if it has one, and the line ends with it. -/
theorem lastWord_confidence (colour : Bool) (shown : Section) :
    ((printedRationale colour shown).filter (tellsConfidence colour)).map lastWord =
      shown.rationale.confidence.toList.map fun confidence =>
        s!"{min confidence.toNat 100}%" := by
  have none (name : String) (other : name ∈ ["Why this matters:", "Impact:", "See:"])
      (style : Style) (values : List String) :
      ((values.map fun value => named colour name (paint colour style value)).map
        (indent ++ ·)).filter (tellsConfidence colour) = [] := by
    have skipped := filter_tellsConfidence_other colour name other
      (values.map (paint colour style))
    rwa [List.map_map] at skipped ⊢
  have confidence : ((shown.rationale.confidence.toList.map fun confidence =>
      named colour "Confidence:" (bar colour confidence)).map (indent ++ ·)).filter
        (tellsConfidence colour) =
        shown.rationale.confidence.toList.map fun confidence =>
          indent ++ named colour "Confidence:" (bar colour confidence) := by
    rw [List.map_map]
    exact List.filter_eq_self.mpr (List.forall_mem_map.mpr fun value _ =>
      tellsConfidence_confidence colour _)
  rw [printedRationale, rationaleLines, List.map_append, List.map_append, List.map_append,
    List.filter_append, List.filter_append, List.filter_append, Option.toList_map,
    Option.toList_map, Option.toList_map, none "Why this matters:" (by decide),
    none "Impact:" (by decide), none "See:" (by decide), confidence, List.nil_append,
    List.append_nil, List.nil_append, List.map_map]
  refine List.map_congr_left fun confidence _ => ?_
  rw [Function.comp_apply, named, ← String.append_assoc]
  exact lastWord_bar colour _ confidence

end CodeReport.Console
