import CodeReport.Console.Report
import Mathlib.Data.List.Forall2

/-!
# Blocks

A report on the console is its head, one block for each section and its tail. What
is to be said of all blocks is proved of one section at a time, closed or open.
-/

namespace CodeReport.Console

/-- A closed section is its header alone. -/
theorem block_closed (colour : Bool) (shown : Section) :
    block colour shown false = "\n" ++ header colour shown false ++ "\n" := by
  rw [block]
  exact String.append_empty

/-- Below the header of an open section stand its body, its chart, its steps and its rationale. -/
theorem block_open (colour : Bool) (shown : Section) :
    block colour shown true = "\n" ++ header colour shown true ++ "\n" ++
      unlines ((bodyLines colour shown.body).map (indent ++ ·) ++
        (chartLines colour shown.chart).map (indent ++ ·) ++
        (stepLines colour shown.steps).map (indent ++ ·) ++
        (rationaleLines colour shown.rationale).map (indent ++ ·)) := by
  rw [block, if_pos rfl, contentLines, List.map_append, List.map_append, List.map_append]

/-- What holds of the block of each section holds of the blocks of a report, in their order. -/
theorem report_blocks (colour : Bool) (shown : Report) (openness : Openness)
    (holds : Section → String → Prop)
    (each : ∀ one ∈ shown.sections, holds one (block colour one (openness.isOpen one.key))) :
    ∃ blocks, report colour shown openness =
        head colour shown ++ String.join blocks ++ tail colour shown ∧
      List.Forall₂ holds shown.sections blocks := by
  refine ⟨shown.sections.map fun one => block colour one (openness.isOpen one.key), rfl, ?_⟩
  rw [List.forall₂_map_right_iff, List.forall₂_same]
  exact each

end CodeReport.Console
