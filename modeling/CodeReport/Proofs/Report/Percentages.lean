import CodeReport.Proofs.Assembly.Confidence
import CodeReport.Proofs.Assembly.Measured
import CodeReport.Proofs.Assembly.Tables
import CodeReport.Proofs.Console.Blocks
import CodeReport.Proofs.Console.Percentages
import CodeReport.Proofs.Json.Leaves
import CodeReport.Proofs.Number.Integers
import CodeReport.Proofs.Page.Charts

/-!
# Percentages are alike on the page and on the console

The confidences and scores of a report that is made from an answer lie between 0
and 100, whatever numbers the answer holds: each is brought into that range before
it is narrowed to a byte. The two renderings treat a greater byte differently, the
console by showing 100 for it and a chart on a page by showing it as it is, so it
is the range that makes them agree.

For integers nothing is lost on the way through binary64: up to 53 bits the value
is exact, and beyond that the rounded value is far outside the range.
-/

namespace CodeReport

open Json (Members Number)

/-- No value has a percentage beyond 100. -/
theorem Binary64.percentage?_le (value : Binary64) :
    ∀ percentage ∈ value.percentage?, percentage ≤ 100 := by
  intro percentage found
  cases value with
  | notANumber => cases found
  | infinity negative =>
    obtain rfl := Option.some.inj found
    split_ifs <;> omega
  | finite negative significand exponent =>
    obtain rfl := Option.some.inj found
    split_ifs <;> omega

/-- A percentage fits into a byte. -/
theorem toNat_ofPercentage (percentage : Nat) (inRange : percentage ≤ 100) :
    (UInt8.ofNat percentage).toNat = percentage := by
  rw [UInt8.toNat_ofNat']
  exact Nat.mod_eq_of_lt (by omega)

/-- The score of a bar is the percentage of its score. -/
theorem ScoreBar.toNat_ofScore (label : String) (score : Binary64) :
    (ofScore label score).score.toNat = score.percentage?.getD 0 := by
  apply toNat_ofPercentage
  cases found : score.percentage? with
  | none => exact Nat.zero_le 100
  | some percentage => exact score.percentage?_le percentage found

/-- All percentages of a section lie between 0 and 100. -/
structure Section.InRange (block : Section) : Prop where
  confidence : ∀ confidence ∈ block.rationale.confidence, confidence.toNat ≤ 100
  scores : ∀ bar ∈ block.chart, bar.score.toNat ≤ 100

/-- The confidence of an entry is a percentage. -/
theorem Entry.confidenceOf_le (value : Json.Value) :
    ∀ confidence ∈ confidenceOf value, confidence.toNat ≤ 100 := by
  intro confidence found
  obtain ⟨percentage, read, rfl⟩ := Option.map_eq_some_iff.mp found
  obtain ⟨number, -, isPercentage⟩ := Option.bind_eq_some_iff.mp read
  have inRange := number.percentage?_le percentage isPercentage
  rwa [toNat_ofPercentage percentage inRange]

/-- The confidence of an entry's section is a percentage, and it has no chart. -/
theorem Entry.inRange_toSection (entry : Members) : (toSection entry).InRange where
  confidence := by
    intro confidence found
    obtain ⟨value, -, read⟩ := Option.bind_eq_some_iff.mp found
    exact confidenceOf_le value confidence read
  scores _ none := nomatch none

/-- The bars of metrics show percentages. -/
theorem Template.inRange_metrics (measured : List Answer.Metric) :
    (metrics measured).InRange where
  confidence := by
    rintro confidence found
    obtain rfl := Option.some.inj found
    decide
  scores := by
    intro bar member
    obtain ⟨metric, -, made⟩ := List.mem_filterMap.mp member
    obtain ⟨score, -, rfl⟩ := Option.map_eq_some_iff.mp made
    rw [ScoreBar.toNat_ofScore]
    cases found : score.percentage? with
    | none => exact Nat.zero_le 100
    | some percentage => exact score.percentage?_le percentage found

/-- The confidences of a template are constants, and its chart is that of the metrics. -/
theorem Template.inRange_sections (answer : Answer) (mode : Mode) :
    ∀ block ∈ sections answer mode, block.InRange := by
  have constant (block : Section) (confidence : UInt8) (small : confidence.toNat ≤ 100)
      (told : block.rationale.confidence = some confidence) (uncharted : block.chart = []) :
      block.InRange := by
    refine ⟨fun found isFound => ?_, fun bar member => ?_⟩
    · obtain rfl := Option.some.inj (told.symm.trans isFound)
      exact small
    · rw [uncharted] at member
      cases member
  cases mode with
  | analysis =>
    simp only [sections, List.forall_mem_cons, List.not_mem_nil, false_implies, implies_true,
      and_true]
    exact ⟨inRange_metrics answer.metrics, constant _ 90 (by decide) rfl rfl,
      constant _ 95 (by decide) rfl rfl⟩
  | debug =>
    have detection : (errorDetection answer.fault).InRange := by
      unfold errorDetection
      split
      · exact constant _ 95 (by decide) rfl rfl
      · exact constant _ 95 (by decide) rfl rfl
    simp only [sections, List.forall_mem_cons, List.not_mem_nil, false_implies, implies_true,
      and_true]
    exact ⟨detection, constant _ 90 (by decide) rfl rfl, constant _ 85 (by decide) rfl rfl,
      constant _ 95 (by decide) rfl rfl⟩

namespace Answer

/-- Wherever a section comes from, its percentages are in range. -/
theorem Origin.inRange {answer : Answer} {mode : Mode} {source : Section}
    (origin : answer.Origin mode source) : source.InRange := by
  cases origin with
  | failure failed => exact ⟨nofun, nofun⟩
  | entry content entries brought entry member => exact Entry.inRange_toSection entry
  | template content absent block member => exact Template.inRange_sections answer mode _ member
  | correction content block member =>
    unfold Answer.correction at member
    split at member
    · cases member
    · rw [List.mem_singleton.mp member]
      exact ⟨nofun, nofun⟩

/-- The percentages of all sections of an answer are in range. -/
theorem inRange_sections (answer : Answer) (mode : Mode) (block : Section)
    (member : block ∈ answer.toSections mode) : block.InRange := by
  obtain ⟨source, origin, same⟩ := answer.origin_of_mem mode block member
  have rationale : block.withoutKey.rationale = source.withoutKey.rationale :=
    congrArg Section.rationale same
  have chart : block.withoutKey.chart = source.withoutKey.chart := congrArg Section.chart same
  have inRange : source.withoutKey.InRange := ⟨origin.inRange.confidence, origin.inRange.scores⟩
  obtain ⟨confidence, scores⟩ := inRange
  rw [← rationale] at confidence
  rw [← chart] at scores
  exact ⟨confidence, scores⟩

end Answer

/-- The percentages that are told of a section, as texts. -/
structure ToldPercentages where
  scores : List String
  confidences : List String
  deriving Repr, DecidableEq

namespace ToldPercentages

/-- The percentages of a section as they are. -/
def ofSection (block : Section) : ToldPercentages where
  scores := block.chart.map fun bar => s!"{bar.score.toNat}%"
  confidences := block.rationale.confidence.toList.map fun confidence => s!"{confidence.toNat}%"

/-- The percentages that stand beside the bars and the confidence of a card. -/
def ofCard (card : Page.Node) : ToldPercentages where
  scores := (Page.barsIn card).flatMap Page.ShownBar.scores
  confidences := (Page.confidencesIn card).flatMap Page.ShownConfidence.values

/-- The percentages at the ends of the lines that an open section prints for its chart and for its
confidence. -/
def ofLines (colour : Bool) (block : Section) : ToldPercentages where
  scores := (Console.printedChart colour block).map Console.lastWord
  confidences := ((Console.printedRationale colour block).filter
    (Console.tellsConfidence colour)).map Console.lastWord

/-- What an open section prints: below its header stand its body, its chart, its steps and its
rationale, and the lines of the chart and of the rationale tell its percentages. -/
structure Printed (colour : Bool) (block : Section) (text : String) : Prop where
  lines : text = "\n" ++ Console.header colour block true ++ "\n" ++
    Console.unlines ((Console.bodyLines colour block.body).map (Console.indent ++ ·) ++
      Console.printedChart colour block ++
      (Console.stepLines colour block.steps).map (Console.indent ++ ·) ++
      Console.printedRationale colour block)
  told : ofLines colour block = ofSection block

variable {block : Section}

/-- In range, showing 100 for what is beyond it changes nothing. -/
theorem capped_eq (inRange : block.InRange) :
    (block.chart.map fun bar => s!"{min bar.score.toNat 100}%") = (ofSection block).scores ∧
      (block.rationale.confidence.toList.map fun confidence =>
        s!"{min confidence.toNat 100}%") = (ofSection block).confidences := by
  constructor
  · refine List.map_congr_left fun bar member => ?_
    rw [Nat.min_eq_left (inRange.scores bar member)]
  · refine List.map_congr_left fun confidence member => ?_
    rw [Nat.min_eq_left (inRange.confidence confidence (Option.mem_toList.mp member))]

/-- The console tells the percentages of a section as they are. -/
theorem ofLines_eq (inRange : block.InRange) (colour : Bool) :
    ofLines colour block = ofSection block := by
  obtain ⟨scores, confidences⟩ := capped_eq inRange
  rw [ofLines, Console.lastWord_printedChart, Console.lastWord_confidence, scores, confidences]

/-- Whatever is printed of a section in range that is open tells its percentages. -/
theorem printed_block (inRange : block.InRange) (colour isOpen : Bool) (opened : isOpen = true) :
    Printed colour block (Console.block colour block isOpen) := by
  rw [opened]
  exact ⟨Console.block_open colour block, ofLines_eq inRange colour⟩

/-- So does the page. -/
theorem ofCard_eq (inRange : block.InRange) (place : Nat) (isOpen : Bool) :
    ofCard (Page.cardNode block place isOpen) = ofSection block := by
  obtain ⟨-, confidences⟩ := capped_eq inRange
  rw [ofCard, Page.barsIn_cardNode, Page.confidencesIn_cardNode, List.flatMap_map,
    List.flatMap_map]
  have bars : (block.chart.flatMap fun bar => (Page.ShownBar.of bar).scores) =
      (ofSection block).scores := List.map_eq_flatMap.symm
  have told : (block.rationale.confidence.toList.flatMap fun confidence =>
      (Page.ShownConfidence.of confidence).values) = (ofSection block).confidences :=
    List.map_eq_flatMap.symm.trans confidences
  rw [bars, told]

end ToldPercentages

/-- An integer that is kept is far from the greatest finite value. -/
theorem log2_of_isKept (value : Int) (kept : Json.Reader.IsKept value) :
    value.natAbs.log2 < 1023 := by
  obtain ⟨least, greatest⟩ := kept
  rw [Number.leastInteger] at least
  rw [Number.greatestInteger] at greatest
  have short : value.natAbs < 2 ^ 65 := by omega
  rcases Nat.eq_zero_or_pos value.natAbs with zero | positive
  · rw [zero]
    decide
  · have bits : value.natAbs.log2 < 65 := (Nat.log2_lt positive.ne').mpr short
    omega

/-- The confidence of an entry that holds an integer. -/
theorem Entry.confidence_integer (entry : Members) (value : Int)
    (kept : Json.Reader.IsKept value)
    (held : entry.get? "confidence" = some (.number (.integer value))) :
    ∃ confidence, (toSection entry).rationale.confidence = some confidence ∧
      (confidence.toNat : Int) = max 0 (min 100 value) := by
  obtain ⟨finite, percentage⟩ := Binary64.percentage?_ofInt value (log2_of_isKept value kept)
  refine ⟨UInt8.ofNat (max 0 (min 100 value)).toNat, ?_, ?_⟩
  · have confidence : (toSection entry).rationale.confidence =
        (entry.get? "confidence").bind confidenceOf := rfl
    rw [confidence, held, Option.bind_some]
    exact confidenceOf_number (.integer value) finite percentage
  · rw [toNat_ofPercentage _ (by omega)]
    omega

/-- The bar of a metric whose score is an integer. -/
theorem ScoreBar.score_integer (label : String) (value : Int) (kept : Json.Reader.IsKept value) :
    ((ofScore label (Number.integer value).toBinary64).score.toNat : Int) =
      max 0 (min 100 value) := by
  obtain ⟨-, percentage⟩ := Binary64.percentage?_ofInt value (log2_of_isKept value kept)
  rw [toNat_ofScore, Number.toBinary64, percentage, Option.getD_some]
  omega

/-- The text of a score that is an integer of at most 53 bits, or the next one. -/
theorem Template.scoreText_integer (value : Int) (small : value.natAbs ≤ 2 ^ 53) :
    scoreText (some (Number.integer value).toBinary64) = toString value ++ "%" := by
  obtain ⟨significand, exponent, exact, natural⟩ := Binary64.ofInt_exact value small
  rw [Number.toBinary64, exact, scoreText, natural.isWhole, if_pos rfl, natural.withPlaces,
    Binary64.toString_int]
  simp only [decide_eq_true_eq]

namespace Answer

/-- The confidences and scores of a report that is made from an answer lie between 0 and 100. The
page tells each of them as it is, in the card of its section, and so does the console, in the lines
of its section if that is open; so they tell the same percentages. An integer is read exactly: as a
confidence and as the score of a metric it is brought into that range, and the table of the metrics
tells it in full as long as it has at most 53 bits. -/
theorem percentages_exact (answer : Answer) (mode : Mode) (openness : Openness) (colour : Bool) :
    (∀ block ∈ (Report.ofAnswer answer mode).sections, block.InRange) ∧
    (∃ nodes, Page.readPage? (Page.document (Report.ofAnswer answer mode) openness) = some nodes ∧
      List.Forall₂
        (fun block card => ToldPercentages.ofCard card = ToldPercentages.ofSection block)
        (Report.ofAnswer answer mode).sections (Page.marked "data-section-key" nodes)) ∧
    (∃ blocks, Console.report colour (Report.ofAnswer answer mode) openness =
        Console.head colour (Report.ofAnswer answer mode) ++ String.join blocks ++
          Console.tail colour (Report.ofAnswer answer mode) ∧
      List.Forall₂
        (fun block text =>
          openness.isOpen block.key = true → ToldPercentages.Printed colour block text)
        (Report.ofAnswer answer mode).sections blocks) ∧
    (∀ (entry : Members) (value : Int), Json.Reader.IsKept value →
      entry.get? "confidence" = some (.number (.integer value)) →
      ∃ confidence, (Entry.toSection entry).rationale.confidence = some confidence ∧
        (confidence.toNat : Int) = max 0 (min 100 value)) ∧
    (∀ (measured : Members) (name : String) (held : Json.Value) (value : Int),
      (name, held) ∈ measured → HasScore held (.integer value) → Json.Reader.IsKept value →
      ∃ headers rows cell, ∃ bar ∈ (Template.metrics (metricsOf (.object measured))).chart,
        (Template.metrics (metricsOf (.object measured))).body = .table headers rows ∧
        [name, cell] ∈ rows ∧ bar.label = name ∧
        (bar.score.toNat : Int) = max 0 (min 100 value) ∧
        (value.natAbs ≤ 2 ^ 53 → cell = toString value ++ "%")) := by
  have inRange := answer.inRange_sections mode
  refine ⟨inRange, ⟨_, Page.readPage?_document _ openness, ?_⟩,
    Console.report_blocks colour _ openness _ ?_, Entry.confidence_integer, ?_⟩
  · have cards := Page.keyedCard.marked_document (Report.ofAnswer answer mode) openness
    rw [Page.documentNodes] at cards
    exact cards ▸ Page.forall₂_zipIdx _ _ fun block member place =>
      ToldPercentages.ofCard_eq (inRange block member) place _
  · intro block member
    exact ToldPercentages.printed_block (inRange block member) colour _
  · intro measured name held value member has kept
    obtain ⟨row, isRow, rfl, bar, isBar, rfl⟩ := (charted_metrics measured).exists_of_mem member has
    exact ⟨_, _, _, _, isBar, rfl, isRow, rfl, ScoreBar.score_integer name value kept,
      Template.scoreText_integer value⟩

end Answer

end CodeReport
