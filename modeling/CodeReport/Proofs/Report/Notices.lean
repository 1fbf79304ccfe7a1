import CodeReport.Page.Body
import CodeReport.Proofs.Console.Blocks

/-!
# Notices

A body that is not shown is replaced by a notice, which names the kind that was
expected and says why. Two bodies are replaced: a table with a defect and a
degraded body. The console and a page each decide this for themselves; here both
are compared with one account of it.

What a text on the console says cannot show where it comes from, since a text may
repeat the wording of a notice. The lines on the console are therefore accounted for
one by one, and the account, when it is written, is what is printed: the lines of a
body, and with them all that a report prints for a section.
-/

namespace CodeReport

namespace Section

/-- What stands in the place of a body that is not shown. -/
structure Notice where
  expected : Kind
  reason : String
  deriving Repr, DecidableEq

namespace Body

/-- The notice of a degraded body; no other body has one of its own. -/
def degradation? : Body → Option Notice
  | .degraded expected reason => some ⟨expected, reason⟩
  | _ => none

/-- The notice in the place of a body, if it is not shown. -/
def notice? (body : Body) : Option Notice :=
  match body.defect? with
  | some defect => some ⟨.table, defect.message⟩
  | none => body.degradation?

/-- Without a defect only a degraded body is not shown. -/
theorem notice?_faultless (body : Body) (faultless : body.defect? = none) :
    body.notice? = body.degradation? := by
  rw [notice?, faultless]

end Body

end Section

open Section (Notice Body)

namespace Console

/-- The line of a notice. -/
def noticeLine (colour : Bool) (notice : Notice) : String :=
  notShown colour notice.expected notice.reason

/-- What a line of a body stands for. -/
inductive BodyLine where
  /-- A part of the content, as it is printed. -/
  | content (line : String)
  | notice (shown : Notice)
  | nothingReported
  | noData
  deriving Repr, DecidableEq

/-- The line that is printed. -/
def BodyLine.write (colour : Bool) : BodyLine → String
  | .content line => line
  | .notice shown => noticeLine colour shown
  | .nothingReported => Console.nothingReported colour
  | .noData => paint colour .dimmed "No data."

/-- The lines of a body, each with what it stands for. -/
def account (colour : Bool) (body : Body) : List BodyLine :=
  match body.defect? with
  | some defect => [.notice ⟨.table, defect.message⟩]
  | none =>
    match body with
    | .text content =>
      (if Text.isBlankText content then [.nothingReported] else []) ++
        (Text.lines content).map .content
    | .list kind items =>
      (if items.isEmpty then [.nothingReported] else []) ++
        (match kind with
        | .bullet => items.map ("- " ++ ·)
        | .numbered => numbered (fun number => s!"{number}. ") items).map .content
    | .table headers rows =>
      let widths := columnWidths headers rows
      .content (paint colour .bold (columns widths headers)) ::
        (if rows.isEmpty then [.noData] else []) ++
        (rows.map (columns widths)).map .content
    | .code language content =>
      ((language.map fun name => paint colour .dimmed ("```" ++ name)).toList ++
        (Text.lines content).map (paint colour .cyan)).map .content
    | .degraded expected reason => [.notice ⟨expected, reason⟩]

/-- Content is printed as it stands in an account. -/
theorem write_content (colour : Bool) (lines : List String) :
    (lines.map BodyLine.content).map (BodyLine.write colour) = lines := by
  rw [List.map_map]
  exact List.map_id lines

/-- What is printed is accounted for, line by line. -/
theorem bodyLines_account (colour : Bool) (body : Body) :
    bodyLines colour body = (account colour body).map (BodyLine.write colour) := by
  unfold bodyLines account
  cases body.defect? with
  | some defect => rfl
  | none =>
    cases body with
    | text content =>
      simp only [List.map_append, write_content]
      split <;> rfl
    | list kind items =>
      simp only [List.map_append, write_content]
      split <;> rfl
    | table headers rows =>
      simp only [List.map_append, List.map_cons, write_content, tableLines]
      split <;> rfl
    | code language content => exact (write_content colour _).symm
    | degraded expected reason => rfl

/-- A text may say what a placeholder says; the account tells them apart. -/
example :
    account false (.text "Nothing reported.") = [.content "Nothing reported."] ∧
      account false (.text " ") = [.nothingReported, .content " "] := by
  decide +kernel

/-- A notice is printed exactly for a body that has it. -/
theorem notice_mem_account_iff (colour : Bool) (body : Body) (shown : Notice) :
    .notice shown ∈ account colour body ↔ body.notice? = some shown := by
  unfold account Body.notice?
  cases body.defect? with
  | some defect => simp [eq_comm]
  | none =>
    cases body with
    | degraded expected reason => simp [Body.degradation?, eq_comm]
    | _ => simp [Body.degradation?]

/-- A notice stands alone in the place of the body that has it. -/
theorem account_notice (colour : Bool) (body : Body) (shown : Notice)
    (has : body.notice? = some shown) : account colour body = [.notice shown] := by
  unfold Body.notice? at has
  unfold account
  cases defect : body.defect? with
  | some found =>
    rw [defect] at has
    rw [← Option.some.inj has]
  | none =>
    rw [defect] at has
    cases body with
    | degraded expected reason => rw [← Option.some.inj has]
    | _ => cases has

/-- What a report prints for a section, with its body accounted for: the header, and below it, if
the section is open, the lines of the body, the chart, the steps and the rationale. -/
structure IsAccounted (colour : Bool) (block : Section) (isOpen : Bool) (text : String) :
    Prop where
  closed : isOpen = false → text = "\n" ++ header colour block false ++ "\n"
  opened : isOpen = true →
    text = "\n" ++ header colour block true ++ "\n" ++
      unlines (((account colour block.body).map (BodyLine.write colour) ++
        chartLines colour block.chart ++ stepLines colour block.steps ++
        rationaleLines colour block.rationale).map (indent ++ ·))

/-- What is printed for a section is accounted for. -/
theorem block_accounted (colour : Bool) (shown : Section) (isOpen : Bool) :
    IsAccounted colour shown isOpen (block colour shown isOpen) where
  closed := by
    rintro rfl
    exact block_closed colour shown
  opened := by
    rintro rfl
    rw [block_open, bodyLines_account, List.map_append, List.map_append, List.map_append]

end Console

namespace Page

/-- The view of a body as what it is. -/
def shownView : Body → Markup
  | .text content => textView content
  | .list kind items => listView kind items
  | .table headers rows => tableView headers rows
  | .code language content => codeView language content
  | .degraded .. => .nothing

/-- The view of a notice. -/
def noticeView (shown : Notice) : Markup :=
  notice shown.expected shown.reason

/-- A page shows a notice in the place of a body that is not shown, and nothing else there. -/
theorem bodyView_notice (body : Body) :
    bodyView body =
      match body.notice? with
      | some shown => noticeView shown
      | none => shownView body := by
  unfold bodyView Body.notice?
  cases body.defect? with
  | some defect => rfl
  | none =>
    cases body with
    | degraded expected reason => rfl
    | _ => rfl

end Page

end CodeReport
