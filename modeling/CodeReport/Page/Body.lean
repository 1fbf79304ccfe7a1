import CodeReport.Page.Icon
import CodeReport.Report.Basic
import CodeReport.Text.Lines

/-!
# Section bodies on a page

One view for each kind of body. A body that cannot be shown as it was declared,
or a table with a defect, is replaced by a notice that says why.
-/

namespace CodeReport.Page

open Markup

/-- What stands in the place of a body without content. -/
def nothingReported : Markup :=
  classed .p "muted" [.text "Nothing reported."]

/-- A text, one element for each of its paragraphs. -/
def textView (content : String) : Markup :=
  match Text.paragraphs content with
  | [] => nothingReported
  | paragraphs =>
    classed .div "text-block"
      (listed (paragraphs.map fun paragraph => plain .p [.text paragraph]))

/-- A list in its order. -/
def listView (kind : ListKind) (items : List String) : Markup :=
  if items.isEmpty then nothingReported
  else
    let entries := listed (items.map fun item => plain .li [.text item])
    match kind with
    | .bullet => classed .ul "content-list bullet" entries
    | .numbered => classed .ol "content-list numbered" entries

/-- The cells of one row. -/
def cells (tag : Tag) (texts : List String) : List Markup :=
  listed (texts.map fun text => plain tag [.text text])

/-- The row of a table without rows, as wide as its headers. -/
def emptyRow (width : Nat) : Markup :=
  plain .tr [.element .td [(.colspan, toString width), (.classes, "muted")] [.text "No data."]]

/-- A table: the headers, then one row for each entry. -/
def tableView (headers : List String) (rows : List (List String)) : Markup :=
  classed .div "table-wrap" [
    classed .table "data-table" [
      plain .thead [plain .tr (cells .th headers)],
      plain .tbody
        (listed (rows.map fun row => plain .tr (cells .td row)) ++
          [if rows.isEmpty then emptyRow headers.length else .marker])]]

/-- Code with the name of its language and a button that copies it. -/
def codeView (language : Option String) (content : String) : Markup :=
  classed .div "code-block" [
    classed .div "code-head" [
      classed .span "code-lang" [.text (language.getD "")],
      .element .button
        [(.dataCopy, content), (.title, "Copy code"), (.classes, "copy-btn")]
        [Icon.copy.decoration "14" "", classed .span "copy-label" [.text "Copy"]]],
    plain .pre [plain .code [.text content]]]

/-- The notice in the place of a body that is not shown. -/
def notice (expected : Section.Kind) (reason : String) : Markup :=
  .element .div [(.dataExpected, expected.name), (.classes, "degraded")] [
    plain .strong [.text s!"Could not display this {expected.name} section"],
    classed .p "muted" [.text reason]]

/-- A body. -/
def bodyView (body : Section.Body) : Markup :=
  match body.defect? with
  | some defect => notice .table defect.message
  | none =>
    match body with
    | .text content => textView content
    | .list kind items => listView kind items
    | .table headers rows => tableView headers rows
    | .code language content => codeView language content
    | .degraded expected reason => notice expected reason

end CodeReport.Page
