/-!
# The style sheet of a page

Rules in paragraphs. A rule has a selector and declarations, and stands on
several lines or on one. Rules that hold for some screens only are put together
under their condition. The sheet is fixed: no report changes it.
-/

namespace CodeReport.Page.StyleSheet

/-- Properties with their values. -/
abbrev Declarations := List (String × String)

/-- One part of a style sheet. -/
inductive Item where
  | comment (text : String)
  | rule (selector : String) (declarations : Declarations)
  /-- A rule on one line. -/
  | line (selector : String) (declarations : Declarations)
  /-- Rules for some screens only. -/
  | media (condition : String) (rules : List (String × Declarations))
  deriving Repr

/-- Parts that stand together. -/
abbrev Paragraph := List Item

/-- Colours, and rules for the whole page. -/
def base : List Paragraph :=
  [ [.rule ":root"
      [("--bg-black", "#000000"), ("--bg-dark", "#0a0a0a"), ("--bg-mid", "#141414"),
       ("--text-bright", "#a8a8a8"), ("--text-dim", "#707070"), ("--text-muted", "#404040"),
       ("--border-subtle", "rgba(168, 168, 168, 0.1)"),
       ("--border-visible", "rgba(168, 168, 168, 0.2)"),
       ("--font-mono", "'JetBrains Mono', 'Fira Code', monospace"), ("--container-max", "960px"),
       ("--indigo", "#6366f1"), ("--indigo-bg", "rgba(99, 102, 241, 0.15)"),
       ("--amber", "#f59e0b"), ("--amber-bg", "rgba(245, 158, 11, 0.15)"), ("--rose", "#f43f5e"),
       ("--rose-bg", "rgba(244, 63, 94, 0.15)"), ("--emerald", "#10b981"),
       ("--emerald-bg", "rgba(16, 185, 129, 0.15)")]],
    [.rule "*, *::before, *::after"
      [("box-sizing", "border-box")]],
    [.rule "body"
      [("font-family", "var(--font-mono)"), ("background", "var(--bg-black)"),
       ("color", "var(--text-bright)"), ("line-height", "1.6"), ("margin", "0"),
       ("min-height", "100vh")]],
    [.rule "::selection"
      [("background", "rgba(168, 168, 168, 0.3)"), ("color", "var(--text-bright)")]] ]

/-- The column of the page and its icons. -/
def layout : List Paragraph :=
  [ [.comment "Layout",
     .rule ".report-shell"
      [("max-width", "var(--container-max)"), ("margin", "0 auto"), ("padding", "32px 24px 80px")]],
    [.rule ".report-title-bar"
      [("display", "flex"), ("align-items", "center"), ("justify-content", "space-between"),
       ("gap", "12px"), ("margin-bottom", "16px")]],
    [.rule ".report-title-bar h1"
      [("display", "flex"), ("align-items", "center"), ("gap", "10px"), ("font-size", "20px"),
       ("font-weight", "400"), ("margin", "0")]],
    [.rule ".icon"
      [("vertical-align", "middle"), ("flex-shrink", "0")]],
    [.rule ".icon-title"
      [("color", "var(--indigo)")]],
    [.rule ".icon-sm"
      [("width", "16px"), ("height", "16px"), ("flex-shrink", "0")]],
    [.line ".icon-amber" [("color", "var(--amber)")],
     .line ".icon-emerald" [("color", "var(--emerald)")]] ]

/-- The introduction and the warning. -/
def banner : List Paragraph :=
  [ [.comment "Introduction + banner",
     .rule ".introduction"
      [("display", "flex"), ("gap", "10px"), ("align-items", "flex-start"),
       ("padding", "14px 16px"), ("margin-bottom", "20px"), ("background", "var(--indigo-bg)"),
       ("border-left", "3px solid var(--indigo)"), ("border-radius", "6px"),
       ("font-size", "13px")]],
    [.rule ".warning-banner"
      [("padding", "12px 16px"), ("margin-bottom", "20px"), ("background", "var(--amber-bg)"),
       ("border-left", "3px solid var(--amber)"), ("border-radius", "6px"), ("font-size", "12px")]],
    [.rule ".warning-head"
      [("display", "flex"), ("align-items", "center"), ("gap", "8px"), ("color", "var(--amber)")]],
    [.rule ".warning-banner p"
      [("margin", "6px 0 0")]] ]

/-- The cards of sections. -/
def cards : List Paragraph :=
  [ [.comment "Section cards",
     .rule ".section-list"
      [("display", "flex"), ("flex-direction", "column"), ("gap", "16px")]],
    [.rule ".section-card"
      [("background", "var(--bg-dark)"), ("border", "1px solid var(--border-visible)"),
       ("border-radius", "8px"), ("padding", "16px 20px")]],
    [.rule ".section-card:hover"
      [("border-color", "rgba(168, 168, 168, 0.3)")]],
    [.rule ".error-card"
      [("border-color", "var(--rose)"), ("background", "var(--rose-bg)")]],
    [.rule ".degraded-card"
      [("border-style", "dashed")]],
    [.rule ".section-header"
      [("display", "flex"), ("align-items", "center"), ("justify-content", "space-between"),
       ("gap", "12px")]],
    [.rule ".section-toggle"
      [("display", "flex"), ("align-items", "center"), ("gap", "10px"), ("flex", "1"),
       ("background", "none"), ("border", "none"), ("padding", "0"), ("color", "inherit"),
       ("font", "inherit"), ("cursor", "pointer"), ("text-align", "left")]],
    [.rule ".section-toggle h2"
      [("font-size", "14px"), ("font-weight", "600"), ("margin", "0"), ("flex", "1")]],
    [.rule ".section-marker"
      [("width", "4px"), ("height", "20px"), ("background", "var(--indigo)"),
       ("border-radius", "2px")]],
    [.rule ".section-toggle .caret"
      [("transition", "transform 0.15s")]],
    [.rule ".section-toggle[aria-expanded=\"false\"] .caret"
      [("transform", "rotate(-90deg)")]],
    [.rule ".section-body"
      [("margin-top", "12px")]],
    [.rule ".section-body.collapsed"
      [("display", "none")]] ]

/-- The badges of severities. -/
def badges : List Paragraph :=
  [ [.comment "Badges",
     .rule ".badge"
      [("display", "inline-flex"), ("align-items", "center"), ("gap", "4px"),
       ("padding", "2px 10px"), ("border-radius", "999px"), ("font-size", "11px"),
       ("font-weight", "600"), ("white-space", "nowrap")]],
    [.line ".badge-indigo" [("background", "var(--indigo-bg)"), ("color", "var(--indigo)")],
     .line ".badge-amber" [("background", "var(--amber-bg)"), ("color", "var(--amber)")],
     .line ".badge-rose" [("background", "var(--rose-bg)"), ("color", "var(--rose)")],
     .line ".badge-emerald" [("background", "var(--emerald-bg)"), ("color", "var(--emerald)")]] ]

/-- Texts and lists. -/
def texts : List Paragraph :=
  [ [.comment "Text + lists",
     .rule ".text-block p"
      [("margin", "0 0 8px"), ("font-size", "13px"), ("white-space", "pre-wrap")]],
    [.rule ".content-list"
      [("margin", "0"), ("padding-left", "22px"), ("font-size", "13px")]],
    [.rule ".content-list li"
      [("margin-bottom", "6px")]],
    [.rule ".content-list.bullet li::marker"
      [("color", "var(--indigo)")]],
    [.rule ".content-list.numbered li::marker"
      [("color", "var(--indigo)"), ("font-weight", "600")]] ]

/-- Tables. -/
def tables : List Paragraph :=
  [ [.comment "Tables",
     .rule ".table-wrap"
      [("overflow-x", "auto")]],
    [.rule "table"
      [("border-collapse", "collapse"), ("width", "100%"), ("margin", "4px 0"),
       ("font-size", "12px")]],
    [.rule "th, td"
      [("border", "1px solid var(--border-visible)"), ("padding", "8px 10px"),
       ("text-align", "left")]],
    [.rule "th"
      [("background", "var(--bg-mid)"), ("color", "var(--text-dim)"), ("font-weight", "600"),
       ("font-size", "10px"), ("text-transform", "uppercase"), ("letter-spacing", "0.1em")]],
    [.rule "td"
      [("background", "var(--bg-dark)")]] ]

/-- Code and its copy button. -/
def code : List Paragraph :=
  [ [.comment "Code",
     .rule ".code-block"
      [("border", "1px solid var(--border-visible)"), ("border-radius", "6px"),
       ("overflow", "hidden")]],
    [.rule ".code-head"
      [("display", "flex"), ("justify-content", "space-between"), ("align-items", "center"),
       ("padding", "6px 12px"), ("background", "var(--bg-mid)"), ("font-size", "11px"),
       ("color", "var(--text-dim)")]],
    [.rule ".code-block pre"
      [("margin", "0"), ("padding", "14px"), ("overflow-x", "auto"),
       ("background", "var(--bg-black)")]],
    [.rule ".code-block code"
      [("font-family", "var(--font-mono)"), ("font-size", "12px"),
       ("color", "var(--text-bright)")]],
    [.rule ".copy-btn"
      [("display", "inline-flex"), ("align-items", "center"), ("gap", "6px"),
       ("background", "none"), ("border", "1px solid var(--border-visible)"),
       ("border-radius", "4px"), ("padding", "2px 8px"), ("color", "var(--text-dim)"),
       ("font", "inherit"), ("font-size", "11px"), ("cursor", "pointer")]],
    [.rule ".copy-btn:hover"
      [("color", "var(--text-bright)")]],
    [.rule ".copy-btn.copied"
      [("color", "var(--emerald)"), ("border-color", "var(--emerald)")]] ]

/-- Charts and steps. -/
def steps : List Paragraph :=
  [ [.comment "Step cards",
     .rule ".score-chart"
      [("margin-top", "12px")]],
    [.rule ".score-chart summary"
      [("cursor", "pointer"), ("color", "var(--indigo)"), ("font-size", "12px")]],
    [.rule ".score-chart svg"
      [("display", "block"), ("max-width", "100%"), ("height", "auto"), ("margin-top", "8px")]],
    [.line ".score-track" [("fill", "var(--border-subtle)")],
     .rule ".score-label, .score-value"
      [("fill", "var(--text-dim)"), ("font-family", "var(--font-mono)"), ("font-size", "11px")]],
    [.rule ".step-cards"
      [("display", "flex"), ("flex-direction", "column"), ("gap", "8px"), ("margin-top", "12px")]],
    [.rule ".step-card"
      [("display", "flex"), ("gap", "12px"), ("align-items", "flex-start"),
       ("padding", "10px 12px"), ("background", "var(--indigo-bg)"), ("border-radius", "6px"),
       ("font-size", "13px")]],
    [.rule ".step-card p"
      [("margin", "0")]],
    [.rule ".step-number"
      [("display", "inline-flex"), ("align-items", "center"), ("justify-content", "center"),
       ("width", "24px"), ("height", "24px"), ("border-radius", "50%"),
       ("background", "var(--bg-mid)"), ("color", "var(--indigo)"), ("font-weight", "600"),
       ("flex-shrink", "0")]] ]

/-- Why a section matters. -/
def rationale : List Paragraph :=
  [ [.comment "Why this matters",
     .rule ".why-panel"
      [("margin-top", "14px"), ("padding", "12px 14px"), ("background", "var(--bg-mid)"),
       ("border-left", "3px solid var(--indigo)"), ("border-radius", "6px"),
       ("font-size", "12px")]],
    [.rule ".why-head"
      [("display", "flex"), ("align-items", "center"), ("gap", "8px")]],
    [.rule ".why-head h4"
      [("margin", "0"), ("font-size", "12px"), ("font-weight", "600")]],
    [.rule ".why-text"
      [("margin", "4px 0 0"), ("color", "var(--text-dim)")]],
    [.rule ".why-block"
      [("margin-top", "10px")]],
    [.rule ".confidence"
      [("display", "flex"), ("align-items", "center"), ("gap", "8px"), ("margin-top", "4px")]],
    [.rule ".confidence-track"
      [("flex", "1"), ("height", "6px"), ("background", "var(--bg-dark)"),
       ("border-radius", "3px"), ("overflow", "hidden")]],
    [.rule ".confidence-fill"
      [("height", "100%"), ("background", "var(--emerald)"), ("border-radius", "3px")]],
    [.rule ".confidence-value"
      [("font-size", "11px"), ("color", "var(--text-dim)")]],
    [.rule ".reference-list"
      [("margin", "4px 0 0"), ("padding-left", "18px")]],
    [.rule ".reference-list a"
      [("color", "var(--indigo)"), ("text-decoration", "none")]],
    [.rule ".reference-list a:hover"
      [("text-decoration", "underline")]] ]

/-- What takes the place of a body that is not shown. -/
def degraded : List Paragraph :=
  [ [.comment "Degraded placeholder",
     .rule ".degraded"
      [("padding", "10px 12px"), ("border", "1px dashed var(--amber)"), ("border-radius", "6px"),
       ("color", "var(--amber)"), ("font-size", "12px")]],
    [.rule ".degraded p"
      [("margin", "4px 0 0")]] ]

/-- The end of the page. -/
def footer : List Paragraph :=
  [ [.comment "Footer",
     .rule ".report-footer"
      [("display", "flex"), ("justify-content", "space-between"), ("gap", "12px"),
       ("margin-top", "32px"), ("padding-top", "12px"),
       ("border-top", "1px solid var(--border-visible)"), ("font-size", "11px"),
       ("color", "var(--text-muted)")]],
    [.rule ".model-info"
      [("display", "inline-flex"), ("align-items", "center"), ("gap", "6px")]] ]

/-- Muted text, and narrow screens. -/
def utility : List Paragraph :=
  [ [.comment "Utility",
     .rule ".muted"
      [("color", "var(--text-muted)")]],
    [.media "@media (max-width: 640px)"
      [(".report-shell", [("padding", "20px 12px 60px")]),
        (".report-title-bar", [("flex-direction", "column"), ("align-items", "flex-start")])]] ]

/-- The whole sheet. -/
def sheet : List Paragraph :=
  base ++ layout ++ banner ++ cards ++ badges ++ texts ++ tables ++ code ++ steps ++ rationale ++
    degraded ++ footer ++ utility

/-- A declaration as it is written. -/
def writeDeclaration (declaration : String × String) : String :=
  declaration.1 ++ ": " ++ declaration.2 ++ ";"

/-- The lines of a rule. -/
def ruleLines (selector : String) (declarations : Declarations) : List String :=
  (selector ++ " \x7b") :: declarations.map (fun one => "    " ++ writeDeclaration one) ++ ["\x7d"]

/-- The lines of a part. -/
def Item.lines : Item → List String
  | .comment text => ["/* " ++ text ++ " */"]
  | .rule selector declarations => ruleLines selector declarations
  | .line selector declarations =>
    [selector ++ " \x7b " ++ " ".intercalate (declarations.map writeDeclaration) ++ " \x7d"]
  | .media condition rules =>
    (condition ++ " \x7b") ::
      rules.flatMap (fun rule => (ruleLines rule.1 rule.2).map ("    " ++ ·)) ++ ["\x7d"]

/-- A paragraph as it is written. -/
def writeParagraph (paragraph : Paragraph) : String :=
  "\n".intercalate (paragraph.flatMap Item.lines)

/-- The sheet as it is written, between two line feeds. -/
def text : String :=
  "\n" ++ "\n\n".intercalate (sheet.map writeParagraph) ++ "\n"

end CodeReport.Page.StyleSheet
