import CodeReport.Viewing.CopyNotice

/-!
# The script of a page

Opening and closing of cards and the copying of code, in the browser. A button
finds the body of its card by the section's key. How long the notice of a copy
shows is the time of `CopyNotice`.
-/

namespace CodeReport.Page.Script

/-- The lines that open and close cards. -/
def toggleLines : List String :=
  [ "(() => \x7b",
    "  // 1. Section toggle - flips one card, never its siblings",
    "  document.querySelectorAll('.section-toggle[data-toggle]').forEach(btn => \x7b",
    "      btn.addEventListener('click', () => \x7b",
    "          const key = btn.dataset.toggle;",
    "          const body = document.querySelector(`[data-section-body=\"$\x7bkey\x7d\"]`);",
    "          if (!body) return;",
    "          const collapsed = body.classList.toggle('collapsed');",
    "          btn.setAttribute('aria-expanded', collapsed ? 'false' : 'true');",
    "      \x7d);",
    "  \x7d);",
    "" ]

/-- The lines that copy code, where the notice shows for some milliseconds. -/
def copyLines (milliseconds : Nat) : List String :=
  [ "  // 2. Copy button - one restartable 2s timer per button",
    "  const COPY_FEEDBACK_MS = " ++ toString milliseconds ++ ";",
    "  const timers = new WeakMap();",
    "  document.querySelectorAll('.copy-btn[data-copy]').forEach(btn => \x7b",
    "      const label = btn.querySelector('.copy-label');",
    "      btn.addEventListener('click', () => \x7b",
    "          const text = btn.dataset.copy;",
    "          const done = () => \x7b",
    "              clearTimeout(timers.get(btn));",
    "              btn.classList.add('copied');",
    "              if (label) label.textContent = 'Copied';",
    "              timers.set(btn, setTimeout(() => \x7b",
    "                  btn.classList.remove('copied');",
    "                  if (label) label.textContent = 'Copy';",
    "              \x7d, COPY_FEEDBACK_MS));",
    "          \x7d;",
    "          if (navigator.clipboard) \x7b",
    "              navigator.clipboard.writeText(text).then(done, () => \x7b\x7d);",
    "          \x7d",
    "      \x7d);",
    "  \x7d);",
    "\x7d)();" ]

/-- The script as it is written, between two line feeds. -/
def text : String :=
  "\n" ++ "\n".intercalate (toggleLines ++ copyLines CopyNotice.holdMilliseconds) ++ "\n"

end CodeReport.Page.Script
