/-!
# Text styles of a terminal

A style is switched on by an escape sequence before a text and off by a reset
behind it. A reset inside the text would end the style too early, so the style
is switched on again behind each of them. Without colour a text is as it is.
-/

namespace CodeReport.Console

/-- A style, by the parameters of its escape sequence. -/
structure Style where
  parameters : String
  deriving Repr, DecidableEq

namespace Style

def bold : Style := ⟨"1"⟩

def dimmed : Style := ⟨"2"⟩

def underlined : Style := ⟨"4"⟩

def red : Style := ⟨"31"⟩

def green : Style := ⟨"32"⟩

def yellow : Style := ⟨"33"⟩

def blue : Style := ⟨"34"⟩

def cyan : Style := ⟨"36"⟩

def boldYellow : Style := ⟨"1;33"⟩

/-- The sequence that switches a style on. -/
def start (style : Style) : List Char :=
  '\x1b' :: '[' :: style.parameters.toList ++ ['m']

/-- The sequence that switches all styles off. -/
def reset : List Char := ['\x1b', '[', '0', 'm']

/-- Characters with `again` put in behind every reset. -/
def restart (again : List Char) : List Char → List Char
  | '\x1b' :: '[' :: '0' :: 'm' :: rest => reset ++ again ++ restart again rest
  | character :: rest => character :: restart again rest
  | [] => []

end Style

/-- A text in a style, if there is colour. -/
def paint (colour : Bool) (style : Style) (text : String) : String :=
  if colour then
    String.ofList (style.start ++ Style.restart style.start text.toList ++ Style.reset)
  else text

end CodeReport.Console
