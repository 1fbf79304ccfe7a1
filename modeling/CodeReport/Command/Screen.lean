/-!
# What printed text comes to

Colours suit a terminal. Three environment variables say more. For a report, one
forces colours anywhere unless it is zero, one forbids them whatever it holds,
and one that is zero does without them. For words about the program itself, one
forbids them before another forces them, and neither counts if it is empty.
-/

namespace CodeReport.Command

/-- The environment variables of a run. -/
abbrev Variables := List (String × String)

/-- What printed text comes to. -/
structure Screen where
  /-- Whether colours are wanted. -/
  colour : Bool
  /-- Whether a terminal shows the text. -/
  terminal : Bool
  deriving Repr, DecidableEq

namespace Screen

/-- The variables that say whether colours are wanted. -/
def variableNames : List String := ["CLICOLOR", "CLICOLOR_FORCE", "NO_COLOR"]

/-- Whether colours are wanted by the variables, for a terminal or not. -/
def wantsColour (environment : Variables) (terminal : Bool) : Bool :=
  if (environment.lookup "CLICOLOR_FORCE").any (· != "0") then true
  else if (environment.lookup "NO_COLOR").isSome then false
  else terminal && environment.lookup "CLICOLOR" != some "0"

/-- Whether a variable is there and not empty. -/
def isGiven (environment : Variables) (name : String) : Bool :=
  (environment.lookup name).any (!·.isEmpty)

/-- Whether help and errors of usage are shown with emphasis, on a terminal or not. -/
def wantsEmphasis (environment : Variables) (terminal : Bool) : Bool :=
  if isGiven environment "NO_COLOR" then false
  else if isGiven environment "CLICOLOR_FORCE" then true
  else terminal && environment.lookup "CLICOLOR" != some "0"

/-- What printed text comes to in a run with some variables. -/
def ofVariables (environment : Variables) (terminal : Bool) : Screen :=
  ⟨wantsColour environment terminal, terminal⟩

end Screen

end CodeReport.Command
