import CodeReport.Files.Tree
import CodeReport.Json.Reader

/-!
# Failures of a command

A failure names the file that it is about. Its summary says what was not done,
and its message also says why.
-/

namespace CodeReport.Command

/-- Why a command made no report. -/
inductive Failure where
  | unreadableAnswer (path : String) (fault : FileFault)
  | noJson (path : String) (error : Json.ReadError)
  | unreadableSource (path : String) (fault : FileFault)
  | unwritable (path : String) (fault : FileFault)
  /-- The session shows nothing. -/
  | noReport
  deriving Repr, DecidableEq

namespace Failure

/-- What was not done. -/
def summary : Failure → String
  | .unreadableAnswer path _ => s!"failed to read payload {path}"
  | .noJson path _ => s!"payload {path} is not valid JSON"
  | .unreadableSource path _ => s!"failed to read source file {path}"
  | .unwritable path _ => s!"failed to write report {path}"
  | .noReport => "no report was produced"

/-- Why it was not done. -/
def cause? : Failure → Option String
  | .unreadableAnswer _ fault => some fault.message
  | .noJson _ error => some error.message
  | .unreadableSource _ fault => some fault.message
  | .unwritable _ fault => some fault.message
  | .noReport => none

/-- What was not done and why. -/
def message (failure : Failure) : String :=
  match failure.cause? with
  | some cause => s!"{failure.summary}: {cause}"
  | none => failure.summary

end Failure

end CodeReport.Command
