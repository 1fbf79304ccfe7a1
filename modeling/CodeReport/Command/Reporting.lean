import CodeReport.Answer.Reader
import CodeReport.Command.Failure
import CodeReport.Command.Target
import CodeReport.Files.Access
import CodeReport.Service.Failure
import CodeReport.Settings.Language
import CodeReport.Settings.Resolve

/-!
# Making a report

The two things a command does. It shows an answer that was saved in a file, or
it sends a source file to the service and shows what comes back. Both install
the answer in a session, under the only ticket that was issued, and deliver the
report that the session shows.

Nothing is printed or written before the report is complete.
-/

namespace CodeReport

/-- A session that asked for one answer and got it. -/
def Session.ofAnswer (answer : Answer) (mode : Mode) : Session :=
  let ticket := Tickets.none.next
  (Session.empty.apply Tickets.none.issue ticket answer mode).2

namespace Command

variable {m : Type → Type} [Monad m]

/-- The answer in a file, from what reading the file brought. -/
def answerOfFile (path : String) (content : Except FileFault Bytes) : Except Failure Answer :=
  match content.bind textOfBytes with
  | .error fault => .error (.unreadableAnswer path fault)
  | .ok text => (Answer.ofText text).mapError (.noJson path)

/-- The answer in the file that a path leads to. -/
def loadAnswer (access : Access m) (path : String) : m (Except Failure Answer) := do
  return answerOfFile path (← access.read path)

/-- Write a text to a file, or print it if there is none. -/
def put (access : Access m) (out : Option String) (text : String) : m (Except Failure Unit) :=
  match out with
  | none => do
    access.print text
    return .ok ()
  | some path => do
    return (← access.write path (bytesOfText text)).mapError (.unwritable path)

/-- Deliver the report that a session shows. -/
def deliver (access : Access m) (screen : Screen) (target : Target) (session : Session) :
    m (Except Failure Unit) :=
  match session.report with
  | none => return .error .noReport
  | some report =>
    let shown := session.closeMeant report target.collapse
    put access target.out (target.text screen report shown.openness)

/-- Show an answer that was saved in a file. -/
def renderSaved (access : Access m) (screen : Screen) (path : String) (mode : Mode)
    (target : Target) : m (Except Failure Unit) := do
  match ← loadAnswer access path with
  | .error failure => return .error failure
  | .ok answer => deliver access screen target (.ofAnswer answer mode)

/-- The language of a source file: the one that is set, or that its path tells, or the assumed
    one. -/
def languageOf (settings : Settings) (path : String) : String :=
  (settings.language.or (Language.ofPath? path)).getD Language.assumed

/-- The source code in a file, from what reading the file brought. -/
def codeOfFile (path : String) (content : Except FileFault Bytes) : Except Failure String :=
  (content.bind textOfBytes).mapError (.unreadableSource path)

/-- The request for a source file. -/
def requestFor (settings : Settings) (path code : String) : Request :=
  ⟨code, languageOf settings path, settings.mode⟩

/-- Send a source file to the service and show what comes back. -/
def analyzeFile (access : Access m) (screen : Screen) (exchange : Exchange) (path : String)
    (settings : Settings) (target : Target) : m (Except Failure Unit) := do
  match codeOfFile path (← access.read path) with
  | .error failure => return .error failure
  | .ok code =>
    let address := ServiceAddress.ofText settings.endpoint
    let answer := exchange.answer address (requestFor settings path code)
    deliver access screen target (.ofAnswer answer settings.mode)

end Command

end CodeReport
