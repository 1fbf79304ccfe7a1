import CodeReport.Answer.Reader
import CodeReport.Service.Request

/-!
# Failed calls of the analysis service

A call that failed is turned into an answer that says so, so that whatever
happens makes a report. If the service refused a request with an answer of its
own that has a fault, that fault's message is shown; else the failure is shown
in its own words.
-/

namespace CodeReport

/-- Why a call brought no answer. -/
inductive CallFailure where
  /-- The request did not get through. -/
  | transport (url detail : String)
  /-- The service refused the request. -/
  | status (code : Nat) (body : String)
  /-- The body is no JSON, for the cause given. -/
  | decode (cause : String)
  deriving Repr, DecidableEq

namespace CallFailure

/-- The wording of a failure. -/
def message : CallFailure → String
  | .transport url detail => s!"request to {url} failed: {detail}"
  | .status code body => s!"analysis service answered {code}: {body}"
  | .decode cause => s!"could not decode analysis response: {cause}"

/-- The answer in the body of a refusal, if it has a fault. -/
def refusal? : CallFailure → Option (Answer × Answer.Fault)
  | .status _ body =>
    match Answer.ofText body with
    | .ok answer => answer.fault.map fun fault => (answer, fault)
    | .error _ => none
  | _ => none

/-- The answer that stands for a failure. Of a refusal, the message and the model are kept. -/
def toAnswer (failure : CallFailure) : Answer :=
  match failure.refusal? with
  | some (answer, fault) => { Answer.ofFailure fault.message with model := answer.model }
  | none => Answer.ofFailure failure.message

end CallFailure

/-- A way to send requests. -/
abbrev Exchange := (url : String) → Request → Except CallFailure Answer

namespace Exchange

/-- No connection is ever opened: every request fails before it is sent. -/
def disconnected : Exchange := fun url _ => .error (.transport url "builder error")

/-- The answer to a request, also if the call fails. -/
def answer (exchange : Exchange) (address : ServiceAddress) (request : Request) : Answer :=
  match exchange (address.url request.mode) request with
  | .ok answer => answer
  | .error failure => failure.toAnswer

end Exchange

end CodeReport
