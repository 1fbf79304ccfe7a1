import CodeReport.Proofs.Assembly.Outcome
import CodeReport.Proofs.Text.Blank
import CodeReport.Service.Failure

/-!
# A failed call makes one section

Whatever a call failed of, its report is one section that says so. A service that
refuses a request may give a reason, as a text or as an object. Its message is shown
then, and the model that it names; any other failure is shown in its own words.
Nothing else of the body is looked at, be it sections, code or a claim of success.

In an answer an object is an error that was found in the code, which is no failure in
debug mode. In a refusal it is the reason of the refusal, in either mode.
-/

namespace CodeReport

open Json (Value Members)

namespace Json.Members

/-- A text that is read without its blank ends is not blank. -/
theorem isBlankText_trimmedText? (members : Members) (name text : String)
    (read : members.trimmedText? name = some text) : Text.isBlankText text = false := by
  obtain ⟨trimmed, kept⟩ := Option.filter_eq_some_iff.mp read
  obtain ⟨whole, _, rfl⟩ := Option.map_eq_some_iff.mp trimmed
  exact Text.isBlankText_trim whole (by simpa using kept)

end Json.Members

namespace Answer.Fault

/-- The message of an error: a text that is not blank gives itself, and an object its message, its
description, or that it is unknown. No other value is an error. -/
inductive Gives : Value → String → Prop where
  | text (message : String) (written : Text.isBlankText message = false) :
    Gives (.string message) message
  | object (members : Members) :
    Gives (.object members)
      (((members.trimmedText? "message").or (members.trimmedText? "description")).getD unknownError)

/-- The fault that is read in an error has the message that the error gives. -/
theorem gives_iff (error : Value) (message : String) :
    Gives error message ↔ ∃ fault, ofJson? error = some fault ∧ fault.message = message := by
  constructor
  · rintro (⟨_, written⟩ | ⟨members⟩)
    · exact ⟨.failed message, by simp [ofJson?, written], rfl⟩
    · exact ⟨_, rfl, rfl⟩
  · rintro ⟨fault, read, rfl⟩
    cases error with
    | string text =>
      cases written : Text.isBlankText text with
      | true => simp [ofJson?, written] at read
      | false =>
        obtain rfl : Fault.failed text = fault := by simpa [ofJson?, written] using read
        exact .text text written
    | object members =>
      cases read
      exact .object members
    | _ => cases read

/-- No error gives a blank message. -/
theorem Gives.not_blank {error : Value} {message : String} (gives : Gives error message) :
    Text.isBlankText message = false := by
  cases gives with
  | text _ written => exact written
  | object members =>
    cases own : (members.trimmedText? "message").or (members.trimmedText? "description") with
    | none => decide
    | some text =>
      rcases Option.or_eq_some_iff.mp own with first | ⟨_, second⟩
      · exact members.isBlankText_trimmedText? "message" text first
      · exact members.isBlankText_trimmedText? "description" text second

end Answer.Fault

open Answer (Fault)

namespace CallFailure

/-- What the body of a refusal accounts for it with: the message of its error and its model. The
body is an object, written in JSON. -/
inductive Accounts (body : String) : String → Option String → Prop where
  | intro (members : Members) (error : Value) (message : String)
    (read : Value.ofText body = .ok (.object members))
    (given : members.get? "error" = some error) (gives : Fault.Gives error message) :
    Accounts body message (members.trimmedText? "model")

/-- The message that a failure is told with, and the model. Where the service gives no account, the
failure is told in its own words. -/
inductive Told : CallFailure → String → Option String → Prop where
  | account (code : Nat) (body message : String) (model : Option String)
    (accounts : Accounts body message model) : Told (.status code body) message model
  | wording (failure : CallFailure)
    (silent : ∀ code body, failure = .status code body →
      ∀ message model, ¬ Accounts body message model) : Told failure failure.message none

/-- A body accounts for a refusal exactly if an answer with a fault is read in it. -/
theorem accounts_iff (code : Nat) (body message : String) (model : Option String) :
    Accounts body message model ↔
      ∃ answer fault, (CallFailure.status code body).refusal? = some (answer, fault) ∧
        fault.message = message ∧ answer.model = model := by
  constructor
  · rintro ⟨members, error, message, read, given, gives⟩
    obtain ⟨fault, isFault, same⟩ := (Fault.gives_iff error message).mp gives
    refine ⟨Answer.ofMembers members, fault, ?_, same, rfl⟩
    simp [refusal?, Answer.ofText, read, Except.map, Answer.ofJson, Answer.ofMembers, given, isFault]
  · rintro ⟨answer, fault, refused, rfl, rfl⟩
    cases read : Value.ofText body with
    | error cause => simp [refusal?, Answer.ofText, read, Except.map] at refused
    | ok value =>
      simp only [refusal?, Answer.ofText, read, Except.map] at refused
      obtain ⟨faulty, isFault, same⟩ := Option.map_eq_some_iff.mp refused
      obtain ⟨rfl, rfl⟩ := Prod.mk.inj same
      cases value with
      | object members =>
        obtain ⟨error, given, isError⟩ := Option.bind_eq_some_iff.mp isFault
        exact .intro members error _ read given ((Fault.gives_iff _ _).mpr ⟨_, isError, rfl⟩)
      | _ => cases isFault

/-- An accounted refusal becomes the answer that fails with the account. -/
theorem toAnswer_account (code : Nat) (body message : String) (model : Option String)
    (accounts : Accounts body message model) :
    (CallFailure.status code body).toAnswer = { Answer.ofFailure message with model } := by
  obtain ⟨answer, fault, refused, rfl, rfl⟩ := (accounts_iff code body message model).mp accounts
  rw [toAnswer, refused]

/-- A failure without an account becomes the answer that fails with the failure's own words. -/
theorem toAnswer_wording (failure : CallFailure)
    (silent : ∀ code body, failure = .status code body →
      ∀ message model, ¬ Accounts body message model) :
    failure.toAnswer = Answer.ofFailure failure.message := by
  unfold toAnswer
  cases refused : failure.refusal? with
  | none => rfl
  | some found =>
    obtain ⟨answer, fault⟩ := found
    cases failure with
    | status code body =>
      have accounts := (accounts_iff code body _ _).mpr ⟨answer, fault, refused, rfl, rfl⟩
      exact absurd accounts (silent code body rfl _ _)
    | transport url detail => cases refused
    | decode cause => cases refused

/-- Every failure is told with some message. -/
theorem exists_told (failure : CallFailure) : ∃ message model, Told failure message model := by
  by_cases accounted : ∃ code body message model,
      failure = .status code body ∧ Accounts body message model
  · obtain ⟨code, body, message, model, rfl, accounts⟩ := accounted
    exact ⟨message, model, .account code body message model accounts⟩
  · refine ⟨failure.message, none, .wording failure ?_⟩
    rintro code body rfl message model accounts
    exact accounted ⟨code, body, message, model, rfl, accounts⟩

/-- A failure becomes the answer that fails with what the failure is told with. -/
theorem Told.toAnswer {failure : CallFailure} {message : String} {model : Option String}
    (told : Told failure message model) :
    failure.toAnswer = { Answer.ofFailure message with model } := by
  cases told with
  | account code body _ _ accounts => exact toAnswer_account code body message model accounts
  | wording _ silent => exact toAnswer_wording failure silent

/-- A failure is never worded by blanks alone: its wording begins with a word. -/
theorem message_not_blank (failure : CallFailure) : Text.isBlankText failure.message = false := by
  cases failure with
  | transport url detail =>
    have begun := Text.not_blank_append "request to " url (by decide +kernel)
    exact Text.not_blank_append _ _ (Text.not_blank_append _ _ begun)
  | status code body =>
    have begun := Text.not_blank_append "analysis service answered " (toString code)
      (by decide +kernel)
    exact Text.not_blank_append _ _ (Text.not_blank_append _ _ begun)
  | decode cause =>
    exact Text.not_blank_append "could not decode analysis response: " cause (by decide +kernel)

/-- A message that is told of a failed call is never blank, wherever it comes from. -/
theorem Told.not_blank {failure : CallFailure} {message : String} {model : Option String}
    (told : Told failure message model) : Text.isBlankText message = false := by
  cases told with
  | account code body _ _ accounts =>
    cases accounts with
    | intro members error _ read given gives => exact gives.not_blank
  | wording _ silent => exact failure.message_not_blank

/-- An answer that stands for a failure shows its message in either mode, and nothing else. -/
theorem ofAnswer_ofFailure (message : String) (model : Option String) (mode : Mode) :
    Report.ofAnswer { Answer.ofFailure message with model } mode =
      { title := mode.reportTitle
        introduction := mode.defaultIntroduction
        mode
        warning := none
        model
        sections := [Answer.reportedFailure message] } := by
  have failure : Answer.IsFailure { Answer.ofFailure message with model } mode :=
    .inl ⟨message, rfl⟩
  have shown := Answer.toSections_of_failure _ mode failure
  rw [Report.ofAnswer, shown]
  rfl

/-- Two refusals that give the same error and name the same model become the same answer, whatever
else their bodies hold. -/
theorem toAnswer_agreeing (leftCode rightCode : Nat) (leftBody rightBody : String)
    (left right : Members) (readLeft : Value.ofText leftBody = .ok (.object left))
    (readRight : Value.ofText rightBody = .ok (.object right))
    (sameError : left.get? "error" = right.get? "error")
    (sameModel : left.get? "model" = right.get? "model") (error : Value) (message : String)
    (given : left.get? "error" = some error) (gives : Fault.Gives error message) :
    (CallFailure.status leftCode leftBody).toAnswer =
      (CallFailure.status rightCode rightBody).toAnswer := by
  have leftAccount : Accounts leftBody message (left.trimmedText? "model") :=
    .intro left error message readLeft given gives
  have rightAccount : Accounts rightBody message (right.trimmedText? "model") :=
    .intro right error message readRight (sameError ▸ given) gives
  have modelsAgree : left.trimmedText? "model" = right.trimmedText? "model" := by
    rw [Members.trimmedText?, Members.trimmedText?, sameModel]
  rw [toAnswer_account _ _ _ _ leftAccount, toAnswer_account _ _ _ _ rightAccount, modelsAgree]

end CallFailure

end CodeReport
