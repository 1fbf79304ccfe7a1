import CodeReport.Viewing.Sharing
import Mathlib.Algebra.Ring.Parity
import Mathlib.Data.Finset.Card
import Mathlib.Data.List.DropRight

/-!
# What a session remembers of a section

Whether a section is open follows from a part of what happened. An installation opens
all sections, so nothing before the last one counts. Of the steps behind it, those
that touch the section count: the toggles of its key and the closings that list it.

The flags themselves do not tell what happened: a key that was toggled twice has a
flag and one that nobody touched has none, though both are open. So what is open is
followed from step to step: an installation opens every section, a touch changes its
own section alone, and no other step changes any. The number of closed sections is a
number of flags. No key has two, so this is the number of closed keys as well.

The counter may stand anywhere when the session begins, and tickets may come from
anywhere, for neither is needed to know what is open.
-/

namespace CodeReport

namespace Openness

/-- What is told of a toggle is whether the section is open behind it. -/
theorem flip_fst (openness : Openness) (key : Section.Key) :
    (openness.flip key).1 = (openness.toggle key).isOpen key := by
  rw [isOpen_toggle, if_pos rfl]
  rfl

/-- A flag is found exactly if it is there, since no key has two. -/
theorem lookup_eq_some_iff (flags : List (Section.Key × Bool))
    (distinct : (flags.map Prod.fst).Nodup) (key : Section.Key) (isOpen : Bool) :
    flags.lookup key = some isOpen ↔ (key, isOpen) ∈ flags := by
  induction flags with
  | nil => simp
  | cons first rest inductionHypothesis =>
    obtain ⟨name, flag⟩ := first
    rw [List.map_cons, List.nodup_cons] at distinct
    by_cases same : key = name
    · subst same
      have absent : (key, isOpen) ∉ rest := by
        intro member
        exact distinct.1 (List.mem_map.mpr ⟨(key, isOpen), member, rfl⟩)
      simp [absent, eq_comm]
    · have differs : (key == name) = false := beq_false_of_ne same
      simp [List.lookup_cons, differs, same, inductionHypothesis distinct.2]

/-- The keys of the closed sections. -/
def closedKeys (openness : Openness) : Finset Section.Key :=
  ((openness.flags.filter fun flag => !flag.2).map Prod.fst).toFinset

/-- A section is closed exactly if its key is one of the closed ones. -/
theorem mem_closedKeys (openness : Openness) (key : Section.Key) :
    key ∈ openness.closedKeys ↔ openness.isOpen key = false := by
  have found := lookup_eq_some_iff openness.flags openness.distinct key false
  have closed : openness.isOpen key = false ↔ openness.flags.lookup key = some false := by
    unfold isOpen
    cases openness.flags.lookup key with
    | none => simp
    | some flag => simp
  simp [closedKeys, closed, found]

/-- The number of closed sections counts each key once. -/
theorem card_closedKeys (openness : Openness) :
    openness.closedKeys.card = openness.closedCount := by
  have distinct : ((openness.flags.filter fun flag => !flag.2).map Prod.fst).Nodup :=
    openness.distinct.sublist (List.filter_sublist.map Prod.fst)
  rw [closedKeys, List.toFinset_card_of_nodup distinct, List.length_map, closedCount,
    List.countP_eq_length_filter]

end Openness

namespace Sharing

/-- Steps in a row, from one state on. -/
inductive Steps (first : State) : List Event → State → Prop where
  | start : Steps first [] first
  | next (past : List Event) (before after : State) (event : Event)
      (steps : Steps first past before) (step : Step before event after) :
      Steps first (past ++ [event]) after

/-- What a step does to a single section. -/
inductive Touch where
  | toggled
  | closed
  deriving Repr, DecidableEq

/-- What a step does to the section with a key, if it touches it. A closing that lists a key twice
touches it once. -/
def Event.touch? (key : Section.Key) : Event → Option Touch
  | .toggled other => if other = key then some .toggled else none
  | .closed keys => if key ∈ keys then some .closed else none
  | _ => none

/-- The steps behind the last installation, or all steps if there is none. -/
def sinceInstalled (events : List Event) : List Event :=
  events.rtakeWhile fun event => event.installation?.isNone

/-- What was done to the section with a key since the last installation, in order. -/
def touches (key : Section.Key) (events : List Event) : List Touch :=
  (sinceInstalled events).filterMap (Event.touch? key)

/-- What was done behind the last closing, or all of it if there is none. -/
def sinceClosed (touched : List Touch) : List Touch :=
  touched.rtakeWhile (· ≠ .closed)

/-- A section that was touched so is closed: it was closed and then toggled an even number of times,
or it was never closed and toggled an odd number of times. -/
def LeavesClosed (touched : List Touch) : Prop :=
  .closed ∈ touched ∧ Even ((sinceClosed touched).count .toggled) ∨
    .closed ∉ touched ∧ Odd (touched.count .toggled)

/-- An installation opens all sections. -/
theorem Step.opens (before after : State) (event : Event) (arrival : Arrival)
    (key : Section.Key) (step : Step before event after)
    (installs : event.installation? = some arrival) : after.session.openness.isOpen key = true := by
  cases step with
  | apply tickets session arrived =>
    cases decided : Session.verdict tickets arrived.ticket with
    | installed =>
      simp only [Session.apply, decided]
      rfl
    | stale => simp [Session.apply, decided, Event.installation?] at installs
  | settle tickets session arrived outcome =>
    cases outcome with
    | installed => rfl
    | stale => cases installs
  | _ => cases installs

/-- Any other step does to a section what its touch says, and nothing if there is none. -/
theorem Step.isOpen_after (before after : State) (event : Event) (key : Section.Key)
    (step : Step before event after) (keeps : event.installation? = none) :
    after.session.openness.isOpen key =
      match event.touch? key with
      | some .toggled => !before.session.openness.isOpen key
      | some .closed => false
      | none => before.session.openness.isOpen key := by
  cases step with
  | issue => rfl
  | apply tickets session arrived =>
    cases decided : Session.verdict tickets arrived.ticket with
    | installed => simp [Session.apply, decided, Event.installation?] at keeps
    | stale =>
      simp only [Session.apply, decided]
      rfl
  | check => rfl
  | settle tickets session arrived outcome =>
    cases outcome with
    | installed => cases keeps
    | stale => rfl
  | toggle tickets session other =>
    simp only [Session.toggle, Openness.isOpen_toggle, Event.touch?, eq_comm (a := key)]
    by_cases same : other = key
    · subst same
      simp
    · simp [same]
  | close tickets session keys =>
    simp only [Session.close, Openness.isOpen_close, Event.touch?]
    by_cases listed : key ∈ keys
    · simp [listed]
    · simp [listed]

/-- A step that installs leaves no touches, and any other step adds its own. -/
theorem touches_snoc (key : Section.Key) (past : List Event) (event : Event) :
    touches key (past ++ [event]) =
      if event.installation?.isNone then touches key past ++ (event.touch? key).toList else [] := by
  rw [touches, sinceInstalled, List.rtakeWhile_concat]
  split
  · rw [List.filterMap_append]
    cases touched : event.touch? key <;> simp [touches, sinceInstalled, touched]
  · rfl

/-- A section that nothing touched is open. -/
theorem leavesClosed_nil : ¬ LeavesClosed [] := by
  simp [LeavesClosed]

/-- A section is closed behind a closing. -/
theorem leavesClosed_closed (touched : List Touch) : LeavesClosed (touched ++ [.closed]) := by
  left
  constructor
  · simp
  · simp [sinceClosed]

/-- Each toggle opens or closes a section. It is one more since the last closing, if there was one,
and one more in all. -/
theorem leavesClosed_toggled (touched : List Touch) :
    LeavesClosed (touched ++ [.toggled]) ↔ ¬ LeavesClosed touched := by
  have more : sinceClosed (touched ++ [.toggled]) = sinceClosed touched ++ [.toggled] := by
    rw [sinceClosed, List.rtakeWhile_concat]
    rfl
  have stillClosed : Touch.closed ∈ touched ++ [.toggled] ↔ .closed ∈ touched := by simp
  unfold LeavesClosed
  simp only [more, stillClosed, List.count_append, List.count_singleton_self, Nat.even_add_one,
    Nat.odd_add_one]
  by_cases wasClosed : Touch.closed ∈ touched
  · simp [wasClosed]
  · simp [wasClosed]

/-- What is open behind some steps follows from the touches since the last installation.

Proof: by the last step. If it installs, no touches are left and the section is open. Else it adds
its touch, and both sides change alike. -/
theorem Steps.closed_iff (tickets : Tickets) (events : List Event) (state : State)
    (steps : Steps ⟨tickets, .empty, none⟩ events state) (key : Section.Key) :
    state.session.openness.isOpen key = false ↔ LeavesClosed (touches key events) := by
  induction steps with
  | start =>
    have untouched : touches key [] = [] := rfl
    have isOpen : Session.empty.openness.isOpen key = true := rfl
    simp [untouched, isOpen, leavesClosed_nil]
  | next past before after event _ step inductionHypothesis =>
    rw [touches_snoc]
    cases installs : event.installation? with
    | some arrival =>
      rw [step.opens before after event arrival key installs]
      simp [leavesClosed_nil]
    | none =>
      rw [step.isOpen_after before after event key installs]
      cases event.touch? key with
      | none => simpa using inductionHypothesis
      | some touch =>
        cases touch with
        | closed => simp [leavesClosed_closed]
        | toggled => simp [leavesClosed_toggled, ← inductionHypothesis]

/-- A toggle tells whether it leaves the section open. -/
theorem Step.told (before after : State) (key : Section.Key)
    (step : Step before (.toggled key) after) :
    before.session.flip key = (after.session.openness.isOpen key, after.session) := by
  cases step with
  | toggle tickets session _ =>
    have told := Openness.flip_fst session.openness key
    exact Prod.ext told rfl

/-- What is promised of a session behind some steps. -/
structure Remembers (events : List Event) (state : State) : Prop where
  /-- A section is closed exactly if its touches since the last installation leave it closed. -/
  closed_iff : ∀ key,
    state.session.openness.isOpen key = false ↔ LeavesClosed (touches key events)
  /-- The closed sections are counted by their keys, each key once. -/
  counted : ∃ closed : Finset Section.Key,
    (∀ key, key ∈ closed ↔ state.session.openness.isOpen key = false) ∧
      state.session.openness.closedCount = closed.card
  /-- A toggle that comes next tells whether it leaves the section open. -/
  told : ∀ key after, Step state (.toggled key) after →
    state.session.flip key = (after.session.openness.isOpen key, after.session)
  /-- A step that comes next changes no section that it does not touch, unless it installs. -/
  untouched : ∀ key event after, Step state event after → event.installation? = none →
    event.touch? key = none →
      after.session.openness.isOpen key = state.session.openness.isOpen key

/-- Every session remembers what was done to its sections since the last installation, and nothing
else, whatever its steps are and wherever its counter stood. A beginning of the steps is followed by
the next of them, so all this holds before and after every single step. -/
theorem openings_remembered (tickets : Tickets) (events : List Event) (state : State)
    (steps : Steps ⟨tickets, .empty, none⟩ events state) : Remembers events state where
  closed_iff := steps.closed_iff tickets events state
  counted := by
    refine ⟨state.session.openness.closedKeys, ?_, ?_⟩
    · intro key
      exact state.session.openness.mem_closedKeys key
    · exact state.session.openness.card_closedKeys.symm
  told := by
    intro key after step
    exact step.told state after key
  untouched := by
    intro key event after step keeps unseen
    rw [step.isOpen_after state after event key keeps, unseen]

/-- An answer to the first request. -/
def onlyArrival : Arrival := ⟨⟨1⟩, .empty, .debug⟩

/-- A section is closed before the installation. Behind it another one is listed twice and toggled
twice, a third one is toggled once, and the answer comes in again when it is stale. -/
def relisted : List Event :=
  [.closed [⟨"s-0"⟩], .issued ⟨1⟩, .applied onlyArrival .installed, .closed [⟨"s-1"⟩, ⟨"s-1"⟩],
    .toggled ⟨"s-1"⟩, .issued ⟨2⟩, .applied onlyArrival .stale, .toggled ⟨"s-2"⟩, .toggled ⟨"s-1"⟩]

/-- The session behind these steps. -/
def relistedState : State :=
  let installed := Session.empty.install onlyArrival.answer onlyArrival.mode
  ⟨⟨2⟩, (((installed.close [⟨"s-1"⟩, ⟨"s-1"⟩]).toggle ⟨"s-1"⟩).toggle ⟨"s-2"⟩).toggle ⟨"s-1"⟩, none⟩

/-- These steps lead from an empty session to this state. -/
theorem relisted_steps : Steps ⟨.none, .empty, none⟩ relisted relistedState := by
  have closedEarly := Steps.next _ _ _ _ .start (.close .none .empty [⟨"s-0"⟩])
  have issued := Steps.next _ _ _ _ closedEarly (.issue .none _ none)
  have installed := Steps.next _ _ _ _ issued (.apply ⟨1⟩ _ onlyArrival)
  have listed := Steps.next _ _ _ _ installed (.close ⟨1⟩ _ [⟨"s-1"⟩, ⟨"s-1"⟩])
  have toggled := Steps.next _ _ _ _ listed (.toggle ⟨1⟩ _ ⟨"s-1"⟩)
  have superseded := Steps.next _ _ _ _ toggled (.issue ⟨1⟩ _ none)
  have stale := Steps.next _ _ _ _ superseded (.apply ⟨2⟩ _ onlyArrival)
  have other := Steps.next _ _ _ _ stale (.toggle ⟨2⟩ _ ⟨"s-2"⟩)
  exact Steps.next _ _ _ _ other (.toggle ⟨2⟩ _ ⟨"s-1"⟩)

/-- The section that was listed twice is closed, and it counts once. -/
theorem relisted_remembered :
    Steps ⟨.none, .empty, none⟩ relisted relistedState ∧
      relistedState.session.openness.isOpen ⟨"s-1"⟩ = false ∧
      relistedState.session.openness.closedCount = 2 ∧ Remembers relisted relistedState := by
  have remembers := openings_remembered .none relisted relistedState relisted_steps
  refine ⟨relisted_steps, ?_, by decide, remembers⟩
  have touched : touches ⟨"s-1"⟩ relisted = [.closed, .toggled, .toggled] := by decide
  rw [remembers.closed_iff, touched]
  left
  decide

end Sharing

end CodeReport
