import CodeReport.Viewing.Session

/-!
# Sessions whose tickets come from a common counter

Several tasks take tickets from one counter, and one session takes in the
answers to them. A run is the order in which their steps happened, and any
order is a run: which task takes a step leaves no trace in it. A task has no
ticket that was not issued, but it may apply one late, twice or never.

An answer is applied in one step or in two. In between the two, the counter may
go on; the session does nothing else, since applying keeps it to itself.
-/

namespace CodeReport.Sharing

open Session (Applied)

/-- An answer that has come in under a ticket, to be shown in a mode. -/
structure Arrival where
  ticket : Ticket
  answer : Answer
  mode : Mode

/-- The report that an answer makes. -/
def Arrival.report (arrival : Arrival) : Report :=
  Report.ofAnswer arrival.answer arrival.mode

/-- One step, with what came out of it. -/
inductive Event where
  /-- A task takes the next ticket, for the session or without it. -/
  | issued (ticket : Ticket)
  /-- An answer is applied. -/
  | applied (arrival : Arrival) (outcome : Applied)
  /-- The ticket of an answer is held against the counter, which decides what becomes of it. -/
  | checked (arrival : Arrival) (outcome : Applied)
  /-- The answer that was checked takes effect. -/
  | settled (arrival : Arrival) (outcome : Applied)
  | toggled (key : Section.Key)
  | closed (keys : List Section.Key)

/-- The counter, the session, and the answer that was checked and has not yet taken effect. -/
structure State where
  tickets : Tickets
  session : Session
  underway : Option (Arrival × Applied)

/-- No ticket was issued, and nothing is shown. -/
def State.initial : State := ⟨.none, .empty, none⟩

/-- What one step does. Only the counter moves while an answer is under way. -/
inductive Step : State → Event → State → Prop where
  | issue (tickets : Tickets) (session : Session) (underway : Option (Arrival × Applied)) :
      Step ⟨tickets, session, underway⟩ (.issued tickets.next) ⟨tickets.issue, session, underway⟩
  | apply (tickets : Tickets) (session : Session) (arrival : Arrival) :
      Step ⟨tickets, session, none⟩
        (.applied arrival
          (session.apply tickets arrival.ticket arrival.answer arrival.mode).1)
        ⟨tickets, (session.apply tickets arrival.ticket arrival.answer arrival.mode).2, none⟩
  | check (tickets : Tickets) (session : Session) (arrival : Arrival) :
      Step ⟨tickets, session, none⟩
        (.checked arrival (Session.verdict tickets arrival.ticket))
        ⟨tickets, session, some (arrival, Session.verdict tickets arrival.ticket)⟩
  | settle (tickets : Tickets) (session : Session) (arrival : Arrival) (outcome : Applied) :
      Step ⟨tickets, session, some (arrival, outcome)⟩ (.settled arrival outcome)
        ⟨tickets, session.settle outcome arrival.answer arrival.mode, none⟩
  | toggle (tickets : Tickets) (session : Session) (key : Section.Key) :
      Step ⟨tickets, session, none⟩ (.toggled key) ⟨tickets, session.toggle key, none⟩
  | close (tickets : Tickets) (session : Session) (keys : List Section.Key) :
      Step ⟨tickets, session, none⟩ (.closed keys) ⟨tickets, session.close keys, none⟩

/-- The ticket that a step issues. -/
def Event.ticket? : Event → Option Ticket
  | .issued ticket => some ticket
  | _ => none

/-- The ticket that a step holds against the counter, and what the counter decides. -/
def Event.decision? : Event → Option (Ticket × Applied)
  | .applied arrival outcome => some (arrival.ticket, outcome)
  | .checked arrival outcome => some (arrival.ticket, outcome)
  | _ => none

/-- The answer that a step installs. -/
def Event.installation? : Event → Option Arrival
  | .applied arrival .installed => some arrival
  | .settled arrival .installed => some arrival
  | _ => none

/-- The tickets that were issued, in order. -/
def ticketsOf (events : List Event) : List Ticket :=
  events.filterMap Event.ticket?

/-- The answers that were installed, in order. -/
def installations (events : List Event) : List Arrival :=
  events.filterMap Event.installation?

/-- The steps from the start to a state. Tickets that are held against the counter were issued
    before. -/
inductive Run : List Event → State → Prop where
  | start : Run [] .initial
  | next (past : List Event) (before after : State) (event : Event) (run : Run past before)
      (known : ∀ ticket outcome, event.decision? = some (ticket, outcome) → ticket ∈ ticketsOf past)
      (step : Step before event after) : Run (past ++ [event]) after

end CodeReport.Sharing
