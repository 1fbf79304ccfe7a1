import CodeReport.Assembly.Report
import CodeReport.Viewing.Openness

/-!
# Sessions

A session shows one report. Each request for an analysis takes a ticket, and an
answer is installed only if its ticket is the latest one, so that a late answer
to an older request never replaces that to a newer one. Sessions may take their
tickets from one common counter, which is why the counter is not part of a
session.
-/

namespace CodeReport

/-- A request, known by a word of 64 bits. -/
structure Ticket where
  word : UInt64
  deriving Repr, DecidableEq

/-- The number of a request, counted from 1. -/
def Ticket.number (ticket : Ticket) : Nat := ticket.word.toNat

/-- A counter of the tickets that were issued: the word of the latest one, and zero before the
    first. Behind the greatest word it starts again with zero. -/
structure Tickets where
  latest : UInt64
  deriving Repr, DecidableEq

namespace Tickets

/-- No ticket was issued. -/
def none : Tickets := ⟨0⟩

/-- The ticket that is issued next. -/
def next (tickets : Tickets) : Ticket := ⟨tickets.latest + 1⟩

/-- The tickets after one more was issued. -/
def issue (tickets : Tickets) : Tickets := ⟨tickets.latest + 1⟩

/-- Whether no ticket was issued after a given one. -/
def isCurrent (tickets : Tickets) (ticket : Ticket) : Bool :=
  tickets.latest == ticket.word

end Tickets

/-- The report that is shown and which of its sections are open. -/
structure Session where
  report : Option Report
  openness : Openness

namespace Session

/-- A session that shows nothing yet. -/
def empty : Session := ⟨none, .pristine⟩

/-- Whether an answer is installed. -/
inductive Applied where
  | installed
  | stale
  deriving Repr, DecidableEq

/-- The session with the report of an answer, all its sections open. -/
def install (_session : Session) (answer : Answer) (mode : Mode) : Session :=
  ⟨some (Report.ofAnswer answer mode), .pristine⟩

/-- What becomes of an answer, by its ticket and the counter. -/
def verdict (tickets : Tickets) (ticket : Ticket) : Applied :=
  if tickets.isCurrent ticket then .installed else .stale

/-- The session after an answer took effect as it was decided. -/
def settle (session : Session) (outcome : Applied) (answer : Answer) (mode : Mode) : Session :=
  match outcome with
  | .installed => session.install answer mode
  | .stale => session

/-- An answer has come in: it is installed if its ticket is the latest. -/
def apply (session : Session) (tickets : Tickets) (ticket : Ticket) (answer : Answer)
    (mode : Mode) : Applied × Session :=
  let outcome := verdict tickets ticket
  (outcome, session.settle outcome answer mode)

/-- Open or close one section. -/
def toggle (session : Session) (key : Section.Key) : Session :=
  { session with openness := session.openness.toggle key }

/-- Open or close one section, and tell whether it is open then. -/
def flip (session : Session) (key : Section.Key) : Bool × Session :=
  let (isOpen, openness) := session.openness.flip key
  (isOpen, { session with openness })

/-- Close some sections. -/
def close (session : Session) (keys : List Section.Key) : Session :=
  { session with openness := session.openness.close keys }

end Session

end CodeReport
