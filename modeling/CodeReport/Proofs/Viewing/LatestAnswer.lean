import CodeReport.Viewing.Sharing
import Mathlib.Data.List.Nodup

/-!
# The latest answer stays

Tasks take tickets from one counter and hand their answers to a session in any
order. The counter gives the tickets the numbers from 1 on, as long as it does
not start again, so the ticket that equals the counter is the latest one. An
answer whose ticket is not the latest at its check changes nothing, and what is
installed never gives way to an answer with an older ticket.

Between the check of an answer and its effect further tickets may be issued.
The answer is then installed although it is no longer the latest. The order of
installations is kept all the same, since the session takes in no other answer
in that time.
-/

namespace CodeReport.Sharing

open Session (Applied)

/-- One more step adds its ticket, if it issues one. -/
theorem ticketsOf_snoc (past : List Event) (event : Event) :
    ticketsOf (past ++ [event]) = ticketsOf past ++ event.ticket?.toList := by
  rw [ticketsOf, List.filterMap_append]
  cases event <;> rfl

/-- One more step adds its answer, if it installs one. -/
theorem installations_snoc (past : List Event) (event : Event) :
    installations (past ++ [event]) = installations past ++ event.installation?.toList := by
  rw [installations, List.filterMap_append]
  cases found : event.installation? <;> simp [installations, found]

/-- A step that comes last in a run was taken from the state behind the others. -/
theorem Run.last (past : List Event) (event : Event) (after : State)
    (run : Run (past ++ [event]) after) :
    ∃ before, Run past before ∧ Step before event after ∧
      ∀ ticket outcome, event.decision? = some (ticket, outcome) → ticket ∈ ticketsOf past := by
  generalize whole : past ++ [event] = events at run
  cases run with
  | start => simp at whole
  | next other before _ lastEvent run known step =>
    obtain ⟨rfl, same⟩ := List.append_inj' whole rfl
    obtain rfl : event = lastEvent := by simpa using same
    exact ⟨before, run, step, known⟩

/-- A step leads to one state only. -/
theorem Step.functional (before left right : State) (event : Event) (first : Step before event left)
    (second : Step before event right) : left = right := by
  cases first <;> cases second <;> rfl

/-- The steps of a run determine the state behind it. -/
theorem Run.functional (events : List Event) (left right : State) (first : Run events left)
    (second : Run events right) : left = right := by
  induction first generalizing right with
  | start =>
    generalize whole : ([] : List Event) = events at second
    cases second with
    | start => rfl
    | next => simp at whole
  | next past before after event _ _ step inductionHypothesis =>
    obtain ⟨other, run, otherStep, _⟩ := Run.last past event right second
    obtain rfl := inductionHypothesis other run
    exact Step.functional before after right event step otherStep

/-- The counter stands at the number of tickets, as long as it has words for all of them. -/
theorem Run.counter_exact (events : List Event) (state : State) (run : Run events state)
    (few : (ticketsOf events).length < UInt64.size) :
    state.tickets.latest.toNat = (ticketsOf events).length := by
  induction run with
  | start => rfl
  | next past before after event run known step inductionHypothesis =>
    rw [ticketsOf_snoc, List.length_append] at few ⊢
    have counted := inductionHypothesis (by omega)
    cases step with
    | issue tickets session underway =>
      simp only [Event.ticket?, Option.toList_some, List.length_singleton, UInt64.size] at few ⊢
      simp only [Tickets.issue, UInt64.toNat_add, UInt64.toNat_one]
      simp only at counted
      omega
    | apply => exact counted
    | check => exact counted
    | settle => exact counted
    | toggle => exact counted
    | close => exact counted

/-- Tickets are numbered from 1 on, in the order in which they are issued. The next ticket is one
above the counter, which stands at their number. -/
theorem Run.tickets_numbered (events : List Event) (state : State) (run : Run events state)
    (few : (ticketsOf events).length < UInt64.size) :
    (ticketsOf events).map Ticket.number = List.range' 1 (ticketsOf events).length := by
  induction run with
  | start => rfl
  | next past before after event run known step inductionHypothesis =>
    rw [ticketsOf_snoc, List.length_append] at few
    rw [ticketsOf_snoc, List.map_append, List.length_append, inductionHypothesis (by omega)]
    cases step with
    | issue tickets session underway =>
      have counted := run.counter_exact _ _ (by omega)
      simp only [Event.ticket?, Option.toList_some, List.length_singleton, UInt64.size] at few ⊢
      have number : tickets.next.number = 1 + (ticketsOf past).length := by
        simp only [Ticket.number, Tickets.next, UInt64.toNat_add, UInt64.toNat_one]
        simp only at counted
        omega
      rw [List.range'_1_concat, List.map_singleton, number]
    | apply => simp [Event.ticket?]
    | check => simp [Event.ticket?]
    | settle => simp [Event.ticket?]
    | toggle => simp [Event.ticket?]
    | close => simp [Event.ticket?]

/-- Tickets with the same number are the same. -/
theorem number_injective (left right : Ticket) (same : left.number = right.number) :
    left = right := by
  cases left
  cases right
  exact congrArg Ticket.mk (UInt64.toNat_inj.mp same)

/-- No ticket is issued twice. -/
theorem Run.tickets_distinct (events : List Event) (state : State) (run : Run events state)
    (few : (ticketsOf events).length < UInt64.size) : (ticketsOf events).Nodup := by
  apply List.Nodup.of_map Ticket.number
  rw [run.tickets_numbered events state few]
  exact List.nodup_range'

/-- The ticket that was issued last has the number of all tickets. -/
theorem Run.last_number (events : List Event) (state : State) (ticket : Ticket)
    (run : Run events state) (few : (ticketsOf events).length < UInt64.size)
    (last : (ticketsOf events).getLast? = some ticket) :
    ticket.number = (ticketsOf events).length := by
  have numbers : ((ticketsOf events).map Ticket.number).getLast? = some ticket.number := by
    rw [List.getLast?_map, last]
    rfl
  rw [run.tickets_numbered events state few, List.getLast?_range'] at numbers
  split at numbers
  · cases numbers
  · have exactNumber := Option.some.inj numbers
    omega

/-- Among the tickets that were issued, the one that equals the counter is the last. -/
theorem Run.current_iff (events : List Event) (state : State) (ticket : Ticket)
    (run : Run events state) (few : (ticketsOf events).length < UInt64.size)
    (known : ticket ∈ ticketsOf events) :
    state.tickets.isCurrent ticket = true ↔ (ticketsOf events).getLast? = some ticket := by
  have counted := run.counter_exact events state few
  obtain ⟨last, isLast⟩ := Option.isSome_iff_exists.mp
    (List.getLast?_isSome.mpr (List.ne_nil_of_mem known))
  have lastNumber := run.last_number events state last few isLast
  rw [isLast, Option.some.injEq, Tickets.isCurrent, beq_iff_eq]
  constructor
  · intro same
    apply number_injective
    rw [lastNumber, ← counted, same]
    rfl
  · rintro rfl
    exact UInt64.toNat_inj.mp (counted.trans lastNumber.symm)

/-- A ticket is decided to be installed exactly when the counter stands at it. -/
theorem verdict_installed_iff (tickets : Tickets) (ticket : Ticket) :
    Session.verdict tickets ticket = .installed ↔ tickets.isCurrent ticket = true := by
  unfold Session.verdict
  by_cases current : tickets.isCurrent ticket = true <;> simp [current]

/-- The decision of a step is that of the counter before it. -/
theorem Step.decision_exact (before after : State) (event : Event) (ticket : Ticket)
    (outcome : Applied) (step : Step before event after)
    (decision : event.decision? = some (ticket, outcome)) :
    outcome = Session.verdict before.tickets ticket := by
  cases step with
  | apply tickets session arrival =>
    simp only [Event.decision?, Option.some.injEq, Prod.mk.injEq] at decision
    obtain ⟨rfl, rfl⟩ := decision
    rfl
  | check tickets session arrival =>
    simp only [Event.decision?, Option.some.injEq, Prod.mk.injEq] at decision
    obtain ⟨rfl, rfl⟩ := decision
    rfl
  | issue => simp [Event.decision?] at decision
  | settle => simp [Event.decision?] at decision
  | toggle => simp [Event.decision?] at decision
  | close => simp [Event.decision?] at decision

/-- Every beginning of a run is a run. -/
theorem Run.beginning (before after : List Event) (state : State)
    (run : Run (before ++ after) state) : ∃ earlier, Run before earlier := by
  induction after generalizing before with
  | nil => exact ⟨state, by simpa using run⟩
  | cons event rest inductionHypothesis =>
    rw [List.append_cons] at run
    obtain ⟨next, through⟩ := inductionHypothesis (before ++ [event]) run
    obtain ⟨earlier, past, _, _⟩ := Run.last before event next through
    exact ⟨earlier, past⟩

/-- A ticket is decided to be installed exactly when it is the last one issued before. -/
theorem Run.decided (before after : List Event) (event : Event) (state : State) (ticket : Ticket)
    (outcome : Applied) (run : Run (before ++ event :: after) state)
    (few : (ticketsOf (before ++ event :: after)).length < UInt64.size)
    (decision : event.decision? = some (ticket, outcome)) :
    outcome = .installed ↔ (ticketsOf before).getLast? = some ticket := by
  rw [List.append_cons] at run
  obtain ⟨next, through⟩ := Run.beginning (before ++ [event]) after state run
  obtain ⟨earlier, past, step, known⟩ := Run.last before event next through
  have fewBefore : (ticketsOf before).length < UInt64.size := by
    simp only [ticketsOf, List.filterMap_append, List.length_append] at few ⊢
    omega
  rw [step.decision_exact earlier next event ticket outcome decision, verdict_installed_iff,
    past.current_iff before earlier ticket fewBefore (known ticket outcome decision)]

/-- An answer that is installed has the number of the counter at its check. -/
theorem number_of_verdict (tickets : Tickets) (ticket : Ticket)
    (installed : Session.verdict tickets ticket = .installed) :
    ticket.number = tickets.latest.toNat := by
  have same : tickets.latest = ticket.word := by
    simpa [Tickets.isCurrent] using (verdict_installed_iff tickets ticket).mp installed
  rw [Ticket.number, same]

/-- No answer is older than one installed before it. The counter bounds what is installed, and so
does the ticket of an answer that is under way and will be installed. -/
structure Ascending (installed : List Arrival) (state : State) : Prop where
  ordered : installed.Pairwise fun older newer => older.ticket.number ≤ newer.ticket.number
  counter : ∀ older ∈ installed, older.ticket.number ≤ state.tickets.latest.toNat
  underway : ∀ arrival, state.underway = some (arrival, .installed) →
    arrival.ticket.number ≤ state.tickets.latest.toNat ∧
      ∀ older ∈ installed, older.ticket.number ≤ arrival.ticket.number

/-- An answer at least as new as all that was installed comes last. -/
theorem Ascending.install (installed : List Arrival) (before : State) (session : Session)
    (arrival : Arrival) (ascending : Ascending installed before)
    (issued : arrival.ticket.number ≤ before.tickets.latest.toNat)
    (newest : ∀ older ∈ installed, older.ticket.number ≤ arrival.ticket.number) :
    Ascending (installed ++ [arrival]) ⟨before.tickets, session, none⟩ where
  ordered := by
    rw [List.pairwise_append]
    refine ⟨ascending.ordered, List.pairwise_singleton _ _, ?_⟩
    intro older member newer last
    obtain rfl := List.mem_singleton.mp last
    exact newest older member
  counter := by
    intro older member
    rcases List.mem_append.mp member with member | last
    · exact ascending.counter older member
    · obtain rfl := List.mem_singleton.mp last
      exact issued
  underway := by
    intro other impossible
    cases impossible

/-- Each step keeps the order of installations, if it does not lower the counter.

A check takes the counter for the number of its answer, so the answer lies above all that was
installed. It stays there, since nothing else is installed before it takes effect. -/
theorem Step.ascending (past : List Event) (before after : State) (event : Event)
    (step : Step before event after)
    (raised : before.tickets.latest.toNat ≤ after.tickets.latest.toNat)
    (ascending : Ascending (installations past) before) :
    Ascending (installations (past ++ [event])) after := by
  rw [installations_snoc]
  cases step with
  | issue tickets session underway =>
    simp only [Event.installation?, Option.toList_none, List.append_nil]
    refine ⟨ascending.ordered, ?_, ?_⟩
    · intro older member
      exact Nat.le_trans (ascending.counter older member) raised
    · intro arrival pending
      obtain ⟨issued, newest⟩ := ascending.underway arrival pending
      exact ⟨Nat.le_trans issued raised, newest⟩
  | apply tickets session arrival =>
    cases decided : Session.verdict tickets arrival.ticket with
    | installed =>
      have number := number_of_verdict tickets arrival.ticket decided
      simp only [Session.apply, decided, Event.installation?, Option.toList_some]
      refine ascending.install _ _ _ arrival (Nat.le_of_eq number) ?_
      intro older member
      exact number ▸ ascending.counter older member
    | stale =>
      simp only [Session.apply, decided, Event.installation?, Option.toList_none, List.append_nil]
      exact ⟨ascending.ordered, ascending.counter, by simp⟩
  | check tickets session arrival =>
    simp only [Event.installation?, Option.toList_none, List.append_nil]
    refine ⟨ascending.ordered, ascending.counter, ?_⟩
    intro other pending
    obtain ⟨rfl, decided⟩ := Prod.mk.inj (Option.some.inj pending)
    have number := number_of_verdict tickets arrival.ticket decided
    refine ⟨Nat.le_of_eq number, ?_⟩
    intro older member
    exact number ▸ ascending.counter older member
  | settle tickets session arrival outcome =>
    cases outcome with
    | installed =>
      obtain ⟨issued, newest⟩ := ascending.underway arrival rfl
      exact ascending.install _ _ _ arrival issued newest
    | stale =>
      simp only [Event.installation?, Option.toList_none, List.append_nil]
      exact ⟨ascending.ordered, ascending.counter, by simp⟩
  | toggle =>
    simp only [Event.installation?, Option.toList_none, List.append_nil]
    exact ⟨ascending.ordered, ascending.counter, by simp⟩
  | close =>
    simp only [Event.installation?, Option.toList_none, List.append_nil]
    exact ⟨ascending.ordered, ascending.counter, by simp⟩

/-- Installations come in the order of their tickets. -/
theorem Run.ascending (events : List Event) (state : State) (run : Run events state)
    (few : (ticketsOf events).length < UInt64.size) : Ascending (installations events) state := by
  induction run with
  | start => exact ⟨List.Pairwise.nil, by simp [installations], by simp [State.initial]⟩
  | next past before after event run known step inductionHypothesis =>
    have more : (ticketsOf past).length ≤ (ticketsOf (past ++ [event])).length := by
      rw [ticketsOf_snoc, List.length_append]
      omega
    have countedBefore := run.counter_exact past before (by omega)
    have countedAfter := (run.next past before after event known step).counter_exact _ after few
    exact step.ascending past before after event (by omega) (inductionHypothesis (by omega))

/-- The session shows the report of the answer that was installed last. -/
theorem Run.shown (events : List Event) (state : State) (run : Run events state) :
    state.session.report = (installations events).getLast?.map Arrival.report := by
  induction run with
  | start => rfl
  | next past before after event run known step inductionHypothesis =>
    rw [installations_snoc]
    cases step with
    | issue => simpa [Event.installation?] using inductionHypothesis
    | apply tickets session arrival =>
      cases decided : Session.verdict tickets arrival.ticket with
      | installed =>
        simp [Session.apply, decided, Event.installation?, Session.settle, Session.install,
          Arrival.report]
      | stale =>
        simpa [Session.apply, decided, Event.installation?, Session.settle] using
          inductionHypothesis
    | check => simpa [Event.installation?] using inductionHypothesis
    | settle tickets session arrival outcome =>
      cases outcome with
      | installed => simp [Event.installation?, Session.settle, Session.install, Arrival.report]
      | stale => simpa [Event.installation?, Session.settle] using inductionHypothesis
    | toggle => simpa [Event.installation?, Session.toggle] using inductionHypothesis
    | close => simpa [Event.installation?, Session.close] using inductionHypothesis

/-- An answer under way was checked, and since then only tickets were issued. -/
theorem Run.checked (events : List Event) (state : State) (arrival : Arrival) (outcome : Applied)
    (run : Run events state) (pending : state.underway = some (arrival, outcome)) :
    ∃ earlier, ∃ tickets : List Ticket,
      events = earlier ++ .checked arrival outcome :: tickets.map .issued := by
  induction run with
  | start => cases pending
  | next past before after event run known step inductionHypothesis =>
    cases step with
    | issue tickets session underway =>
      obtain ⟨earlier, others, rfl⟩ := inductionHypothesis pending
      exact ⟨earlier, others ++ [tickets.next], by simp⟩
    | check tickets session other =>
      obtain ⟨rfl, rfl⟩ := Prod.mk.inj (Option.some.inj pending)
      exact ⟨past, [], by simp⟩
    | apply => cases pending
    | settle => cases pending
    | toggle => cases pending
    | close => cases pending

/-- An answer takes effect as its check decided. -/
theorem Run.settled (before after : List Event) (state : State) (arrival : Arrival)
    (outcome : Applied) (run : Run (before ++ .settled arrival outcome :: after) state) :
    ∃ earlier, ∃ tickets : List Ticket,
      before = earlier ++ .checked arrival outcome :: tickets.map .issued := by
  rw [List.append_cons] at run
  obtain ⟨next, through⟩ := Run.beginning _ after state run
  obtain ⟨earlier, past, step, _⟩ := Run.last before _ next through
  cases step with
  | settle => exact past.checked before _ arrival outcome rfl

/-- A stale answer changes nothing when it takes effect. -/
theorem Step.stale (before after : State) (event : Event) (arrival : Arrival)
    (step : Step before event after)
    (declined : event = .applied arrival .stale ∨ event = .settled arrival .stale) :
    after.session = before.session := by
  cases step with
  | apply tickets session other =>
    obtain ⟨_, decided⟩ : other = arrival ∧ Session.verdict tickets other.ticket = .stale := by
      simpa [Session.apply] using declined
    simp [Session.apply, decided, Session.settle]
  | settle tickets session other outcome =>
    obtain ⟨_, rfl⟩ : other = arrival ∧ outcome = .stale := by simpa using declined
    rfl
  | issue => rfl
  | check => rfl
  | toggle => simp at declined
  | close => simp at declined

/-- A check leaves the session alone. -/
theorem Step.check_keeps (before after : State) (event : Event) (arrival : Arrival)
    (outcome : Applied) (step : Step before event after)
    (checks : event = .checked arrival outcome) : after.session = before.session := by
  cases step with
  | check => rfl
  | issue => rfl
  | apply => simp at checks
  | settle => simp at checks
  | toggle => simp at checks
  | close => simp at checks

/-- Tickets that are issued leave the session alone. -/
theorem Run.before_issues (past : List Event) (tickets : List Ticket) (state : State)
    (run : Run (past ++ tickets.map .issued) state) :
    ∃ before, Run past before ∧ before.session = state.session := by
  induction tickets generalizing past with
  | nil => exact ⟨state, by simpa using run, rfl⟩
  | cons ticket rest inductionHypothesis =>
    rw [List.map_cons, List.append_cons] at run
    obtain ⟨next, through, same⟩ := inductionHypothesis (past ++ [.issued ticket]) run
    obtain ⟨before, earlier, step, _⟩ := Run.last past _ next through
    cases step with
    | issue => exact ⟨_, earlier, same⟩

/-- The steps in which an answer is applied and found stale: one, or two with tickets issued in
between. -/
def Declined (part : List Event) : Prop :=
  ∃ arrival, part = [.applied arrival .stale] ∨
    ∃ tickets : List Ticket,
      part = .checked arrival .stale :: tickets.map .issued ++ [.settled arrival .stale]

/-- A stale answer leaves the session as it was before it came in. Its last step changes nothing,
and neither do a check and the tickets issued after it. -/
theorem Run.untouched (before part : List Event) (state earlier : State)
    (run : Run (before ++ part) state) (declined : Declined part) (past : Run before earlier) :
    state.session = earlier.session := by
  obtain ⟨arrival, rfl | ⟨tickets, rfl⟩⟩ := declined
  · obtain ⟨other, same, step, _⟩ := Run.last before _ state run
    obtain rfl := Run.functional before other earlier same past
    exact step.stale other state _ arrival (.inl rfl)
  · have divided : before ++ (.checked arrival .stale :: tickets.map .issued ++
        [.settled arrival .stale]) =
        ((before ++ [.checked arrival .stale]) ++ tickets.map .issued) ++
          [.settled arrival .stale] := by simp
    rw [divided] at run
    obtain ⟨last, through, settling, _⟩ := Run.last _ _ state run
    obtain ⟨checked, shorter, same⟩ := Run.before_issues _ tickets last through
    obtain ⟨other, first, checking, _⟩ := Run.last before _ checked shorter
    obtain rfl := Run.functional before other earlier first past
    calc
      state.session = last.session := settling.stale last state _ arrival (.inr rfl)
      _ = checked.session := same.symm
      _ = other.session := checking.check_keeps other checked _ arrival .stale rfl

/-- What is promised of a run that ends in a state. -/
structure LatestStays (events : List Event) (state : State) : Prop where
  /-- Tickets have the numbers from 1 on, in the order in which they are issued. -/
  numbered : (ticketsOf events).map Ticket.number = List.range' 1 (ticketsOf events).length
  distinct : (ticketsOf events).Nodup
  /-- An answer is found to be installed exactly if its ticket is the last one issued so far. -/
  decided : ∀ before event after ticket outcome, events = before ++ event :: after →
    event.decision? = some (ticket, outcome) →
    (outcome = .installed ↔ (ticketsOf before).getLast? = some ticket)
  /-- An answer that takes effect later does so as its check decided. -/
  settled : ∀ before arrival outcome after, events = before ++ .settled arrival outcome :: after →
    ∃ earlier, ∃ tickets : List Ticket,
      before = earlier ++ .checked arrival outcome :: tickets.map .issued
  /-- No answer gives way to one with an older ticket. -/
  ascending : (installations events).Pairwise fun older newer =>
    older.ticket.number ≤ newer.ticket.number
  /-- The report is that of the answer installed last, and none before the first. -/
  shown : state.session.report = (installations events).getLast?.map Arrival.report
  /-- A stale answer leaves the report and what is open as they were. -/
  untouched : ∀ before part earlier, events = before ++ part → Declined part → Run before earlier →
    state.session = earlier.session

/-- Every run keeps the latest answer, whatever the order of its steps, as long as there are words
for all tickets. A beginning of a run is a run, so all this holds after every single step. -/
theorem latest_stays (events : List Event) (state : State) (run : Run events state)
    (few : (ticketsOf events).length < UInt64.size) : LatestStays events state where
  numbered := run.tickets_numbered events state few
  distinct := run.tickets_distinct events state few
  decided := by
    rintro before event after ticket outcome rfl decision
    exact run.decided before after event state ticket outcome few decision
  settled := by
    rintro before arrival outcome after rfl
    exact run.settled before after state arrival outcome
  ascending := (run.ascending events state few).ordered
  shown := run.shown events state
  untouched := by
    rintro before part earlier rfl declined past
    exact run.untouched before part state earlier declined past

/-- The answer to the first request. -/
def firstArrival : Arrival := ⟨⟨1⟩, .empty, .analysis⟩

/-- The answer to the second request. -/
def secondArrival : Arrival := ⟨⟨2⟩, .ofFailure "no answer", .debug⟩

/-- The first answer is checked before the second ticket is issued and takes effect after it; it
comes in once more when the second answer is shown. -/
def overtaken : List Event :=
  [.issued ⟨1⟩, .checked firstArrival .installed, .issued ⟨2⟩, .settled firstArrival .installed,
    .applied secondArrival .installed, .applied firstArrival .stale]

/-- The second answer is shown. -/
def overtakenState : State :=
  ⟨⟨2⟩, Session.empty.install secondArrival.answer secondArrival.mode, none⟩

/-- Each step follows from the one before it, and both tickets are issued before they are used. -/
theorem overtaken_run : Run overtaken overtakenState := by
  have afterFirst : Run [.issued ⟨1⟩] ⟨⟨1⟩, .empty, none⟩ :=
    Run.next [] _ _ _ .start (by simp [Event.decision?]) (.issue .none .empty none)
  have afterCheck := Run.next _ _ _ _ afterFirst
    (by simp [Event.decision?, ticketsOf, Event.ticket?, firstArrival])
    (.check ⟨1⟩ .empty firstArrival)
  have afterSecond := Run.next _ _ _ _ afterCheck (by simp [Event.decision?]) (.issue ⟨1⟩ .empty _)
  have afterEffect := Run.next _ _ _ _ afterSecond (by simp [Event.decision?])
    (.settle ⟨2⟩ .empty firstArrival .installed)
  have afterAnswer := Run.next _ _ _ _ afterEffect
    (by simp [Event.decision?, ticketsOf, Event.ticket?, secondArrival, Tickets.next])
    (.apply ⟨2⟩ _ secondArrival)
  exact Run.next _ _ _ _ afterAnswer
    (by simp [Event.decision?, ticketsOf, Event.ticket?, firstArrival])
    (.apply ⟨2⟩ _ firstArrival)

/-- The run in which an answer is overtaken keeps the latest answer. -/
theorem overtaken_latest_stays :
    Run overtaken overtakenState ∧ (ticketsOf overtaken).length < UInt64.size ∧
      LatestStays overtaken overtakenState :=
  ⟨overtaken_run, by decide, latest_stays overtaken overtakenState overtaken_run (by decide)⟩

end CodeReport.Sharing
