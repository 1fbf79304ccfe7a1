import CodeReport.Viewing.CopyNotice
import Mathlib.Data.List.Induction

/-!
# The notice follows the latest copy

A notice is triggered, looked at and asked how long it will show, in any order, at
times that never go back. What is answered follows from the latest trigger and the
time of the call alone: earlier triggers leave no trace, and neither do looks, though
a look forgets a deadline that has passed.

All that can be learnt of a notice is how long it will show. Two notices that agree
on this from some time on are told apart by no call at that time or later, and a look
leaves a notice that agrees with what it was. Time that goes back could ask for a
deadline that is forgotten; the order of the calls is therefore a premise.
-/

namespace CodeReport.CopyNotice

/-- What is done with a notice. -/
inductive Action where
  | trigger
  /-- Is it shown? -/
  | look
  /-- How long will it show? -/
  | remaining
  deriving Repr, DecidableEq

/-- An action and the time at which it is done. -/
structure Call where
  action : Action
  time : Nat
  deriving Repr, DecidableEq

/-- What a call is answered with. -/
inductive Reply where
  | done
  | shown (isShown : Bool)
  | left (time : Nat)
  deriving Repr, DecidableEq

/-- The reply to a call, and the notice behind it. -/
def answer (notice : CopyNotice) (call : Call) : Reply × CopyNotice :=
  match call.action with
  | .trigger => (.done, notice.trigger call.time)
  | .look => (.shown (notice.isShown call.time), notice.look call.time)
  | .remaining => (.left (notice.remaining call.time), notice)

/-- Calls in a row, each with its reply. -/
def transcript (notice : CopyNotice) : List Call → List (Call × Reply)
  | [] => []
  | call :: rest => (call, (notice.answer call).1) :: (notice.answer call).2.transcript rest

/-- The notice behind some calls. -/
def after (notice : CopyNotice) (calls : List Call) : CopyNotice :=
  calls.foldl (fun state call => (state.answer call).2) notice

/-- No call is earlier than one before it. -/
def Ordered (calls : List Call) : Prop :=
  calls.Pairwise fun earlier later => earlier.time ≤ later.time

/-- The time of the latest trigger, if there was one. -/
def latestTrigger? (calls : List Call) : Option Nat :=
  ((calls.filter fun call => call.action = .trigger).map Call.time).getLast?

/-- Less than 2000 milliseconds, each of 1000000 nanoseconds, have passed since the latest
trigger. -/
def IsFresh (past : List Call) (now : Nat) : Prop :=
  ∃ start, latestTrigger? past = some start ∧ now < start + 2000 * 1000000

/-- What a call is answered with, by the calls before it. -/
inductive Fits (past : List Call) : Call → Reply → Prop where
  | trigger (now : Nat) : Fits past ⟨.trigger, now⟩ .done
  | look (now : Nat) (isShown : Bool) (fresh : isShown = true ↔ IsFresh past now) :
      Fits past ⟨.look, now⟩ (.shown isShown)
  | remaining (now time : Nat)
      (untriggered : latestTrigger? past = none → time = 0)
      (triggered : ∀ start, latestTrigger? past = some start → time = start + 2000 * 1000000 - now)
      (limited : time ≤ 2000 * 1000000)
      (fresh : 0 < time ↔ IsFresh past now) :
      Fits past ⟨.remaining, now⟩ (.left time)

/-- Items in a row, and the same row without some of those that may be missing. -/
inductive Thinned {α : Type} (spare : α → Prop) : List α → List α → Prop where
  | nil : Thinned spare [] []
  | keep (item : α) (more fewer : List α) (rest : Thinned spare more fewer) :
      Thinned spare (item :: more) (item :: fewer)
  | drop (item : α) (more fewer : List α) (spared : spare item)
      (rest : Thinned spare more fewer) : Thinned spare (item :: more) fewer

/-- What is promised of the replies to some calls. -/
structure FollowsTriggers (calls : List Call) : Prop where
  /-- Every call has a reply. -/
  answered : (transcript idle calls).map Prod.fst = calls
  /-- Each reply follows from the calls before it. -/
  fits : ∀ past call reply later, transcript idle calls = past ++ (call, reply) :: later →
    Fits (past.map Prod.fst) call reply
  /-- Without some of the looks, the other calls have the same replies. -/
  thinned : ∀ fewer, Thinned (fun call : Call => call.action = .look) calls fewer →
    Thinned (fun entry : Call × Reply => entry.1.action = .look) (transcript idle calls)
      (transcript idle fewer)

/-- A notice will show for some time exactly if it shows. -/
theorem remaining_pos_iff (notice : CopyNotice) (now : Nat) :
    0 < notice.remaining now ↔ notice.isShown now = true := by
  unfold remaining isShown
  cases notice.deadline with
  | none => simp
  | some deadline =>
    simp only [Option.any_some, decide_eq_true_eq]
    omega

/-- A look changes nothing that is learnt at that time or later. -/
theorem remaining_look (notice : CopyNotice) (seen now : Nat) (later : seen ≤ now) :
    (notice.look seen).remaining now = notice.remaining now := by
  unfold look
  split
  · rfl
  · rename_i gone
    have nothing : notice.remaining now = 0 := by
      rw [← remaining_pos_iff] at gone
      unfold remaining at gone ⊢
      cases deadline : notice.deadline with
      | none => rfl
      | some deadline =>
        simp only [deadline] at gone ⊢
        omega
    rw [nothing]
    rfl

/-- Nothing that is learnt from some time on tells two notices apart. -/
def AgreeFrom (time : Nat) (left right : CopyNotice) : Prop :=
  ∀ now, time ≤ now → left.remaining now = right.remaining now

/-- Notices that agree give the same reply, and agree behind it. -/
theorem AgreeFrom.answer (time : Nat) (left right : CopyNotice) (call : Call)
    (agree : AgreeFrom time left right) (later : time ≤ call.time) :
    (left.answer call).1 = (right.answer call).1 ∧
      AgreeFrom call.time (left.answer call).2 (right.answer call).2 := by
  obtain ⟨action, called⟩ := call
  cases action with
  | trigger => exact ⟨rfl, fun now _ => rfl⟩
  | look =>
    have same : left.isShown called = right.isShown called := by
      rw [Bool.eq_iff_iff, ← remaining_pos_iff, ← remaining_pos_iff, agree called later]
    refine ⟨congrArg Reply.shown same, ?_⟩
    intro now behind
    have apart := agree now (Nat.le_trans later behind)
    exact (remaining_look left called now behind).trans
      (apart.trans (remaining_look right called now behind).symm)
  | remaining =>
    refine ⟨congrArg Reply.left (agree called later), ?_⟩
    intro now behind
    exact agree now (Nat.le_trans later behind)

/-- Looks that are left out change no other reply.

Proof: the two rows of calls are followed side by side, with notices that agree from the latest call
on. A call that both rows have keeps them so. A look that only one row has leaves its notice as it
was, as far as can be learnt from then on. -/
theorem AgreeFrom.transcript (time : Nat) (left right : CopyNotice)
    (agree : AgreeFrom time left right) (calls fewer : List Call)
    (thin : Thinned (fun call : Call => call.action = .look) calls fewer) (ordered : Ordered calls)
    (later : ∀ call ∈ calls, time ≤ call.time) :
    Thinned (fun entry : Call × Reply => entry.1.action = .look) (left.transcript calls)
      (right.transcript fewer) := by
  induction thin generalizing time left right with
  | nil => exact .nil
  | keep call more fewer _ inductionHypothesis =>
    obtain ⟨same, behind⟩ := AgreeFrom.answer time left right call agree
      (later call List.mem_cons_self)
    obtain ⟨first, rest⟩ := List.pairwise_cons.mp ordered
    unfold CopyNotice.transcript
    rw [same]
    exact .keep _ _ _ (inductionHypothesis call.time _ _ behind rest first)
  | drop call more fewer isLook _ inductionHypothesis =>
    obtain ⟨first, rest⟩ := List.pairwise_cons.mp ordered
    have begun : time ≤ call.time := later call List.mem_cons_self
    have looked : (left.answer call).2 = left.look call.time := by
      obtain ⟨action, called⟩ := call
      obtain rfl : action = .look := isLook
      rfl
    have behind : AgreeFrom call.time (left.answer call).2 right := by
      intro now afterwards
      rw [looked, remaining_look left call.time now afterwards]
      exact agree now (Nat.le_trans begun afterwards)
    exact .drop _ _ _ isLook (inductionHypothesis call.time _ _ behind rest first)

/-- A call that comes next is the latest trigger if it is one. -/
theorem latestTrigger?_snoc (past : List Call) (call : Call) :
    latestTrigger? (past ++ [call]) =
      if call.action = .trigger then some call.time else latestTrigger? past := by
  unfold latestTrigger?
  by_cases isTrigger : call.action = .trigger
  · simp [isTrigger]
  · simp [isTrigger]

/-- The latest trigger is one of the calls. -/
theorem exists_trigger (past : List Call) (start : Nat)
    (latest : latestTrigger? past = some start) : ∃ call ∈ past, call.time = start := by
  obtain ⟨call, triggered, same⟩ := List.mem_map.mp (List.mem_of_getLast? latest)
  exact ⟨call, (List.mem_filter.mp triggered).1, same⟩

/-- The notice behind one more call. -/
theorem after_snoc (notice : CopyNotice) (past : List Call) (call : Call) :
    notice.after (past ++ [call]) = ((notice.after past).answer call).2 := by
  rw [after, List.foldl_append]
  rfl

/-- How long a notice will show behind some calls follows from the latest trigger.

Proof: by the last call. A trigger sets the deadline. A look leaves what is learnt from then on, and
a question leaves everything. -/
theorem remaining_after (past : List Call) (ordered : Ordered past) (now : Nat)
    (later : ∀ call ∈ past, call.time ≤ now) :
    (idle.after past).remaining now =
      match latestTrigger? past with
      | some start => start + hold - now
      | none => 0 := by
  induction past using List.reverseRecOn generalizing now with
  | nil => rfl
  | append_singleton past call inductionHypothesis =>
    obtain ⟨before, -, -⟩ := List.pairwise_append.mp ordered
    have last : call.time ≤ now := later call (by simp)
    have known := inductionHypothesis before now fun other member =>
      later other (List.mem_append_left _ member)
    obtain ⟨action, called⟩ := call
    rw [latestTrigger?_snoc, after_snoc]
    cases action with
    | trigger => rfl
    | look => exact (remaining_look _ called now last).trans known
    | remaining => exact known

/-- The replies to calls in two parts: the notice behind the first part answers the second. -/
theorem transcript_append (notice : CopyNotice) (first second : List Call) :
    notice.transcript (first ++ second) =
      notice.transcript first ++ (notice.after first).transcript second := by
  induction first generalizing notice with
  | nil => rfl
  | cons call rest inductionHypothesis =>
    exact congrArg ((call, (notice.answer call).1) :: ·) (inductionHypothesis _)

/-- Each call stands beside its reply. -/
theorem calls_transcript (notice : CopyNotice) (calls : List Call) :
    (notice.transcript calls).map Prod.fst = calls := by
  induction calls generalizing notice with
  | nil => rfl
  | cons call rest inductionHypothesis =>
    exact congrArg (call :: ·) (inductionHypothesis _)

/-- A reply is that of the notice behind the calls before it. -/
theorem reply_of_entry (calls : List Call) (past later : List (Call × Reply)) (call : Call)
    (reply : Reply) (divided : transcript idle calls = past ++ (call, reply) :: later) :
    calls = past.map Prod.fst ++ call :: later.map Prod.fst ∧
      reply = ((idle.after (past.map Prod.fst)).answer call).1 := by
  have whole : calls = past.map Prod.fst ++ call :: later.map Prod.fst := by
    rw [← calls_transcript idle calls, divided, List.map_append, List.map_cons]
  refine ⟨whole, ?_⟩
  rw [whole, transcript_append] at divided
  have lengths : (transcript idle (past.map Prod.fst)).length = past.length := by
    rw [← List.length_map Prod.fst, calls_transcript, List.length_map]
  obtain ⟨-, rest⟩ := List.append_inj divided lengths
  exact (congrArg Prod.snd (List.cons.inj rest).1).symm

/-- The reply to the next call follows from the latest trigger. -/
theorem fits_answer (past : List Call) (call : Call) (ordered : Ordered past)
    (later : ∀ earlier ∈ past, earlier.time ≤ call.time) :
    Fits past call ((idle.after past).answer call).1 := by
  obtain ⟨action, now⟩ := call
  have left := remaining_after past ordered now later
  have fresh : 0 < (idle.after past).remaining now ↔ IsFresh past now := by
    rw [left]
    unfold IsFresh
    cases latestTrigger? past with
    | none => simp
    | some start =>
      have length : hold = 2000 * 1000000 := rfl
      simp only [Option.some.injEq, exists_eq_left']
      omega
  cases action with
  | trigger => exact .trigger now
  | look => exact .look now _ ((remaining_pos_iff _ now).symm.trans fresh)
  | remaining =>
    refine .remaining now _ ?_ ?_ ?_ fresh
    · intro never
      rw [left, never]
    · intro start latest
      rw [left, latest]
      rfl
    · rw [left]
      cases latest : latestTrigger? past with
      | none => exact Nat.zero_le _
      | some start =>
        obtain ⟨trigger, member, same⟩ := exists_trigger past start latest
        have begun : start ≤ now := same ▸ later trigger member
        have length : hold = 2000 * 1000000 := rfl
        simp only
        omega

/-- Whatever is done with a notice at times that never go back, it shows exactly if less than 2000
milliseconds have passed since the latest trigger. The time that is left is the time up to then,
nothing if that has passed or nothing was triggered, never more than 2000 milliseconds, and positive
exactly if a look at the same time would find the notice shown. Looks can be put in and left out
anywhere, and no other reply changes. -/
theorem replies_follow_triggers (calls : List Call) (ordered : Ordered calls) :
    FollowsTriggers calls where
  answered := calls_transcript idle calls
  fits := by
    intro past call reply later divided
    obtain ⟨whole, rfl⟩ := reply_of_entry calls past later call reply divided
    rw [whole] at ordered
    obtain ⟨before, -, across⟩ := List.pairwise_append.mp ordered
    refine fits_answer _ call before ?_
    intro earlier member
    exact across earlier member call List.mem_cons_self
  thinned := by
    intro fewer thin
    have agree : AgreeFrom 0 idle idle := fun _ _ => rfl
    exact agree.transcript 0 idle idle calls fewer thin ordered fun _ _ => Nat.zero_le _

/-- A copy, a look at the very end of its time, a further copy at the same time, and one more before
the time of that is over. -/
def recopied : List Call :=
  [⟨.trigger, 0⟩, ⟨.look, 1999999999⟩, ⟨.look, 2000000000⟩, ⟨.remaining, 2000000000⟩,
    ⟨.trigger, 2000000000⟩, ⟨.trigger, 3500000000⟩, ⟨.look, 4000000000⟩,
    ⟨.remaining, 4500000000⟩, ⟨.look, 5500000000⟩]

/-- The notice is gone in between, and the last copy counts. -/
theorem recopied_follows :
    Ordered recopied ∧
      (transcript idle recopied).map Prod.snd =
        [.done, .shown true, .shown false, .left 0, .done, .done, .shown true, .left 1000000000,
          .shown false] ∧
      FollowsTriggers recopied := by
  have ordered : Ordered recopied := by
    unfold Ordered recopied
    decide
  exact ⟨ordered, by decide, replies_follow_triggers recopied ordered⟩

end CodeReport.CopyNotice
