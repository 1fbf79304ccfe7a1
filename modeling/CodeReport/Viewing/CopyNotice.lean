/-!
# The notice that code was copied

After a copy a notice shows for two seconds. There is one deadline: a further
copy moves it and adds no second one. Times are nanoseconds after some fixed
start, as a clock counts them; nothing is assumed of their order.
-/

namespace CodeReport

/-- A notice with the time at which it ends, if it was started. -/
structure CopyNotice where
  deadline : Option Nat
  deriving Repr, DecidableEq

namespace CopyNotice

/-- How long the notice shows, in milliseconds. -/
def holdMilliseconds : Nat := 2000

/-- How long the notice shows, in nanoseconds. -/
def hold : Nat := 1000000 * holdMilliseconds

/-- No notice. -/
def idle : CopyNotice := ⟨none⟩

/-- Something was copied: the notice shows from now on for the whole time. -/
def trigger (_notice : CopyNotice) (now : Nat) : CopyNotice :=
  ⟨some (now + hold)⟩

/-- Whether the notice shows. -/
def isShown (notice : CopyNotice) (now : Nat) : Bool :=
  notice.deadline.any fun deadline => now < deadline

/-- The notice as it is after a look at it: a deadline that has passed is forgotten. -/
def look (notice : CopyNotice) (now : Nat) : CopyNotice :=
  if notice.isShown now then notice else idle

/-- How long the notice will still show. -/
def remaining (notice : CopyNotice) (now : Nat) : Nat :=
  match notice.deadline with
  | some deadline => deadline - now
  | none => 0

end CopyNotice

end CodeReport
