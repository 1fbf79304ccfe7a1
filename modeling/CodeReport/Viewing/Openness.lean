import CodeReport.Report.Key

/-!
# Which sections are open

Every section is open until something is said about its key. What was said is
kept as one flag per key, so the number of closed keys counts no key twice. An
openness is pristine while no key has a flag, even a flag that says open.
-/

namespace CodeReport

/-- Put a flag under a key, in the place of the flag that is there. -/
def Openness.setFlag (key : Section.Key) (isOpen : Bool) :
    List (Section.Key × Bool) → List (Section.Key × Bool)
  | [] => [(key, isOpen)]
  | (other, flag) :: rest =>
    if other = key then (key, isOpen) :: rest else (other, flag) :: setFlag key isOpen rest

/-- A flag that is put in adds its key to the keys with flags and takes none away. -/
theorem Openness.mem_setFlag_keys (key other : Section.Key) (isOpen : Bool)
    (flags : List (Section.Key × Bool)) :
    other ∈ (setFlag key isOpen flags).map Prod.fst ↔
      other = key ∨ other ∈ flags.map Prod.fst := by
  induction flags with
  | nil => simp [setFlag]
  | cons first rest ih =>
    obtain ⟨name, flag⟩ := first
    by_cases same : name = key
    · subst same
      simp [setFlag]
    · simp only [setFlag, if_neg same, List.map_cons, List.mem_cons, ih]
      exact or_left_comm

/-- Keys with flags stay pairwise different when a flag is put in. -/
theorem Openness.nodup_setFlag (key : Section.Key) (isOpen : Bool)
    (flags : List (Section.Key × Bool)) (distinct : (flags.map Prod.fst).Nodup) :
    ((setFlag key isOpen flags).map Prod.fst).Nodup := by
  induction flags with
  | nil => simp [setFlag]
  | cons first rest ih =>
    obtain ⟨name, flag⟩ := first
    rw [List.map_cons, List.nodup_cons] at distinct
    by_cases same : name = key
    · subst same
      simpa [setFlag] using distinct
    · rw [setFlag, if_neg same, List.map_cons, List.nodup_cons, mem_setFlag_keys]
      exact ⟨fun either => either.elim same distinct.1, ih distinct.2⟩

/-- Flags for some keys. -/
structure Openness where
  flags : List (Section.Key × Bool)
  /-- No key has two flags. -/
  distinct : (flags.map Prod.fst).Nodup

namespace Openness

/-- Nothing is said about any key. -/
def pristine : Openness := ⟨[], List.nodup_nil⟩

/-- Whether nothing is said about any key. -/
def isPristine (openness : Openness) : Bool :=
  openness.flags.isEmpty

/-- Whether the section with a key is open. -/
def isOpen (openness : Openness) (key : Section.Key) : Bool :=
  (openness.flags.lookup key).getD true

/-- Open or close the section with a key. -/
def set (openness : Openness) (key : Section.Key) (isOpen : Bool) : Openness :=
  ⟨setFlag key isOpen openness.flags, nodup_setFlag key isOpen openness.flags openness.distinct⟩

/-- Close the section with a key if it is open, and open it if it is closed. -/
def toggle (openness : Openness) (key : Section.Key) : Openness :=
  openness.set key (!openness.isOpen key)

/-- Toggle the section with a key, and tell whether it is open then. -/
def flip (openness : Openness) (key : Section.Key) : Bool × Openness :=
  let isOpen := !openness.isOpen key
  (isOpen, openness.set key isOpen)

/-- Close the sections with some keys. -/
def close (openness : Openness) (keys : List Section.Key) : Openness :=
  keys.foldl (fun state key => state.set key false) openness

/-- How many keys are closed. -/
def closedCount (openness : Openness) : Nat :=
  openness.flags.countP fun flag => !flag.2

/-- The flag that was put in is found under its key, and other keys are as before. -/
theorem lookup_setFlag (key other : Section.Key) (isOpen : Bool)
    (flags : List (Section.Key × Bool)) :
    (setFlag key isOpen flags).lookup other =
      if other = key then some isOpen else flags.lookup other := by
  have decided (left right : Section.Key) : (left == right) = decide (left = right) := rfl
  induction flags with
  | nil => by_cases same : other = key <;> simp [setFlag, List.lookup_cons, decided, same]
  | cons first rest ih =>
    obtain ⟨name, flag⟩ := first
    by_cases same : name = key
    · subst same
      by_cases hit : other = name <;> simp [setFlag, List.lookup_cons, decided, hit]
    · rw [setFlag, if_neg same, List.lookup_cons, List.lookup_cons, ih]
      by_cases hit : other = name
      · subst hit
        simp [same]
      · simp [decided, hit]

/-- Setting one key changes what holds of that key alone. -/
theorem isOpen_set (openness : Openness) (key other : Section.Key) (isOpen : Bool) :
    (openness.set key isOpen).isOpen other =
      if other = key then isOpen else openness.isOpen other := by
  unfold Openness.isOpen set
  rw [lookup_setFlag]
  split <;> rfl

/-- A key that is toggled is open if it was closed, and other keys are as before. -/
theorem isOpen_toggle (openness : Openness) (key other : Section.Key) :
    (openness.toggle key).isOpen other =
      if other = key then !openness.isOpen key else openness.isOpen other :=
  isOpen_set openness key other (!openness.isOpen key)

/-- Closing some keys closes them and leaves others as they were. -/
theorem isOpen_close (openness : Openness) (keys : List Section.Key) (other : Section.Key) :
    (openness.close keys).isOpen other = if other ∈ keys then false else openness.isOpen other := by
  induction keys generalizing openness with
  | nil => simp [close]
  | cons key rest inductionHypothesis =>
    have later := inductionHypothesis (openness.set key false)
    rw [isOpen_set] at later
    rw [close, List.foldl_cons, ← close, later]
    by_cases first : other = key
    · simp [first]
    · simp [first]

end Openness

end CodeReport
