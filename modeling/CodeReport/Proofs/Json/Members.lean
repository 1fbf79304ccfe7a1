import CodeReport.Proofs.Json.Shape

/-!
# Members that are moved, put in or taken out

What a look-up finds after an edit of an object. An edit of one member is seen under
its own name and under no other. The order of members is not seen at all, as long as
no name stands there twice; of two members with one name the first is found, and it
would be another one in another order.
-/

namespace CodeReport.Json.Members

variable (members : Members) (name other : String)

/-- The members that are left when one is taken out by its name. -/
def without : Members :=
  members.filter fun member => member.1 ≠ name

/-- What is taken out is not found, and everything else is found as before. -/
theorem get?_without :
    (members.without name).get? other = if other = name then none else members.get? other := by
  induction members with
  | nil => exact (ite_self none).symm
  | cons member rest inductionHypothesis =>
    obtain ⟨first, value⟩ := member
    by_cases taken : first = name
    · have dropped : without ((first, value) :: rest) name = without rest name := by
        simp [without, taken]
      rw [dropped, inductionHypothesis, get?_cons, taken]
      by_cases same : other = name
      · rw [if_pos same, if_pos same]
      · rw [if_neg same, if_neg same, if_neg same]
    · have kept : without ((first, value) :: rest) name = (first, value) :: without rest name := by
        simp [without, taken]
      rw [kept, get?_cons, get?_cons, inductionHypothesis]
      by_cases found : other = first
      · have differs : other ≠ name := by
          rintro rfl
          exact taken found.symm
        rw [if_pos found, if_neg differs, if_pos found]
      · rw [if_neg found, if_neg found]

/-- A member is found with the value that was put in, and every other one as before. -/
theorem get?_insert (value : Value) :
    (members.insert name value).get? other =
      if other = name then some value else members.get? other := by
  by_cases same : other = name
  · rw [if_pos same, same, get?_insert_self]
  · rw [if_neg same]
    induction members with
    | nil => rw [insert, get?_cons, if_neg same]
    | cons member rest inductionHypothesis =>
      obtain ⟨first, old⟩ := member
      by_cases replaced : first = name
      · rw [insert, if_pos replaced, get?_cons, get?_cons, replaced, if_neg same, if_neg same]
      · rw [insert, if_neg replaced, get?_cons, get?_cons, inductionHypothesis]

/-- Members whose names are pairwise different are found in whatever order they stand. -/
theorem get?_perm {left right : Members} (distinct : left.names.Nodup)
    (permuted : left.Perm right) : left.get? name = right.get? name := by
  induction permuted with
  | nil => rfl
  | cons member _ inductionHypothesis =>
    have rest := (List.nodup_cons.mp distinct).2
    rw [get?_cons, get?_cons, inductionHypothesis rest]
  | swap first second rest =>
    have apart : first.1 ≠ second.1 := by
      intro same
      exact (List.nodup_cons.mp distinct).1 (same ▸ List.mem_cons_self)
    rw [get?_cons, get?_cons, get?_cons, get?_cons]
    by_cases found : name = first.1
    · have differs : name ≠ second.1 := found ▸ apart
      rw [if_neg differs, if_pos found, if_pos found]
    · rw [if_neg found, if_neg found]
  | trans once _ onceHypothesis againHypothesis =>
    have still := (once.map Prod.fst).nodup_iff.mp distinct
    exact (onceHypothesis distinct).trans (againHypothesis still)

end CodeReport.Json.Members
