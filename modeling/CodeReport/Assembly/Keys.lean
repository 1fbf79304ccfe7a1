import CodeReport.Report.Basic

/-!
# Numbering section keys

Sections with equal base keys are numbered in display order, so that the keys
of a report are pairwise different. The number of a section is one more than
the number of earlier sections with its base key.
-/

namespace CodeReport.Section

variable (digest : List UInt8 → List UInt8)

/-- Sections with their final keys, where `earlier` are the base keys of the sections before
    them. -/
def numberKeysAfter (earlier : List Key) : List Section → List Section
  | [] => []
  | block :: rest =>
    let base := block.baseKeyWith digest
    { block with key := base.withOccurrence (earlier.count base + 1) } ::
      numberKeysAfter (base :: earlier) rest

/-- Sections with their final keys under a digest. -/
def numberKeysWith (sections : List Section) : List Section :=
  numberKeysAfter digest [] sections

/-- Numbering the keys of one list and then another continues the count of the first. -/
theorem numberKeysAfter_append (earlier : List Key) (first second : List Section) :
    numberKeysAfter digest earlier (first ++ second) =
      numberKeysAfter digest earlier first ++
        numberKeysAfter digest ((first.map (baseKeyWith digest)).reverse ++ earlier) second := by
  induction first generalizing earlier with
  | nil => rfl
  | cons block rest ih => simp [numberKeysAfter, ih]

end CodeReport.Section
