import CodeReport.Text.Lines
import Mathlib.Data.List.DropRight

/-!
# Blank texts

Whether a text is blank is asked in three ways: of all its characters, of what is
left when its blank ends are dropped, and of its paragraphs. The three answers are
the same for every text.

A pair of line feeds divides paragraphs and a line feed is blank, so the division
takes nothing out of a text that is not blank.

What trimming leaves is described by where it stands in the text: between blank
characters, and blank at neither of its own ends.
-/

namespace CodeReport.Text

/-- Dropping blank characters at the start leaves something unless all are blank. -/
theorem dropBlankStart_eq_nil_iff (characters : List Char) :
    dropBlankStart characters = [] ↔ ∀ c ∈ characters, isBlank c = true :=
  List.dropWhile_eq_nil_iff

/-- Dropping blank characters at the end leaves something unless all are blank. -/
theorem dropBlankEnd_eq_nil_iff (characters : List Char) :
    dropBlankEnd characters = [] ↔ ∀ c ∈ characters, isBlank c = true := by
  rw [dropBlankEnd, List.reverse_eq_nil_iff, List.dropWhile_eq_nil_iff]
  simp only [List.mem_reverse]

/-- What is left behind blank characters is blank only if everything is. -/
theorem blank_dropBlankStart_iff (characters : List Char) :
    (∀ c ∈ dropBlankStart characters, isBlank c = true) ↔ ∀ c ∈ characters, isBlank c = true := by
  constructor
  · intro blank
    have again : dropBlankStart (dropBlankStart characters) = [] :=
      (dropBlankStart_eq_nil_iff _).mpr blank
    have once : dropBlankStart characters = [] := by
      rwa [dropBlankStart, dropBlankStart, List.dropWhile_idempotent] at again
    exact (dropBlankStart_eq_nil_iff _).mp once
  · intro blank c member
    exact blank c ((List.dropWhile_suffix _).subset member)

/-- Dropping the blank ends leaves something unless all characters are blank. -/
theorem dropBlankEnds_eq_nil_iff (characters : List Char) :
    dropBlankEnds characters = [] ↔ ∀ c ∈ characters, isBlank c = true := by
  rw [dropBlankEnds, dropBlankEnd_eq_nil_iff, blank_dropBlankStart_iff]

/-- A text is blank exactly if each of its characters is. -/
theorem isBlankText_iff (text : String) :
    isBlankText text = true ↔ ∀ c ∈ text.toList, isBlank c = true :=
  List.all_eq_true

/-- A text that begins with one that is not blank is not blank. -/
theorem not_blank_append (first second : String) (written : isBlankText first = false) :
    isBlankText (first ++ second) = false := by
  rw [isBlankText, String.toList_append, List.all_append, ← isBlankText, written, Bool.false_and]

/-- A text without its blank ends is blank only if it is empty: the last of the characters that are
left is not blank. -/
theorem isBlankText_trim (text : String) (rest : (trim text).isEmpty = false) :
    isBlankText (trim text) = false := by
  rw [← Bool.not_eq_true, isBlankText_iff, trim, String.toList_ofList]
  intro blank
  have kept : dropBlankEnds text.toList ≠ [] := by
    intro nothing
    rw [trim, nothing] at rest
    cases rest
  have again : dropBlankEnd (dropBlankEnds text.toList) = [] :=
    (dropBlankEnd_eq_nil_iff _).mpr blank
  apply kept
  rwa [dropBlankEnds, dropBlankEnd, dropBlankEnd, List.reverse_reverse,
    List.dropWhile_idempotent] at again

/-- Trimming leaves nothing of a text exactly if it is blank. -/
theorem isEmpty_trim (text : String) : (trim text).isEmpty = isBlankText text := by
  rw [Bool.eq_iff_iff, isBlankText_iff, ← dropBlankEnds_eq_nil_iff, String.isEmpty_iff, trim]
  simp

/-- What is left of items when those of a class are dropped at their end: all that stand there, and
no others. -/
structure IsCut {α : Type} (isDropped : α → Bool) (items kept : List α) : Prop where
  within : ∃ dropped, items = kept ++ dropped ∧ ∀ item ∈ dropped, isDropped item = true
  ends : ∀ item ∈ kept.getLast?, isDropped item = false

/-- Dropping items at the end while they are of a class leaves what has to be left. -/
theorem isCut_rdropWhile {α : Type} (isDropped : α → Bool) (items : List α) :
    IsCut isDropped items (items.rdropWhile isDropped) where
  within := ⟨items.rtakeWhile isDropped, List.rdropWhile_append_rtakeWhile.symm,
    fun _ => List.mem_rtakeWhile_imp⟩
  ends := by
    intro item last
    have some : items.rdropWhile isDropped ≠ [] := by
      intro nothing
      rw [nothing] at last
      cases last
    rw [← (List.getLast_eq_iff_getLast?_eq_some some).mpr last, ← Bool.not_eq_true]
    exact List.rdropWhile_last_not isDropped items some

/-- There is one way only to drop them. -/
theorem IsCut.eq_rdropWhile {α : Type} {isDropped : α → Bool} {items kept : List α}
    (cut : IsCut isDropped items kept) : kept = items.rdropWhile isDropped := by
  obtain ⟨⟨dropped, rfl, each⟩, ends⟩ := cut
  have stops : kept.rdropWhile isDropped = kept := by
    refine List.rdropWhile_eq_self_iff.mpr fun some => ?_
    rw [ends _ (List.getLast?_eq_some_getLast some)]
    exact Bool.false_ne_true
  rw [List.rdropWhile, List.reverse_append, List.dropWhile_append_of_pos fun item member =>
    each item (List.mem_reverse.mp member)]
  exact stops.symm

/-- The last of the characters that are left by dropping blank ones at the end is not blank. -/
theorem getLast?_dropBlankEnd (characters : List Char) :
    ∀ c ∈ (dropBlankEnd characters).getLast?, isBlank c = false :=
  (isCut_rdropWhile isBlank characters).ends

/-- Blank characters behind a text that is not blank at its own end are dropped, and no others. -/
theorem dropBlankEnd_append (kept dropped : List Char) (blank : ∀ c ∈ dropped, isBlank c = true)
    (ends : ∀ c ∈ kept.getLast?, isBlank c = false) : dropBlankEnd (kept ++ dropped) = kept := by
  have cut : IsCut isBlank (kept ++ dropped) kept := ⟨⟨dropped, rfl, blank⟩, ends⟩
  exact cut.eq_rdropWhile.symm

/-- What begins a text and is not blank at its own end also begins what is left of the text when
blank characters are dropped behind it. -/
theorem prefix_of_blank_behind (core kept dropped : List Char) (begins : core <+: kept ++ dropped)
    (blank : ∀ c ∈ dropped, isBlank c = true)
    (ends : ∀ c ∈ core.getLast?, isBlank c = false) : core <+: kept := by
  rcases List.prefix_or_prefix_of_prefix begins (List.prefix_append kept dropped) with
    within | beyond
  · exact within
  · -- What is beyond `kept` is blank, and so would be the last character of `core`.
    obtain ⟨more, rfl⟩ := beyond
    have inDropped : more <+: dropped := (List.prefix_append_right_inj kept).mp begins
    cases last : more.getLast? with
    | none =>
      obtain rfl := List.getLast?_eq_none_iff.mp last
      exact ⟨[], by simp⟩
    | some c =>
      have member : c ∈ dropped := inDropped.subset (List.mem_of_getLast? last)
      have visible : isBlank c = false := ends c (by rw [List.getLast?_append, last]; rfl)
      rw [blank c member] at visible
      cases visible

/-- What is left of a text between the blank characters at its ends. -/
structure IsTrimmed (text core : String) : Prop where
  within : ∃ front back, text.toList = front ++ core.toList ++ back ∧
    (∀ c ∈ front, isBlank c = true) ∧ ∀ c ∈ back, isBlank c = true
  begins : ∀ c ∈ core.toList.head?, isBlank c = false
  ends : ∀ c ∈ core.toList.getLast?, isBlank c = false

/-- Trimming drops the blank ends, and nothing but them. -/
theorem isTrimmed_trim (text : String) : IsTrimmed text (trim text) := by
  obtain ⟨back, kept, blankBack⟩ := dropBlankEnd_append_blank (dropBlankStart text.toList)
  have core : (trim text).toList = dropBlankEnd (dropBlankStart text.toList) := by
    rw [trim, String.toList_ofList, dropBlankEnds]
  constructor
  · refine ⟨text.toList.takeWhile isBlank, back, ?_, ?_, blankBack⟩
    · rw [core, List.append_assoc, ← kept]
      exact List.takeWhile_append_dropWhile.symm
    · intro c member
      exact List.all_eq_true.mp List.all_takeWhile c member
  · intro c first
    rw [core, Option.mem_def] at first
    have begun : (dropBlankStart text.toList).head? = some c := by
      rw [kept, List.head?_append, first, Option.some_or]
    have stopped := List.head?_dropWhile_not isBlank text.toList
    rw [← dropBlankStart, begun] at stopped
    exact stopped
  · intro c last
    rw [core] at last
    exact getLast?_dropBlankEnd _ c last

/-- There is one way only to drop the blank ends of a text and nothing but them. -/
theorem IsTrimmed.eq_trim {text core : String} (trimmed : IsTrimmed text core) :
    core = trim text := by
  obtain ⟨⟨front, back, whole, blankFront, blankBack⟩, begins, ends⟩ := trimmed
  have behindFront : dropBlankStart text.toList = dropBlankStart (core.toList ++ back) := by
    rw [whole, List.append_assoc]
    exact List.dropWhile_append_of_pos blankFront
  rw [← String.toList_inj, trim, String.toList_ofList, dropBlankEnds, behindFront]
  cases written : core.toList with
  | nil =>
    symm
    rw [List.nil_append, dropBlankEnd_eq_nil_iff, blank_dropBlankStart_iff]
    exact blankBack
  | cons c rest =>
    have first : isBlank c = false := by
      apply begins
      rw [written]
      rfl
    have stops : dropBlankStart (c :: rest ++ back) = c :: rest ++ back := by
      rw [dropBlankStart, List.cons_append, List.dropWhile_cons, first]
      rfl
    rw [written] at ends
    rw [stops, dropBlankEnd_append (c :: rest) back blankBack ends]

/-- A text is trimmed to itself exactly if it is blank at neither end. -/
theorem trim_eq_self_iff (text : String) :
    trim text = text ↔
      (∀ c ∈ text.toList.head?, isBlank c = false) ∧
        ∀ c ∈ text.toList.getLast?, isBlank c = false := by
  constructor
  · intro same
    have trimmed := isTrimmed_trim text
    rw [same] at trimmed
    exact ⟨trimmed.begins, trimmed.ends⟩
  · rintro ⟨begins, ends⟩
    have trimmed : IsTrimmed text text := ⟨⟨[], [], by simp, nofun, nofun⟩, begins, ends⟩
    exact trimmed.eq_trim.symm

/-- Putting a character in front of the first chunk adds it to the characters of all chunks. -/
theorem forall_openChunk (character : Char) (chunks : List (List Char)) (good : Char → Prop) :
    (∀ chunk ∈ openChunk character chunks, ∀ c ∈ chunk, good c) ↔
      good character ∧ ∀ chunk ∈ chunks, ∀ c ∈ chunk, good c := by
  cases chunks with
  | nil => simp [openChunk]
  | cons first rest => simp [openChunk, and_assoc]

/-- The chunks of a text hold all of its characters but line feeds, which are blank. -/
theorem blank_chunks_iff (characters : List Char) :
    (∀ chunk ∈ chunkCharacters characters, ∀ c ∈ chunk, isBlank c = true) ↔
      ∀ c ∈ characters, isBlank c = true := by
  fun_induction chunkCharacters characters with
  | case1 => simp
  | case2 rest inductionHypothesis =>
    have feed : isBlank '\n' = true := rfl
    simp only [List.forall_mem_cons, inductionHypothesis, feed, true_and]
    simp
  | case3 character rest _ inductionHypothesis =>
    rw [forall_openChunk, inductionHypothesis, List.forall_mem_cons]

/-- A text has no paragraphs exactly if it is blank. -/
theorem paragraphs_eq_nil_iff (text : String) :
    paragraphs text = [] ↔ isBlankText text = true := by
  rw [isBlankText_iff, ← blank_chunks_iff, paragraphs, List.filterMap_eq_nil_iff]
  simp only [List.forall_mem_map, ← dropBlankEnds_eq_nil_iff]
  constructor
  · intro none chunk member
    have skipped := none chunk member
    by_cases nothing : dropBlankEnds chunk = []
    · exact nothing
    · simp [nothing] at skipped
  · intro blank chunk member
    rw [blank chunk member]
    rfl

end CodeReport.Text
