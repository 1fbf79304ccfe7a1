import CodeReport.Proofs.Text.Blank
import Mathlib.Data.List.Pairwise

/-!
# What the paragraphs of a text keep

A text is divided into paragraphs at pairs of line feeds. Each paragraph is a
stretch of the text, the stretches follow one another in the order of the text,
and nothing that is not blank is left between them.

Between one stretch and the next stands a pair of line feeds, and there is none
within a stretch. So of two characters that are not blank it can be said without
the paragraphs whether they belong to the same one: exactly if no pair of line
feeds stands between them. An odd run of line feeds makes no difference, since
what is over is blank and stands at an end of a chunk.
-/

namespace CodeReport.Text

/-- The characters that are not blank. -/
def visible (characters : List Char) : List Char :=
  characters.filter fun c => !isBlank c

/-- A character that is not blank stands at a place. -/
def VisibleAt (characters : List Char) (place : Nat) : Prop :=
  ∃ c, characters[place]? = some c ∧ isBlank c = false

/-- Two adjacent line feeds stand at a place. -/
def PairAt (characters : List Char) (place : Nat) : Prop :=
  characters[place]? = some '\n' ∧ characters[place + 1]? = some '\n'

/-- Some characters from a place on. -/
structure Stretch where
  start : Nat
  characters : List Char
  deriving Repr, DecidableEq

namespace Stretch

/-- The place behind a stretch. -/
def finish (stretch : Stretch) : Nat :=
  stretch.start + stretch.characters.length

/-- The characters of a stretch, as a text. -/
def text (stretch : Stretch) : String :=
  String.ofList stretch.characters

/-- The characters of a stretch are those of a text at its places. -/
def IsIn (stretch : Stretch) (whole : List Char) : Prop :=
  stretch.characters <+: whole.drop stretch.start

/-- A place lies in a stretch. -/
def Covers (stretch : Stretch) (place : Nat) : Prop :=
  stretch.start ≤ place ∧ place < stretch.finish

/-- A pair of line feeds stands behind the one stretch and in front of the other. -/
def Apart (whole : List Char) (first second : Stretch) : Prop :=
  ∃ place, first.finish ≤ place ∧ place + 2 ≤ second.start ∧ PairAt whole place

/-- The same characters further back. -/
def shift (places : Nat) (stretch : Stretch) : Stretch :=
  ⟨places + stretch.start, stretch.characters⟩

end Stretch

/-- What a paragraph looks like: neither its first nor its last character is blank, and no two
adjacent line feeds stand in it. -/
structure IsParagraph (characters : List Char) : Prop where
  begins : ∃ c, characters.head? = some c ∧ isBlank c = false
  ends : ∃ c, characters.getLast? = some c ∧ isBlank c = false
  unpaired : ∀ place, ¬ PairAt characters place

/-- Stretches of a text divide it into paragraphs: a pair of line feeds stands between each and all
later ones, and all characters that are not blank lie in them. -/
structure Divides (stretches : List Stretch) (whole : List Char) : Prop where
  inside : ∀ stretch ∈ stretches, stretch.IsIn whole
  paragraph : ∀ stretch ∈ stretches, IsParagraph stretch.characters
  apart : stretches.Pairwise (Stretch.Apart whole)
  covered : ∀ place, VisibleAt whole place → ∃ stretch ∈ stretches, stretch.Covers place

/-- A place behind some characters is a place of what follows them. -/
theorem getElem?_behind (front back : List Char) (place : Nat) :
    (front ++ back)[front.length + place]? = back[place]? := by
  rw [List.getElem?_append_right (Nat.le_add_right _ _), Nat.add_sub_cancel_left]

/-- A pair of line feeds stands where it stood, further back. -/
theorem pairAt_behind (front back : List Char) (place : Nat) :
    PairAt (front ++ back) (front.length + place) ↔ PairAt back place := by
  rw [PairAt, PairAt, Nat.add_assoc, getElem?_behind, getElem?_behind]

/-- A visible character stands where it stood, further back. -/
theorem visibleAt_behind (front back : List Char) (place : Nat) :
    VisibleAt (front ++ back) (front.length + place) ↔ VisibleAt back place := by
  rw [VisibleAt, VisibleAt, getElem?_behind]

/-- A pair of line feeds that stands in front stands in the whole. -/
theorem PairAt.append {front : List Char} {place : Nat} (pair : PairAt front place)
    (back : List Char) : PairAt (front ++ back) place := by
  obtain ⟨first, second⟩ := pair
  obtain ⟨before, -⟩ := List.getElem?_eq_some_iff.mp second
  constructor
  · rw [List.getElem?_append_left (by omega), first]
  · rw [List.getElem?_append_left before, second]

namespace Stretch

variable {stretch : Stretch} {whole : List Char}

/-- A stretch shows the text at the places that it covers. -/
theorem IsIn.getElem? (inside : stretch.IsIn whole) {place : Nat} (covers : stretch.Covers place) :
    whole[place]? = stretch.characters[place - stretch.start]? := by
  obtain ⟨rest, split⟩ := inside
  obtain ⟨from_, before⟩ := covers
  have there : place = stretch.start + (place - stretch.start) := by omega
  rw [finish] at before
  conv_lhs => rw [there, ← List.getElem?_drop, ← split]
  exact List.getElem?_append_left (by omega)

/-- A stretch of what follows some characters, further back. -/
theorem IsIn.shift (inside : stretch.IsIn whole) (front : List Char) :
    (stretch.shift front.length).IsIn (front ++ whole) := by
  rw [IsIn, Stretch.shift, List.drop_append, List.drop_eq_nil_of_le (Nat.le_add_right _ _),
    Nat.add_sub_cancel_left]
  exact inside

/-- A stretch covers a place further back when both are moved. -/
theorem Covers.shift {place : Nat} (covers : stretch.Covers place) (places : Nat) :
    (stretch.shift places).Covers (places + place) := by
  obtain ⟨from_, before⟩ := covers
  rw [finish] at before
  constructor
  · exact Nat.add_le_add_left from_ places
  · simp only [finish, Stretch.shift]
    omega

/-- Stretches stay apart when the text they stand in is moved back. -/
theorem Apart.shift {first second : Stretch} (apart : Apart whole first second)
    (front : List Char) :
    Apart (front ++ whole) (first.shift front.length) (second.shift front.length) := by
  obtain ⟨place, behindFirst, beforeSecond, pair⟩ := apart
  refine ⟨front.length + place, ?_, ?_, (pairAt_behind front whole place).mpr pair⟩
  · simp only [finish, Stretch.shift] at behindFirst ⊢
    omega
  · simp only [Stretch.shift]
    omega

end Stretch

namespace Divides

variable {stretches : List Stretch} {whole : List Char}

/-- A blank text has no paragraphs. -/
theorem blank (gap : List Char) (isGap : ∀ c ∈ gap, isBlank c = true) : Divides [] gap where
  inside _ none := nomatch none
  paragraph _ none := nomatch none
  apart := .nil
  covered := by
    rintro place ⟨c, there, written⟩
    rw [isGap c (List.mem_of_getElem? there)] at written
    cases written

section Behind

variable (divides : Divides stretches whole) (front : List Char)
include divides

/-- What is put in front of a text moves its paragraphs back. -/
theorem inside_shift :
    ∀ stretch ∈ stretches.map (Stretch.shift front.length), stretch.IsIn (front ++ whole) :=
  List.forall_mem_map.mpr fun stretch member => (divides.inside stretch member).shift front

/-- Paragraphs stay apart when a text is put in front. -/
theorem apart_shift :
    (stretches.map (Stretch.shift front.length)).Pairwise (Stretch.Apart (front ++ whole)) :=
  List.pairwise_map.mpr (divides.apart.imp fun apart => apart.shift front)

/-- What is visible behind the text in front lies in the paragraphs that were moved. -/
theorem covered_shift (place : Nat) (behind : front.length ≤ place)
    (seen : VisibleAt (front ++ whole) place) :
    ∃ stretch ∈ stretches.map (Stretch.shift front.length), stretch.Covers place := by
  obtain ⟨further, rfl⟩ := Nat.exists_eq_add_of_le behind
  obtain ⟨stretch, member, covers⟩ :=
    divides.covered further ((visibleAt_behind front whole further).mp seen)
  exact ⟨_, List.mem_map_of_mem member, covers.shift front.length⟩

/-- Blank characters in front of a text belong to no paragraph. -/
theorem behind_blank (isGap : ∀ c ∈ front, isBlank c = true) :
    Divides (stretches.map (Stretch.shift front.length)) (front ++ whole) where
  inside := divides.inside_shift front
  paragraph := List.forall_mem_map.mpr divides.paragraph
  apart := divides.apart_shift front
  covered := by
    intro place seen
    refine divides.covered_shift front place (Nat.le_of_not_lt fun inGap => ?_) seen
    obtain ⟨c, there, written⟩ := seen
    rw [List.getElem?_append_left inGap] at there
    rw [isGap c (List.mem_of_getElem? there)] at written
    cases written

/-- A paragraph in front of a text comes first, if pairs of line feeds keep the others apart from
it. -/
theorem behind_paragraph (isParagraph : IsParagraph front)
    (ahead : ∀ stretch ∈ stretches, ∃ place, place + 2 ≤ stretch.start ∧ PairAt whole place) :
    Divides (⟨0, front⟩ :: stretches.map (Stretch.shift front.length)) (front ++ whole) where
  inside := List.forall_mem_cons.mpr ⟨List.prefix_append front whole, divides.inside_shift front⟩
  paragraph := List.forall_mem_cons.mpr ⟨isParagraph, List.forall_mem_map.mpr divides.paragraph⟩
  apart := by
    refine List.pairwise_cons.mpr ⟨List.forall_mem_map.mpr fun stretch member => ?_,
      divides.apart_shift front⟩
    obtain ⟨place, before, pair⟩ := ahead stretch member
    refine ⟨front.length + place, ?_, ?_, (pairAt_behind front whole place).mpr pair⟩
    · simp only [Stretch.finish]
      omega
    · simp only [Stretch.shift]
      omega
  covered := by
    intro place seen
    by_cases behind : front.length ≤ place
    · obtain ⟨stretch, member, covers⟩ := divides.covered_shift front place behind seen
      exact ⟨stretch, List.mem_cons_of_mem _ member, covers⟩
    · refine ⟨⟨0, front⟩, List.mem_cons_self, Nat.zero_le place, ?_⟩
      rw [Stretch.finish, Nat.zero_add]
      exact Nat.lt_of_not_le behind

end Behind

end Divides

/-- The first chunk stands at the start of the text. -/
theorem chunkCharacters_begins (characters : List Char) :
    ∃ first others, chunkCharacters characters = first :: others ∧ first <+: characters := by
  fun_induction chunkCharacters characters with
  | case1 => exact ⟨[], [], rfl, List.prefix_rfl⟩
  | case2 rest _ => exact ⟨[], _, rfl, List.nil_prefix⟩
  | case3 character rest _ inductionHypothesis =>
    obtain ⟨first, others, chunks, begins⟩ := inductionHypothesis
    rw [chunks, openChunk]
    exact ⟨_, _, rfl, List.cons_prefix_cons.mpr ⟨rfl, begins⟩⟩

/-- A character opens a pair only if both it and the next one are line feeds. -/
theorem unpaired_cons (character : Char) (rest : List Char)
    (opens : character = '\n' → rest.head? ≠ some '\n') (unpaired : ∀ place, ¬ PairAt rest place)
    (place : Nat) : ¬ PairAt (character :: rest) place := by
  cases place with
  | zero =>
    rintro ⟨first, second⟩
    refine opens (Option.some.inj first) ?_
    rw [List.head?_eq_getElem?]
    exact second
  | succ place => exact unpaired place

/-- No pair of line feeds is left within a chunk. -/
theorem unpaired_chunks (characters : List Char) :
    ∀ chunk ∈ chunkCharacters characters, ∀ place, ¬ PairAt chunk place := by
  have unpaired_nil (place : Nat) : ¬ PairAt [] place := nofun
  fun_induction chunkCharacters characters with
  | case1 => exact List.forall_mem_singleton.mpr unpaired_nil
  | case2 rest inductionHypothesis =>
    exact List.forall_mem_cons.mpr ⟨unpaired_nil, inductionHypothesis⟩
  | case3 character rest alone inductionHypothesis =>
    obtain ⟨first, others, chunks, more, begins⟩ := chunkCharacters_begins rest
    rw [chunks] at inductionHypothesis ⊢
    obtain ⟨unpaired, later⟩ := List.forall_mem_cons.mp inductionHypothesis
    refine List.forall_mem_cons.mpr ⟨unpaired_cons character first ?_ unpaired, later⟩
    intro isFeed nextFeed
    obtain ⟨_, rfl⟩ := List.head?_eq_some_iff.mp nextFeed
    exact alone _ isFeed begins.symm

/-- The chunks are the text but for the pairs of line feeds between them. -/
theorem intercalate_chunks (characters : List Char) :
    List.intercalate ['\n', '\n'] (chunkCharacters characters) = characters := by
  fun_induction chunkCharacters characters with
  | case1 => rfl
  | case2 rest inductionHypothesis =>
    obtain ⟨first, others, chunks, -⟩ := chunkCharacters_begins rest
    rw [chunks] at inductionHypothesis ⊢
    rw [List.intercalate_cons_cons, inductionHypothesis]
    rfl
  | case3 character rest _ inductionHypothesis =>
    obtain ⟨first, others, chunks, -⟩ := chunkCharacters_begins rest
    rw [chunks] at inductionHypothesis ⊢
    rw [openChunk, ← inductionHypothesis]
    cases others with
    | nil => rfl
    | cons second others => rfl

/-- What is left without the blank ends stands between them. -/
theorem dropBlankEnds_within (characters : List Char) :
    ∃ front back, characters = front ++ dropBlankEnds characters ++ back ∧
      (∀ c ∈ front, isBlank c = true) ∧ ∀ c ∈ back, isBlank c = true := by
  simpa only [trim, String.toList_ofList] using (isTrimmed_trim (String.ofList characters)).within

/-- A chunk that is not blank is a paragraph without its blank ends. -/
theorem isParagraph_dropBlankEnds (chunk : List Char) (unpaired : ∀ place, ¬ PairAt chunk place)
    (written : dropBlankEnds chunk ≠ []) : IsParagraph (dropBlankEnds chunk) := by
  have trimmed := isTrimmed_trim (String.ofList chunk)
  have begins := trimmed.begins
  have ends := trimmed.ends
  simp only [trim, String.toList_ofList] at begins ends
  obtain ⟨front, back, whole, -, -⟩ := dropBlankEnds_within chunk
  refine ⟨⟨_, List.head?_eq_some_head written, begins _ (List.head?_eq_some_head written)⟩,
    ⟨_, List.getLast?_eq_some_getLast written, ends _ (List.getLast?_eq_some_getLast written)⟩,
    fun place pair => unpaired (front.length + place) ?_⟩
  rw [whole, List.append_assoc]
  exact (pairAt_behind _ _ _).mpr (pair.append back)

/-- A chunk in front of a text adds its paragraph, or nothing if it is blank. -/
theorem divides_chunk {stretches : List Stretch} {whole : List Char}
    (divides : Divides stretches whole) (chunk : List Char)
    (unpaired : ∀ place, ¬ PairAt chunk place)
    (ahead : ∀ stretch ∈ stretches, ∃ place, place + 2 ≤ stretch.start ∧ PairAt whole place) :
    ∃ found, Divides found (chunk ++ whole) ∧
      found.map Stretch.characters =
        [dropBlankEnds chunk].filter (!·.isEmpty) ++ stretches.map Stretch.characters := by
  have shifted (places : Nat) (moved : List Stretch) :
      (moved.map (Stretch.shift places)).map Stretch.characters =
        moved.map Stretch.characters := by
    rw [List.map_map]
    rfl
  by_cases written : dropBlankEnds chunk = []
  · refine ⟨_, divides.behind_blank chunk ((dropBlankEnds_eq_nil_iff chunk).mp written), ?_⟩
    rw [shifted, written]
    rfl
  · obtain ⟨front, back, split, isFront, isBack⟩ := dropBlankEnds_within chunk
    -- The blank end of the chunk comes in front of the text, then the paragraph, then the start.
    have behindBack := divides.behind_blank back isBack
    have behindCore := behindBack.behind_paragraph (dropBlankEnds chunk)
      (isParagraph_dropBlankEnds chunk unpaired written) (by
        refine List.forall_mem_map.mpr fun stretch member => ?_
        obtain ⟨place, before, pair⟩ := ahead stretch member
        refine ⟨back.length + place, ?_, (pairAt_behind back whole place).mpr pair⟩
        simp only [Stretch.shift]
        omega)
    have behindFront := behindCore.behind_blank front isFront
    rw [← List.append_assoc, ← List.append_assoc, ← split] at behindFront
    refine ⟨_, behindFront, ?_⟩
    rw [shifted, List.map_cons, shifted, shifted]
    simp [written]

/-- Chunks without pairs of line feeds, joined by such pairs, are divided into what is left of each
without its blank ends. -/
theorem divides_chunks (chunks : List (List Char))
    (unpaired : ∀ chunk ∈ chunks, ∀ place, ¬ PairAt chunk place) :
    ∃ stretches, Divides stretches (List.intercalate ['\n', '\n'] chunks) ∧
      stretches.map Stretch.characters = (chunks.map dropBlankEnds).filter (!·.isEmpty) := by
  match chunks with
  | [] => exact ⟨[], .blank [] nofun, rfl⟩
  | [chunk] =>
    obtain ⟨stretches, divides, texts⟩ :=
      divides_chunk (.blank [] nofun) chunk (unpaired chunk List.mem_cons_self) nofun
    exact ⟨stretches, divides, texts.trans (List.append_nil _)⟩
  | chunk :: next :: others =>
    obtain ⟨here, later⟩ := List.forall_mem_cons.mp unpaired
    obtain ⟨stretches, divides, texts⟩ := divides_chunks (next :: others) later
    -- The pair that joins the chunk to the others is blank, and stands in front of all of them.
    have joined := divides.behind_blank ['\n', '\n']
      (List.forall_mem_cons.mpr ⟨rfl, List.forall_mem_singleton.mpr rfl⟩)
    obtain ⟨found, dividesAll, allTexts⟩ := divides_chunk joined chunk here (by
      refine List.forall_mem_map.mpr fun stretch _ => ⟨0, ?_, rfl, rfl⟩
      simp [Stretch.shift])
    refine ⟨found, ?_, ?_⟩
    · rw [List.intercalate_cons_cons, List.append_assoc]
      exact dividesAll
    · rw [allTexts, List.map_map]
      exact (congrArg ([dropBlankEnds chunk].filter (!·.isEmpty) ++ ·) texts).trans
        (List.filter_append [dropBlankEnds chunk] _).symm

/-- The paragraphs are what is left of the chunks without their blank ends, if anything is. -/
theorem paragraphs_eq (content : String) :
    paragraphs content =
      (((chunkCharacters content.toList).map dropBlankEnds).filter (!·.isEmpty)).map
        String.ofList := by
  rw [paragraphs]
  induction (chunkCharacters content.toList).map dropBlankEnds with
  | nil => rfl
  | cons chunk rest inductionHypothesis =>
    cases chunk with
    | nil => exact inductionHypothesis
    | cons c others => exact congrArg (String.ofList (c :: others) :: ·) inductionHypothesis

/-- The paragraphs of a text are stretches of it that divide it. -/
theorem divides_paragraphs (content : String) :
    ∃ stretches, stretches.map Stretch.text = paragraphs content ∧
      Divides stretches content.toList := by
  obtain ⟨stretches, divides, texts⟩ :=
    divides_chunks (chunkCharacters content.toList) (unpaired_chunks content.toList)
  refine ⟨stretches, ?_, by rwa [intercalate_chunks] at divides⟩
  rw [paragraphs_eq, ← texts, List.map_map]
  rfl

/-- Three line feeds divide as two do, and a single one does not. -/
example : paragraphs "\u00a0a\n\n\nb\nc \n\n \n\n" = ["a", "b\nc"] := by
  decide

/-- Of two characters that are not blank it is said without the paragraphs whether they belong to
the same one. -/
theorem Divides.together_iff {stretches : List Stretch} {whole : List Char}
    (divides : Divides stretches whole) {first second : Nat} (before : first < second)
    (seenFirst : VisibleAt whole first) (seenSecond : VisibleAt whole second) :
    (∃ stretch ∈ stretches, stretch.Covers first ∧ stretch.Covers second) ↔
      ¬ ∃ place, first < place ∧ place + 1 < second ∧ PairAt whole place := by
  constructor
  · rintro ⟨stretch, member, ⟨start, -⟩, ⟨-, finish⟩⟩ ⟨place, behind, ahead, pair⟩
    have inside := divides.inside stretch member
    have here : stretch.Covers place := ⟨by omega, by omega⟩
    have next : stretch.Covers (place + 1) := ⟨by omega, by omega⟩
    have further : place + 1 - stretch.start = place - stretch.start + 1 := by omega
    rw [PairAt, inside.getElem? here, inside.getElem? next, further] at pair
    exact (divides.paragraph stretch member).unpaired _ pair
  · intro none
    obtain ⟨stretch, member, covers⟩ := divides.covered first seenFirst
    obtain ⟨other, otherMember, otherCovers⟩ := divides.covered second seenSecond
    by_cases same : stretch = other
    · exact ⟨stretch, member, covers, same ▸ otherCovers⟩
    · exfalso
      obtain ⟨start, finish⟩ := covers
      obtain ⟨otherStart, otherFinish⟩ := otherCovers
      have either : stretches.Pairwise fun one two =>
          Stretch.Apart whole one two ∨ Stretch.Apart whole two one := divides.apart.imp .inl
      have symmetric : Std.Symm fun one two =>
          Stretch.Apart whole one two ∨ Stretch.Apart whole two one := ⟨fun _ _ => Or.symm⟩
      rcases either.forall member otherMember same with
        ⟨place, behind, ahead, pair⟩ | ⟨place, behind, ahead, pair⟩
      · exact none ⟨place, by omega, by omega, pair⟩
      · omega

/-- Dropping the blank ends drops nothing that is not blank. -/
theorem visible_dropBlankEnds (characters : List Char) :
    visible (dropBlankEnds characters) = visible characters := by
  obtain ⟨front, back, split, isFront, isBack⟩ := dropBlankEnds_within characters
  have none (gap : List Char) (isGap : ∀ c ∈ gap, isBlank c = true) : visible gap = [] := by
    refine List.filter_eq_nil_iff.mpr fun c member => ?_
    rw [isGap c member]
    exact Bool.false_ne_true
  conv_rhs => rw [split]
  rw [visible, visible, List.filter_append, List.filter_append, ← visible, ← visible, ← visible,
    none front isFront, none back isBack, List.nil_append, List.append_nil]

/-- The chunks hold everything that is not blank, in order. -/
theorem visible_chunks (characters : List Char) :
    (chunkCharacters characters).flatMap visible = visible characters := by
  fun_induction chunkCharacters characters with
  | case1 => rfl
  | case2 rest inductionHypothesis => exact inductionHypothesis
  | case3 character rest _ inductionHypothesis =>
    obtain ⟨first, others, chunks, -⟩ := chunkCharacters_begins rest
    rw [chunks, List.flatMap_cons] at inductionHypothesis
    rw [chunks, openChunk, List.flatMap_cons, visible, ← List.singleton_append, List.filter_append,
      List.append_assoc, ← visible, ← visible, inductionHypothesis, visible, visible,
      ← List.filter_append]
    rfl

/-- The paragraphs hold everything that is not blank, in order. -/
theorem visible_paragraphs (content : String) :
    visible ((paragraphs content).flatMap String.toList) = visible content.toList := by
  have joined : (paragraphs content).flatMap String.toList =
      ((chunkCharacters content.toList).map dropBlankEnds).flatten := by
    rw [paragraphs_eq, List.flatMap_map]
    simp only [String.toList_ofList]
    exact List.flatMap_id'.trans List.flatten_filter_not_isEmpty
  calc
    _ = (((chunkCharacters content.toList).map dropBlankEnds).map visible).flatten := by
      rw [joined, visible, List.filter_flatten]
      rfl
    _ = (chunkCharacters content.toList).flatMap visible := by
      rw [List.map_map, List.flatMap_def]
      exact congrArg _ (List.map_congr_left fun chunk _ => visible_dropBlankEnds chunk)
    _ = _ := visible_chunks content.toList

end CodeReport.Text
