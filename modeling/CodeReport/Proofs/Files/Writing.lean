import CodeReport.Files.Access
import CodeReport.Text.Octets
import Mathlib.Data.List.Basic

/-!
# Files that were written

A file that was written is found under the path that it was written to, be it an
absolute path or one that begins at the working directory, and holds the bytes that
were written. Every other file is what it was before, and every path that led to it
still does. A directory may be empty before a file is written into it.

This holds of any tree, also of one that lists a file within another file: a path
is followed only through directories, and the place of a new file is none.
-/

namespace CodeReport

/-- The bytes of a text are the text in UTF-8. -/
theorem bytesOfText_octets (text : String) : bytesOfText text = text.toByteArray.data.toList :=
  Text.toList_toUTF8 text

/-- A text is what its bytes are in UTF-8. -/
theorem textOfBytes_bytesOfText (text : String) : textOfBytes (bytesOfText text) = .ok text := by
  have octets : ByteArray.mk (bytesOfText text).toArray = text.toByteArray := by
    rw [bytesOfText_octets]
  have valid : text.toByteArray.IsValidUTF8 := text.isValidUTF8
  rw [textOfBytes, octets, String.fromUTF8?, dif_pos valid]
  rfl

/-- Bytes that are read as a text are those of the text. -/
theorem bytesOfText_of_textOfBytes (bytes : Bytes) (text : String)
    (read : textOfBytes bytes = .ok text) : bytes = bytesOfText text := by
  rw [textOfBytes, String.fromUTF8?] at read
  by_cases valid : (ByteArray.mk bytes.toArray).IsValidUTF8
  · rw [dif_pos valid] at read
    have same : String.fromUTF8 _ valid = text := Except.ok.inj read
    rw [← same, bytesOfText_octets]
    simp [String.fromUTF8]
  · rw [dif_neg valid] at read
    cases read

/-- Bytes that are those of no text are not read as one. -/
theorem textOfBytes_foreign (bytes : Bytes) (foreign : ∀ text, bytesOfText text ≠ bytes) :
    textOfBytes bytes = .error .notText := by
  cases decoded : textOfBytes bytes with
  | ok text => exact absurd (bytesOfText_of_textOfBytes bytes text decoded).symm (foreign text)
  | error fault =>
    unfold textOfBytes at decoded
    split at decoded
    · cases decoded
    · rw [Except.error.inj decoded]

namespace FileTree

/-- Bytes that are put in are found at their location, and nothing else is changed. -/
theorem lookup_put (location other : List String) (bytes : Bytes)
    (files : List (List String × Bytes)) :
    (put location bytes files).lookup other =
      if other = location then some bytes else files.lookup other := by
  have unlike (left right : List String) (differ : left ≠ right) : (left == right) = false :=
    beq_false_of_ne differ
  induction files with
  | nil =>
    by_cases same : other = location
    · simp [put, same]
    · simp [put, List.lookup_cons, same, unlike other location same]
  | cons first rest inductionHypothesis =>
    obtain ⟨name, content⟩ := first
    by_cases same : name = location
    · subst same
      by_cases hit : other = name
      · simp [put, hit]
      · simp [put, List.lookup_cons, hit, unlike other name hit]
    · rw [put, if_neg same, List.lookup_cons, List.lookup_cons, inductionHypothesis]
      by_cases hit : other = name
      · subst hit
        simp [same]
      · simp [unlike other name hit]

/-- No file is lost. -/
theorem mem_put (location : List String) (bytes : Bytes) (files : List (List String × Bytes))
    (file : List String × Bytes) (member : file ∈ files) :
    ∃ content, (file.1, content) ∈ put location bytes files := by
  induction files with
  | nil => cases member
  | cons first rest inductionHypothesis =>
    by_cases same : first.1 = location
    · rw [put, if_pos same]
      rcases List.mem_cons.mp member with rfl | later
      · exact ⟨bytes, same ▸ List.mem_cons_self⟩
      · exact ⟨file.2, List.mem_cons_of_mem _ later⟩
    · rw [put, if_neg same]
      rcases List.mem_cons.mp member with rfl | later
      · exact ⟨file.2, List.mem_cons_self⟩
      · obtain ⟨content, found⟩ := inductionHypothesis later
        exact ⟨content, List.mem_cons_of_mem _ found⟩

/-- What lies where a file is. -/
theorem at?_file (tree : FileTree) (location : List String) (bytes : Bytes)
    (looked : tree.files.lookup location = some bytes) :
    tree.at? location = some (.file location bytes) := by
  rw [at?, looked]

/-- What lies where a directory is. -/
theorem at?_directory (tree : FileTree) (location : List String)
    (absent : tree.files.lookup location = none) (there : tree.isDirectory location = true) :
    tree.at? location = some (.directory location) := by
  simp only [at?, absent, there, if_true]

/-- Something lies where a file or a directory is, and nowhere else. -/
theorem at?_cases (tree : FileTree) (location : List String) (node : Node)
    (found : tree.at? location = some node) :
    (∃ bytes, tree.files.lookup location = some bytes ∧ node = .file location bytes) ∨
      (tree.files.lookup location = none ∧ tree.isDirectory location = true ∧
        node = .directory location) := by
  rw [at?] at found
  cases looked : tree.files.lookup location with
  | some bytes =>
    rw [looked] at found
    exact .inl ⟨bytes, rfl, (Option.some.inj found).symm⟩
  | none =>
    cases there : tree.isDirectory location with
    | true =>
      simp only [looked, there, if_true, Option.some.injEq] at found
      exact .inr ⟨rfl, rfl, found.symm⟩
    | false => simp [looked, there] at found

/-- The tree with bytes put under a location. -/
def renewed (tree : FileTree) (location : List String) (bytes : Bytes) : FileTree :=
  { tree with files := put location bytes tree.files }

/-- What a node is after bytes were put under a location. -/
def Node.renewed (location : List String) (bytes : Bytes) : Node → Node
  | .file other content => .file other (if other = location then bytes else content)
  | .directory other => .directory other

section Renewal

variable (tree : FileTree) (location : List String) (bytes : Bytes)

/-- After a write the file at the location holds the new bytes, every other file what it held. -/
theorem lookup_renewed (other : List String) :
    (tree.renewed location bytes).files.lookup other =
      if other = location then some bytes else tree.files.lookup other :=
  lookup_put location other bytes tree.files

/-- Directories stay. -/
theorem isDirectory_renewed (other : List String) (there : tree.isDirectory other = true) :
    (tree.renewed location bytes).isDirectory other = true := by
  rw [isDirectory, Bool.or_eq_true] at there ⊢
  rcases there with listed | below
  · exact .inl listed
  · obtain ⟨file, member, under⟩ := List.any_eq_true.mp below
    obtain ⟨content, found⟩ := mem_put location bytes tree.files file member
    exact .inr (List.any_eq_true.mpr ⟨_, found, under⟩)

/-- What lies somewhere is renewed, if the new file takes the place of no directory. -/
theorem at?_renewed (free : tree.isDirectory location = false) (other : List String) (node : Node)
    (found : tree.at? other = some node) :
    (tree.renewed location bytes).at? other = some (node.renewed location bytes) := by
  have looked := lookup_renewed tree location bytes other
  rcases at?_cases tree other node found with ⟨content, there, rfl⟩ | ⟨absent, there, rfl⟩
  · refine at?_file _ other _ ?_
    rw [looked, there]
    split <;> rfl
  · -- A file does not take the place of a directory, which would cut off what lies below it.
    have elsewhere : other ≠ location := by
      rintro rfl
      rw [there] at free
      cases free
    rw [if_neg elsewhere, absent] at looked
    exact at?_directory _ other looked (isDirectory_renewed tree location bytes other there)

/-- Where a path led, it leads to the renewed node. -/
theorem follow_renewed (free : tree.isDirectory location = false) (start : Node)
    (segments : List String) (node : Node) (leads : tree.follow start segments = .ok node) :
    (tree.renewed location bytes).follow (start.renewed location bytes) segments =
      .ok (node.renewed location bytes) := by
  fun_induction tree.follow start segments with
  | case1 start =>
    obtain rfl := Except.ok.inj leads
    rw [follow]
  | case2 => cases leads
  | case3 other segment rest here inductionHypothesis =>
    rw [Node.renewed, follow, if_pos here]
    exact inductionHypothesis leads
  | case4 other rest here inductionHypothesis =>
    rw [Node.renewed, follow, if_neg here, if_pos rfl]
    exact inductionHypothesis leads
  | case5 => cases leads
  | case6 other segment rest here down short node' found inductionHypothesis =>
    have still := at?_renewed tree location bytes free (other ++ [segment]) _ found
    rw [Node.renewed, follow, if_neg here, if_neg down, if_neg short, still]
    exact inductionHypothesis leads
  | case7 => cases leads

/-- A path that led somewhere still does. -/
theorem resolve_renewed (free : tree.isDirectory location = false) (path : String) (node : Node)
    (leads : tree.resolve path = .ok node) :
    (tree.renewed location bytes).resolve path = .ok (node.renewed location bytes) := by
  have same : (tree.renewed location bytes).course path = tree.course path := rfl
  rw [resolve] at leads ⊢
  rw [same]
  cases begun : tree.course path with
  | error fault =>
    rw [begun] at leads
    cases leads
  | ok course =>
    rw [begun] at leads
    exact follow_renewed tree location bytes free (.directory course.1) course.2 node leads

end Renewal

/-- Segments are followed one after the other. -/
theorem follow_append (tree : FileTree) (start : Node) (first second : List String) :
    tree.follow start (first ++ second) =
      (tree.follow start first).bind fun node => tree.follow node second := by
  fun_induction tree.follow start first with
  | case1 start => rfl
  | case2 =>
    rw [List.cons_append, follow]
    rfl
  | case3 other segment rest here inductionHypothesis =>
    rw [List.cons_append, follow, if_pos here, inductionHypothesis]
  | case4 other rest here inductionHypothesis =>
    rw [List.cons_append, follow, if_neg here, if_pos rfl, inductionHypothesis]
  | case5 other segment rest here down long =>
    rw [List.cons_append, follow, if_neg here, if_neg down, if_pos long]
    rfl
  | case6 other segment rest here down short node found inductionHypothesis =>
    rw [List.cons_append, follow, if_neg here, if_neg down, if_neg short, found]
    exact inductionHypothesis
  | case7 other segment rest here down short absent =>
    rw [List.cons_append, follow, if_neg here, if_neg down, if_neg short, absent]
    rfl

/-- Where a file is written: under a name that is free of directories, in a directory that the
segments before the name lead to. -/
structure Aims (tree : FileTree) (path : String) (start before : List String) (name : String)
    (directory : List String) : Prop where
  begun : tree.course path = .ok (start, before ++ [name])
  leads : tree.follow (.directory start) before = .ok (.directory directory)
  proper : name ≠ "" ∧ name ≠ "." ∧ name ≠ ".."
  short : ¬ longestSegment < name.utf8ByteSize
  free : tree.isDirectory (directory ++ [name]) = false

/-- The last segment that is not empty is the last one, unless that is empty. -/
theorem divided_at_name {segments before : List String} {name : String}
    (trimmed : segments.reverse.dropWhile (· == "") = name :: before)
    (ends : segments.getLast? ≠ some "") : segments = before.reverse ++ [name] ∧ name ≠ "" := by
  rw [← List.head?_reverse] at ends
  cases backwards : segments.reverse with
  | nil =>
    rw [backwards] at trimmed
    cases trimmed
  | cons last others =>
    rw [backwards, List.head?_cons] at ends
    have some : last ≠ "" := fun empty => ends (congrArg Option.some empty)
    have kept : (last :: others).dropWhile (· == "") = last :: others :=
      List.dropWhile_cons_of_neg (by simpa using some)
    rw [backwards, kept] at trimmed
    obtain ⟨rfl, rfl⟩ := List.cons.inj trimmed
    refine ⟨?_, some⟩
    rw [← List.reverse_reverse segments, backwards, List.reverse_cons]

/-- What is known of the place that a file is written to. -/
theorem aims_of_target (tree : FileTree) (path : String) (location : List String)
    (aimed : tree.target path = .ok location) :
    ∃ start before name directory, Aims tree path start before name directory ∧
      location = directory ++ [name] := by
  unfold target at aimed
  split at aimed
  next => cases aimed
  next start segments begun =>
    split at aimed
    next => cases aimed
    next name before trimmed =>
      split at aimed
      next => cases aimed
      next => cases aimed
      next directory leads =>
        split_ifs at aimed with improper long taken
        simp only [Bool.or_eq_true, decide_eq_true_eq, not_or] at improper
        obtain ⟨⟨noDot, noDots⟩, ends⟩ := improper
        obtain ⟨rfl, some⟩ := divided_at_name trimmed ends
        refine ⟨start, before.reverse, name, directory, ?_, (Except.ok.inj aimed).symm⟩
        exact
          { begun := begun
            leads := leads
            proper := ⟨some, noDot, noDots⟩
            short := long
            free := by simpa using taken }

namespace Aims

variable {tree : FileTree} {path : String} {start before : List String} {name : String}
  {directory : List String}

/-- A path leads to the file that was written to it. -/
theorem resolve_place (aims : Aims tree path start before name directory) (bytes : Bytes) :
    (tree.renewed (directory ++ [name]) bytes).resolve path =
      .ok (.file (directory ++ [name]) bytes) := by
  let after := tree.renewed (directory ++ [name]) bytes
  have leads : after.follow (.directory start) before = .ok (.directory directory) :=
    follow_renewed tree (directory ++ [name]) bytes aims.free (.directory start) before
      (.directory directory) aims.leads
  have placed : after.at? (directory ++ [name]) = some (.file (directory ++ [name]) bytes) :=
    at?_file after _ _ ((lookup_renewed tree _ bytes _).trans (if_pos rfl))
  have here : ¬ (decide (name = "") || decide (name = ".")) = true := by
    simp [aims.proper.1, aims.proper.2.1]
  have last : after.follow (.directory directory) [name] =
      .ok (.file (directory ++ [name]) bytes) := by
    rw [follow, if_neg here, if_neg aims.proper.2.2, if_neg aims.short, placed]
    rfl
  have begun : after.course path = .ok (start, before ++ [name]) := aims.begun
  have resolved : after.resolve path = after.follow (.directory start) (before ++ [name]) := by
    rw [resolve, begun]
  rw [resolved, follow_append, leads]
  exact last

end Aims

/-- What a tree is after bytes were written to a path: the path leads to the bytes, no file at
another location and no directory is changed, and every path that led to such a file still leads to
it. -/
structure Written (before : FileTree) (path : String) (bytes : Bytes) (after : FileTree)
    (location : List String) : Prop where
  aimed : before.target path = .ok location
  found : after.read path = .ok bytes
  placed : after.files.lookup location = some bytes
  unchanged : ∀ other, other ≠ location →
    after.files.lookup other = before.files.lookup other
  kept : ∀ path' other content, other ≠ location →
    before.resolve path' = .ok (.file other content) →
    after.resolve path' = .ok (.file other content)
  directories : after.directories = before.directories ∧ after.working = before.working

/-- Bytes that are written are there, and nothing else is changed. -/
theorem written_of_write (tree : FileTree) (path : String) (bytes : Bytes) (after : FileTree)
    (wrote : tree.write path bytes = .ok after) :
    ∃ location, Written tree path bytes after location := by
  cases aimed : tree.target path with
  | error fault => simp [write, aimed, Except.map] at wrote
  | ok location =>
    have renews : tree.renewed location bytes = after := by
      simpa [write, aimed, Except.map, renewed] using wrote
    obtain ⟨start, segments, name, directory, aims, rfl⟩ := aims_of_target tree path location aimed
    subst renews
    refine ⟨directory ++ [name], aimed, ?_, ?_, ?_, ?_, rfl, rfl⟩
    · rw [read, aims.resolve_place]
    · rw [lookup_renewed, if_pos rfl]
    · intro other elsewhere
      rw [lookup_renewed, if_neg elsewhere]
    · intro path' other content elsewhere leads
      rw [resolve_renewed tree _ bytes aims.free path' _ leads, Node.renewed, if_neg elsewhere]

/-- An absolute path into a directory that holds nothing, and a relative one that climbs out of the
working directory, lead to the same new file. A path that ends with a slash names no file. -/
example :
    let tree : FileTree := ⟨[], [["reports"]], ["home", "work"]⟩
    tree.target "/reports/a.html" = .ok ["reports", "a.html"] ∧
      tree.target "../../reports//a.html" = .ok ["reports", "a.html"] ∧
      tree.target "/reports/a.html/" = .error .isADirectory ∧
      tree.target "/absent/a.html" = .error .notFound := by
  decide +kernel

end FileTree

end CodeReport
