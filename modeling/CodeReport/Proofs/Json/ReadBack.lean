import CodeReport.Proofs.Json.Leaves

/-!
# JSON text that is read is the value that was written

A value is written on several lines and read back. The reader finds the value
itself: no member is lost, none takes the place of another, and what is put
between items and members is passed over.

Three things have to hold of the value. Its integers are in the range in which
integers are kept, the names of an object's members are pairwise different, and
it is nested no deeper than the reader goes. Real numbers are out of scope: that
the shortest digits of one read back as the number is a law of the digits.
-/

namespace CodeReport.Json

/-- Values that are read back from their text: their integers are kept as integers, no object has
two members of one name, and they are nested at most `depth` deep. -/
inductive Storable : (depth : Nat) → Value → Prop
  | null (depth : Nat) : Storable depth .null
  | bool (depth : Nat) (truth : Bool) : Storable depth (.bool truth)
  | integer (depth : Nat) (value : Int) (kept : Reader.IsKept value) :
    Storable depth (.number (.integer value))
  | string (depth : Nat) (text : String) : Storable depth (.string text)
  | array (depth : Nat) (items : List Value) (each : ∀ item ∈ items, Storable depth item) :
    Storable (depth + 1) (.array items)
  | object (depth : Nat) (members : Members) (distinct : (members.map Prod.fst).Nodup)
    (each : ∀ member ∈ members, Storable depth member.2) :
    Storable (depth + 1) (.object members)

namespace Members

/-- A member whose name is new is put behind the others. -/
theorem insert_new (members : Members) (name : String) (value : Value)
    (new : name ∉ members.map Prod.fst) :
    members.insert name value = members ++ [(name, value)] := by
  induction members with
  | nil => rfl
  | cons member rest inductionHypothesis =>
    rw [List.map_cons, List.mem_cons, not_or] at new
    rw [insert, if_neg (Ne.symm new.1), inductionHypothesis new.2, List.cons_append]

/-- Members with names of their own are put in one behind the other. -/
theorem foldl_insert_distinct (before after : Members)
    (distinct : ((before ++ after).map Prod.fst).Nodup) :
    after.foldl (fun members member => members.insert member.1 member.2) before =
      before ++ after := by
  induction after generalizing before with
  | nil => rw [List.append_nil]; rfl
  | cons member rest inductionHypothesis =>
    have new : member.1 ∉ before.map Prod.fst := by
      intro again
      rw [List.map_append, List.nodup_append] at distinct
      exact distinct.2.2 _ again _ List.mem_cons_self rfl
    have moved : before ++ member :: rest = before ++ [member] ++ rest := by simp
    rw [List.foldl_cons, insert_new before _ _ new, moved]
    exact inductionHypothesis _ (moved ▸ distinct)

/-- Members with names of their own are left as they are written. -/
theorem ofWritten_distinct (members : Members) (distinct : (members.map Prod.fst).Nodup) :
    ofWritten members = members :=
  foldl_insert_distinct [] members distinct

end Members

namespace Reader

/-- A text that writes a thing: a step finds the thing in it, behind blanks and up to what does
not go on with a number. Its first character is no blank and closes nothing. -/
structure Writes {α : Type} (step : (text : List Char) → Found α text) (text : List Char)
    (thing : α) : Prop where
  begins : ∃ first others, text = first :: others ∧ isSpace first = false ∧ first ≠ ']'
  found : ∀ blanks rest, (∀ blank ∈ blanks, isSpace blank = true) → Ends rest →
    Finds step (blanks ++ text ++ rest) thing rest

/-- Things behind the first one as they are written: each stands behind a comma and a gap. -/
def following {α : Type} (gap : List Char) (write : α → List Char) (things : List α) : List Char :=
  things.flatMap fun thing => ',' :: (gap ++ write thing)

section Containers

variable {α : Type} (step : (text : List Char) → Found α text) (write : α → List Char)
  (gap closing : List Char) (gapBlank : ∀ character ∈ gap, isSpace character = true)
  (closingBlank : ∀ character ∈ closing, isSpace character = true)

include closingBlank in
/-- The last element of an array. -/
theorem finds_lastElement (text rest : List Char) (thing : α)
    (first : Finds step text thing (closing ++ ']' :: rest)) :
    Finds (elements step) text [thing] rest := by
  obtain ⟨shorter, found⟩ := first
  obtain ⟨fewer, closed⟩ := behindSpaces?_blanks closing rest ']' closingBlank rfl
  refine ⟨Nat.lt_trans fewer shorter, ?_⟩
  rw [elements, found]
  simp only [closed]

include gapBlank in
/-- An element of an array before others. -/
theorem finds_nextElement (text next rest : List Char) (begins : Char) (thing : α)
    (things : List α) (ordinary : isSpace begins = false) (goesOn : begins ≠ ']')
    (first : Finds step text thing (',' :: (gap ++ begins :: next)))
    (others : Finds (elements step) (begins :: next) things rest) :
    Finds (elements step) text (thing :: things) rest := by
  obtain ⟨shorter, found⟩ := first
  obtain ⟨fewest, remaining⟩ := others
  obtain ⟨few, parted⟩ := behindSpaces?_here (gap ++ begins :: next) ',' rfl
  obtain ⟨fewer, begun⟩ := behindSpaces?_blanks gap next begins gapBlank ordinary
  refine ⟨Nat.lt_trans fewest (Nat.lt_of_le_of_lt fewer (Nat.lt_trans few shorter)), ?_⟩
  rw [elements, found]
  simp only [parted, begun, remaining]

include gapBlank closingBlank in
/-- Elements with commas between them are read up to the closing bracket. -/
theorem finds_elements (rest : List Char) (thing : α) (things : List α)
    (each : ∀ other ∈ thing :: things, Writes step (write other) other) :
    Finds (elements step) (write thing ++ following gap write things ++ closing ++ ']' :: rest)
      (thing :: things) rest := by
  induction things generalizing thing with
  | nil =>
    have ends : Ends (closing ++ ']' :: rest) := .blanks closingBlank (.cons rest rfl)
    have found := (each thing List.mem_cons_self).found [] _ (by simp) ends
    refine finds_lastElement step closing closingBlank _ rest thing ?_
    simpa [following] using found
  | cons next others inductionHypothesis =>
    have later := inductionHypothesis next fun other member =>
      each other (List.mem_cons_of_mem thing member)
    have nextWrites := each next (List.mem_cons_of_mem thing List.mem_cons_self)
    obtain ⟨sign, text, written, ordinary, goesOn⟩ := nextWrites.begins
    have found := (each thing List.mem_cons_self).found []
      (',' :: (gap ++ (write next ++ following gap write others ++ closing ++ ']' :: rest)))
      (by simp) (.cons _ rfl)
    rw [written] at found later
    have whole := finds_nextElement step gap gapBlank _ _ rest sign thing (next :: others) ordinary
      goesOn found later
    simpa [following, written] using whole

include gapBlank closingBlank in
/-- The elements of an array, from behind its opening bracket on. -/
theorem finds_arrayElements (rest : List Char) (thing : α) (things : List α)
    (each : ∀ other ∈ thing :: things, Writes step (write other) other) :
    Finds (arrayElements step)
      (gap ++ (write thing ++ following gap write things ++ closing ++ ']' :: rest))
      (thing :: things) rest := by
  have all := finds_elements step write gap closing gapBlank closingBlank rest thing things each
  obtain ⟨sign, text, written, ordinary, goesOn⟩ := (each thing List.mem_cons_self).begins
  simp only [written, List.cons_append, List.append_assoc] at all ⊢
  obtain ⟨shorter, found⟩ := all
  obtain ⟨fewer, begun⟩ := behindSpaces?_blanks gap _ sign gapBlank ordinary
  refine ⟨Nat.lt_of_lt_of_le shorter fewer, ?_⟩
  rw [arrayElements, begun]
  simp only [found]

/-- A member as it is written, from behind the opening quote of its name on. -/
def memberText (member : String × α) : List Char :=
  member.1.toList.flatMap escapeCharacter ++ '"' :: ':' :: ' ' :: write member.2

/-- A member: its name, a colon and its value. -/
theorem finds_namedElement (member : String × α) (rest : List Char)
    (writes : Writes step (write member.2) member.2) (ends : Ends rest) :
    Finds (namedElement step) (memberText write member ++ rest) member rest := by
  obtain ⟨shorter, named⟩ :=
    finds_escaped member.1.toList (':' :: ' ' :: (write member.2 ++ rest))
  obtain ⟨fewer, parted⟩ := behindSpaces?_here (' ' :: (write member.2 ++ rest)) ':' rfl
  obtain ⟨fewest, found⟩ := writes.found [' '] rest (by simp [isSpace]) ends
  simp only [List.cons_append, List.nil_append] at found
  rw [memberText, List.append_assoc]
  refine ⟨Nat.lt_trans fewest (Nat.lt_trans fewer shorter), ?_⟩
  simp only [List.cons_append]
  rw [namedElement, named]
  simp only [parted, found, String.ofList_toList]

include closingBlank in
/-- The last member of an object. -/
theorem finds_lastMember (text rest : List Char) (member : String × α)
    (first : Finds (namedElement step) text member (closing ++ '\x7d' :: rest)) :
    Finds (namedElements step) text [member] rest := by
  obtain ⟨shorter, found⟩ := first
  obtain ⟨fewer, closed⟩ := behindSpaces?_blanks closing rest '\x7d' closingBlank rfl
  refine ⟨Nat.lt_trans fewer shorter, ?_⟩
  rw [namedElements, found]
  simp only [closed]

include gapBlank in
/-- A member of an object before others. -/
theorem finds_nextMember (text next rest : List Char) (member : String × α)
    (members : List (String × α))
    (first : Finds (namedElement step) text member (',' :: (gap ++ '"' :: next)))
    (others : Finds (namedElements step) next members rest) :
    Finds (namedElements step) text (member :: members) rest := by
  obtain ⟨shorter, found⟩ := first
  obtain ⟨fewest, remaining⟩ := others
  obtain ⟨few, parted⟩ := behindSpaces?_here (gap ++ '"' :: next) ',' rfl
  obtain ⟨fewer, begun⟩ := behindSpaces?_blanks gap next '"' gapBlank rfl
  refine ⟨Nat.lt_trans fewest (Nat.lt_trans fewer (Nat.lt_trans few shorter)), ?_⟩
  rw [namedElements, found]
  simp only [parted, begun, remaining]

include gapBlank closingBlank in
/-- Members with commas between them are read up to the closing brace. -/
theorem finds_namedElements (rest : List Char) (member : String × α) (members : List (String × α))
    (each : ∀ other ∈ member :: members, Writes step (write other.2) other.2) :
    Finds (namedElements step)
      (memberText write member ++ following gap ('"' :: memberText write ·) members ++ closing ++
        '\x7d' :: rest)
      (member :: members) rest := by
  induction members generalizing member with
  | nil =>
    have ends : Ends (closing ++ '\x7d' :: rest) := .blanks closingBlank (.cons rest rfl)
    have found := finds_namedElement step write member _ (each member List.mem_cons_self) ends
    refine finds_lastMember step closing closingBlank _ rest member ?_
    simpa [following] using found
  | cons next others inductionHypothesis =>
    have later := inductionHypothesis next fun other inside =>
      each other (List.mem_cons_of_mem member inside)
    have found := finds_namedElement step write member
      (',' :: (gap ++ '"' :: (memberText write next ++
        following gap ('"' :: memberText write ·) others ++ closing ++ '\x7d' :: rest)))
      (each member List.mem_cons_self) (.cons _ rfl)
    have whole := finds_nextMember step gap gapBlank _ _ rest member (next :: others) found later
    simpa [following] using whole

include gapBlank closingBlank in
/-- The members of an object, from behind its opening brace on. -/
theorem finds_objectElements (rest : List Char) (member : String × α)
    (members : List (String × α))
    (each : ∀ other ∈ member :: members, Writes step (write other.2) other.2) :
    Finds (objectElements step)
      (gap ++ '"' :: (memberText write member ++
        following gap ('"' :: memberText write ·) members ++ closing ++ '\x7d' :: rest))
      (member :: members) rest := by
  obtain ⟨shorter, found⟩ :=
    finds_namedElements step write gap closing gapBlank closingBlank rest member members each
  obtain ⟨fewer, begun⟩ := behindSpaces?_blanks gap _ '"' gapBlank rfl
  refine ⟨Nat.lt_trans shorter fewer, ?_⟩
  rw [objectElements, begun]
  simp only [found]

end Containers

/-- A new line at any depth is blank. -/
theorem lineAt_blank (level : Nat) :
    ∀ character ∈ (Value.lineAt level).toList, isSpace character = true := by
  intro character member
  simp only [Value.lineAt, String.toList_append, String.toList_ofList, List.mem_append] at member
  rcases member with line | indent
  · obtain rfl : character = '\n' := by simpa using line
    rfl
  · obtain rfl := List.eq_of_mem_replicate indent
    rfl

/-- A value as it is written at a depth. -/
def prettyText (level : Nat) (value : Value) : List Char := (value.prettyAt level).toList

/-- The items of an array behind the first one, as they are written. -/
theorem toList_prettyItems (level : Nat) (items : List Value) :
    (Value.prettyItems level items).toList =
      following (Value.lineAt level).toList (prettyText level) items := by
  induction items with
  | nil => simp [Value.prettyItems, following]
  | cons item rest inductionHypothesis =>
    simpa [Value.prettyItems, following, prettyText] using inductionHypothesis

/-- The members of an object behind the first one, as they are written. -/
theorem toList_prettyMembers (level : Nat) (members : Members) :
    (Value.prettyMembers level members).toList =
      following (Value.lineAt level).toList ('"' :: memberText (prettyText level) ·) members := by
  induction members with
  | nil => simp [Value.prettyMembers, following]
  | cons member rest inductionHypothesis =>
    simpa [Value.prettyMembers, following, memberText, prettyText, quote]
      using inductionHypothesis

/-- The letters of a word are read one after the other. -/
theorem afterWord_append (fault : Fault) (letters rest : List Char) :
    ∃ notLonger, afterWord fault letters (letters ++ rest) = .ok ⟨rest, notLonger⟩ := by
  induction letters with
  | nil => exact ⟨Nat.le_refl _, rfl⟩
  | cons letter others inductionHypothesis =>
    obtain ⟨notLonger, found⟩ := inductionHypothesis
    rw [List.cons_append]
    refine ⟨Nat.le_succ_of_le notLonger, ?_⟩
    rw [afterWord, if_pos rfl, found]
    rfl

variable {depth : Nat} {whole inner rest : List Char} {first : Char}

/-- A word that is a value of its own. -/
theorem finds_word (thing : Value) (letters : List Char)
    (shorter : (letters ++ rest).length < whole.length)
    (read : Reader.value depth whole = word thing letters (letters ++ rest) shorter) :
    Finds (Reader.value depth) whole thing rest := by
  obtain ⟨notLonger, found⟩ := afterWord_append .expectedWord letters rest
  refine ⟨Nat.lt_of_le_of_lt notLonger shorter, ?_⟩
  rw [read, word, found]

/-- A value whose content a step reads. -/
theorem finds_widened {α : Type} (step : (text : List Char) → Found α text) (build : α → Value)
    (thing : α) (found : Finds step inner thing rest) (shorter : inner.length < whole.length)
    (read : Reader.value depth whole = widen shorter build (step inner)) :
    Finds (Reader.value depth) whole (build thing) rest := by
  obtain ⟨fewer, content⟩ := found
  refine ⟨Nat.lt_trans fewer shorter, ?_⟩
  rw [read, content]
  rfl

/-- A digit is no other character. -/
theorem ne_of_isDigit (digit : first.isDigit = true) (sign : Char)
    (noDigit : sign.isDigit = false) : first ≠ sign := by
  rintro rfl
  rw [digit] at noDigit
  cases noDigit

/-- A digit begins a number. -/
theorem finds_digits (shorter : inner.length < whole.length)
    (begun : behindSpaces? whole = some (first, ⟨inner, shorter⟩)) (digit : first.isDigit = true)
    (number : Number) (found : Finds (unsignedNumber false) (first :: inner) number rest) :
    Finds (Reader.value depth) whole (.number number) rest := by
  have other := ne_of_isDigit digit
  obtain ⟨fewer, found⟩ := found
  refine ⟨Nat.lt_of_lt_of_le fewer shorter, ?_⟩
  rw [Reader.value, begun]
  simp only [other 'n' rfl, other 't' rfl, other 'f' rfl, other '"' rfl, other '-' rfl, digit,
    found, if_true, if_false]

/-- A text writes a value if the value is found from its first character on, whatever blanks were
passed over before it. -/
theorem writes_of_begins {thing : Value} {others : List Char} (ordinary : isSpace first = false)
    (goesOn : first ≠ ']')
    (found : ∀ rest, Ends rest → ∀ whole shorter,
      behindSpaces? whole = some (first, ⟨others ++ rest, shorter⟩) →
      Finds (Reader.value depth) whole thing rest) :
    Writes (Reader.value depth) (first :: others) thing where
  begins := ⟨first, others, rfl, ordinary, goesOn⟩
  found := by
    intro blanks rest blank ends
    obtain ⟨shorter, begun⟩ := behindSpaces?_blanks blanks (others ++ rest) first blank ordinary
    rw [List.append_assoc]
    exact found rest ends _ shorter begun

/-- The null value is read back at any depth. -/
theorem writes_null : Writes (Reader.value depth) "null".toList .null := by
  refine writes_of_begins rfl (by decide) ?_
  intro rest _ whole shorter begun
  exact finds_word .null "ull".toList shorter (by rw [Reader.value, begun]; rfl)

/-- A truth value is read back at any depth. -/
theorem writes_bool (truth : Bool) :
    Writes (Reader.value depth) (if truth then "true" else "false").toList (.bool truth) := by
  cases truth with
  | false =>
    refine writes_of_begins rfl (by decide) ?_
    intro rest _ whole shorter begun
    exact finds_word (.bool false) "alse".toList shorter (by rw [Reader.value, begun]; rfl)
  | true =>
    refine writes_of_begins rfl (by decide) ?_
    intro rest _ whole shorter begun
    exact finds_word (.bool true) "rue".toList shorter (by rw [Reader.value, begun]; rfl)

/-- A text in quotes is read back at any depth. -/
theorem writes_string (text : String) :
    Writes (Reader.value depth) (quote text).toList (.string text) := by
  have written : (quote text).toList = '"' :: (text.toList.flatMap escapeCharacter ++ ['"']) := by
    simp [quote]
  rw [written]
  refine writes_of_begins rfl (by decide) ?_
  intro rest _ whole shorter begun
  have content : Finds stringCharacters (text.toList.flatMap escapeCharacter ++ ['"'] ++ rest)
      text.toList rest := by
    simpa using finds_escaped text.toList rest
  have found : Finds (Reader.value depth) whole (.string (String.ofList text.toList)) rest :=
    finds_widened stringCharacters (fun characters => .string (String.ofList characters)) _ content
      shorter (by rw [Reader.value, begun]; rfl)
  rwa [String.ofList_toList] at found

/-- The digits of a natural number write what they are read as without fraction and exponent. -/
theorem writes_natural (number : Nat) (thing : Number)
    (written : numberOf? false (Nat.toDigits 10 number) none none = some thing) :
    Writes (Reader.value depth) (Nat.toDigits 10 number) (.number thing) := by
  obtain ⟨first, others, digits, _⟩ := toDigits_begins number
  have isDigit : first.isDigit = true :=
    Nat.isDigit_of_mem_toDigits (by decide) (by decide) (digits ▸ List.mem_cons_self)
  have other := ne_of_isDigit isDigit
  have found (rest : List Char) := finds_unsignedNumber false number rest thing written
  rw [digits] at found ⊢
  refine writes_of_begins ?_ (other ']' rfl) ?_
  · simp [isSpace, other ' ' rfl, other '\t' rfl, other '\n' rfl, other '\r' rfl]
  · intro rest ends whole shorter begun
    exact finds_digits shorter begun isDigit _ (found rest ends)

/-- An integer that is kept is read back at any depth. -/
theorem writes_integer (value : Int) (kept : IsKept value) :
    Writes (Reader.value depth) (Number.integer value).text.toList (.number (.integer value)) := by
  cases value with
  | ofNat number =>
    have text : (Number.integer (.ofNat number)).text = number.repr := rfl
    rw [text, Nat.toList_repr]
    exact writes_natural number _ (numberOf?_digits false number (by simp) kept)
  | negSucc number =>
    have text : (Number.integer (.negSucc number)).text = "-" ++ (number + 1).repr := rfl
    have written : ("-" ++ (number + 1).repr).toList = '-' :: Nat.toDigits 10 (number + 1) := by
      rw [String.toList_append, Nat.toList_repr]
      rfl
    rw [text, written]
    refine writes_of_begins rfl (by decide) ?_
    intro rest ends whole shorter begun
    have found := finds_unsignedNumber true (number + 1) rest _
      (numberOf?_digits true (number + 1) (by omega) kept) ends
    exact finds_widened _ .number _ found shorter (by rw [Reader.value, begun]; rfl)

/-- An array on several lines, or its two brackets. -/
theorem writes_array (level : Nat) (items : List Value)
    (each : ∀ level, ∀ item ∈ items, Writes (Reader.value depth) (prettyText level item) item) :
    Writes (Reader.value (depth + 1)) (prettyText level (.array items)) (.array items) := by
  cases items with
  | nil =>
    have written : prettyText level (.array []) = ['[', ']'] := by
      simp [prettyText, Value.prettyAt]
    rw [written]
    refine writes_of_begins rfl (by decide) ?_
    intro rest _ whole shorter begun
    obtain ⟨fewer, closed⟩ := behindSpaces?_here rest ']' rfl
    have content : Finds (arrayElements (Reader.value depth)) (']' :: rest) [] rest :=
      ⟨fewer, by rw [arrayElements, closed]; rfl⟩
    exact finds_widened _ .array _ content shorter (by rw [Reader.value, begun]; rfl)
  | cons item others =>
    have written : prettyText level (.array (item :: others)) =
        '[' :: ((Value.lineAt (level + 1)).toList ++ (prettyText (level + 1) item ++
          following (Value.lineAt (level + 1)).toList (prettyText (level + 1)) others ++
          (Value.lineAt level).toList ++ [']'])) := by
      simp [prettyText, Value.prettyAt, toList_prettyItems]
    rw [written]
    refine writes_of_begins rfl (by decide) ?_
    intro rest _ whole shorter begun
    have content := finds_arrayElements (Reader.value depth) (prettyText (level + 1)) _ _
      (lineAt_blank (level + 1)) (lineAt_blank level) rest item others (each (level + 1))
    refine finds_widened _ .array _ ?_ shorter (by rw [Reader.value, begun]; rfl)
    simpa using content

/-- An object on several lines, or its two braces. -/
theorem writes_object (level : Nat) (members : Members) (distinct : (members.map Prod.fst).Nodup)
    (each : ∀ level, ∀ member ∈ members,
      Writes (Reader.value depth) (prettyText level member.2) member.2) :
    Writes (Reader.value (depth + 1)) (prettyText level (.object members)) (.object members) := by
  have kept := Members.ofWritten_distinct members distinct
  cases members with
  | nil =>
    have written : prettyText level (.object []) = ['\x7b', '\x7d'] := by
      simp [prettyText, Value.prettyAt]
    rw [written]
    refine writes_of_begins rfl (by decide) ?_
    intro rest _ whole shorter begun
    obtain ⟨fewer, closed⟩ := behindSpaces?_here rest '\x7d' rfl
    have content : Finds (objectElements (Reader.value depth)) ('\x7d' :: rest) [] rest :=
      ⟨fewer, by rw [objectElements, closed]; rfl⟩
    exact finds_widened _ (fun members => .object (Members.ofWritten members)) _ content shorter
      (by rw [Reader.value, begun]; rfl)
  | cons member others =>
    have written : prettyText level (.object (member :: others)) =
        '\x7b' :: ((Value.lineAt (level + 1)).toList ++ '"' ::
          (memberText (prettyText (level + 1)) member ++
            following (Value.lineAt (level + 1)).toList
              ('"' :: memberText (prettyText (level + 1)) ·) others ++
            (Value.lineAt level).toList ++ ['\x7d'])) := by
      simp [prettyText, Value.prettyAt, toList_prettyMembers, memberText, quote]
    rw [written]
    refine writes_of_begins rfl (by decide) ?_
    intro rest _ whole shorter begun
    have content := finds_objectElements (Reader.value depth) (prettyText (level + 1)) _ _
      (lineAt_blank (level + 1)) (lineAt_blank level) rest member others (each (level + 1))
    rw [← kept]
    refine finds_widened _ (fun members => .object (Members.ofWritten members)) _ ?_ shorter
      (by rw [Reader.value, begun]; rfl)
    simpa using content

/-- Every storable value is found in its text. The depth of nesting is that of the reader, the
level that of the line on which the value begins. -/
theorem writes_value (depth level : Nat) (value : Value) (storable : Storable depth value) :
    Writes (Reader.value depth) (prettyText level value) value := by
  induction storable generalizing level with
  | null depth =>
    rw [prettyText, Value.prettyAt]
    exact writes_null
  | bool depth truth =>
    rw [prettyText, Value.prettyAt]
    exact writes_bool truth
  | integer depth value kept =>
    rw [prettyText, Value.prettyAt]
    exact writes_integer value kept
  | string depth text =>
    rw [prettyText, Value.prettyAt]
    exact writes_string text
  | array depth items each inductionHypothesis =>
    exact writes_array level items fun level item member => inductionHypothesis item member level
  | object depth members distinct each inductionHypothesis =>
    exact writes_object level members distinct fun level member inside =>
      inductionHypothesis member inside level

end Reader

/-- What a text writes is read from it, whatever blanks stand behind. -/
theorem Value.ofText_of_writes {written behind : List Char} {value : Value}
    (writes : Reader.Writes (Reader.value Reader.depthLimit) written value)
    (blank : ∀ character ∈ behind, Reader.isSpace character = true) (text : String)
    (characters : text.toList = written ++ behind) : ofText text = .ok value := by
  have ends : Reader.Ends behind := by
    rw [← List.append_nil behind]
    exact .blanks blank nofun
  have found : Reader.Finds (Reader.value Reader.depthLimit) text.toList value behind := by
    rw [characters]
    exact writes.found [] behind nofun ends
  have skipped : Reader.skipSpaces behind = [] := by
    rw [← List.append_nil behind]
    exact List.dropWhile_append_of_pos blank
  obtain ⟨shorter, found⟩ := found
  rw [ofText, found, Reader.complete]
  dsimp only
  rw [skipped]
  rfl

/-- A storable value is read back from its text, with a line feed behind it. -/
theorem Value.ofText_pretty (value : Value) (storable : Storable Reader.depthLimit value) :
    Value.ofText (value.pretty ++ "\n") = .ok value := by
  have text : (value.pretty ++ "\n").toList = Reader.prettyText 0 value ++ ['\n'] := by
    simp [pretty, Reader.prettyText]
  exact ofText_of_writes (Reader.writes_value _ 0 value storable) (by simp [Reader.isSpace]) _ text

/-- The digits of a natural number are read as a number: the integer if it is kept as one, and
the value nearest to it otherwise. -/
theorem Value.ofText_natural (number : Nat)
    (finite : (Decimal.toBinary64 ⟨false, number, 0⟩).isFinite = true) :
    ofText (toString number) = .ok (.number
      (if (number : Int) ≤ Number.greatestInteger then .integer number
      else .real (Decimal.toBinary64 ⟨false, number, 0⟩))) := by
  have digits : (toString number).toList = Nat.toDigits 10 number ++ [] := by
    rw [List.append_nil]
    exact Nat.toList_repr
  refine ofText_of_writes (Reader.writes_natural number _ ?_) (by simp) _ digits
  split
  next atMost =>
    have least : Number.leastInteger ≤ (number : Int) := by
      rw [Number.leastInteger]
      omega
    exact Reader.numberOf?_digits false number (by simp) ⟨least, atMost⟩
  next beyond => exact Reader.numberOf?_great number (Int.not_le.mp beyond) finite

end CodeReport.Json
