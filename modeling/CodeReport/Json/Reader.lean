import CodeReport.Json.Value
import CodeReport.Number.Decimal
import CodeReport.Number.Digits

/-!
# Reading JSON text

The reader takes a text as a list of characters and goes through it once. Each
step returns the characters it left with a proof that they are fewer, so the
repetitions end. Arrays and objects may be nested 127 deep.

A refusal names its cause and how many bytes of the text were not yet read when
the cause was noticed. From that number the wrapper `Value.ofText` computes the
line and the column. Columns count bytes, because the offending byte may stand
inside a character. A refusal is noticed either *after* the characters read so
far, or *looking at* the next byte, and then that byte counts as read.
-/

namespace CodeReport.Json

/-- Why a text is no JSON. -/
inductive Fault where
  | endInValue
  | endInArray
  | endInObject
  | endInString
  | expectedValue
  | expectedWord
  | expectedColon
  | expectedCommaOrBracket
  | expectedCommaOrBrace
  | nameNotAString
  | trailingComma
  | trailingCharacters
  | invalidNumber
  | numberOutOfRange
  | invalidEscape
  | controlCharacter
  | loneSurrogate
  | endOfSurrogate
  | nestedTooDeep
  deriving Repr, DecidableEq

/-- The wording of a fault. -/
def Fault.message : Fault → String
  | .endInValue => "EOF while parsing a value"
  | .endInArray => "EOF while parsing a list"
  | .endInObject => "EOF while parsing an object"
  | .endInString => "EOF while parsing a string"
  | .expectedValue => "expected value"
  | .expectedWord => "expected ident"
  | .expectedColon => "expected `:`"
  | .expectedCommaOrBracket => "expected `,` or `]`"
  | .expectedCommaOrBrace => "expected `,` or `\x7d`"
  | .nameNotAString => "key must be a string"
  | .trailingComma => "trailing comma"
  | .trailingCharacters => "trailing characters"
  | .invalidNumber => "invalid number"
  | .numberOutOfRange => "number out of range"
  | .invalidEscape => "invalid escape"
  | .controlCharacter => "control character (\\u0000-\\u001F) found while parsing a string"
  | .loneSurrogate => "lone leading surrogate in hex escape"
  | .endOfSurrogate => "unexpected end of hex escape"
  | .nestedTooDeep => "recursion limit exceeded"

/-- The faults that say that the text ended too early. -/
def Fault.isEnd : Fault → Bool
  | .endInValue | .endInArray | .endInObject | .endInString => true
  | _ => false

/-- How many bytes some characters take. -/
def byteCount : (characters : List Char) → Nat
  | [] => 0
  | character :: rest => character.utf8Size + byteCount rest

/-- A fault and the number of bytes that were unread when it was noticed. -/
structure Refusal where
  fault : Fault
  unread : Nat
  deriving Repr, DecidableEq

namespace Refusal

/-- Noticed when everything up to `rest` was read. -/
def after (fault : Fault) (rest : List Char) : Refusal :=
  ⟨fault, byteCount rest⟩

/-- Noticed by a look at the first byte of `rest`, which counts as read if there is one. -/
def lookingAt (fault : Fault) (rest : List Char) : Refusal :=
  ⟨fault, byteCount rest - 1⟩

end Refusal

/-- Characters left over from a text, fewer than it had. -/
abbrev Left (text : List Char) := { rest : List Char // rest.length < text.length }

/-- What a step of the reader finds in a text, with the characters it leaves. -/
abbrev Found (α : Type) (text : List Char) := Except Refusal (α × Left text)

namespace Reader

/-- The blanks of JSON: space, tab, line feed and carriage return. -/
def isSpace (character : Char) : Bool :=
  character == ' ' || character == '\t' || character == '\n' || character == '\r'

/-- The text from its first character that is no blank. -/
def skipSpaces (text : List Char) : List Char :=
  text.dropWhile isSpace

/-- Behind spaces there is no more text than with them. -/
theorem length_skipSpaces_le (text : List Char) : (skipSpaces text).length ≤ text.length := by
  induction text with
  | nil => exact Nat.le_refl _
  | cons character rest ih =>
    unfold skipSpaces at *
    rw [List.dropWhile_cons]
    split
    · exact Nat.le_succ_of_le ih
    · exact Nat.le_refl _

/-- The first character that is no blank, and what stands behind it. -/
def behindSpaces? (text : List Char) : Option (Char × Left text) :=
  match found : skipSpaces text with
  | [] => none
  | first :: rest =>
    have shorter : rest.length < text.length := by
      have atMost := length_skipSpaces_le text
      rwa [found] at atMost
    some (first, ⟨rest, shorter⟩)

/-- Behind digits there is no more text than with them. -/
theorem length_dropDigits_le (text : List Char) :
    (text.dropWhile Char.isDigit).length ≤ text.length := by
  induction text with
  | nil => exact Nat.le_refl _
  | cons character rest ih =>
    rw [List.dropWhile_cons]
    split
    · exact Nat.le_succ_of_le ih
    · exact Nat.le_refl _

/-- What follows the characters of a word, if the text begins with them. -/
def afterWord (fault : Fault) : (word text : List Char) →
    Except Refusal { rest : List Char // rest.length ≤ text.length }
  | [], text => .ok ⟨text, Nat.le_refl _⟩
  | _ :: _, [] => .error (.after .endInValue [])
  | expected :: word, character :: rest =>
    if character = expected then
      (afterWord fault word rest).map fun left => ⟨left.1, Nat.le_succ_of_le left.2⟩
    else .error (.lookingAt fault (character :: rest))

/-- The refusal of a text that does not begin with four hexadecimal digits: four bytes are taken
    before they are looked at. -/
def hexRefusal (text : List Char) : Refusal :=
  if byteCount text < 4 then .after .endInString [] else ⟨.invalidEscape, byteCount text - 4⟩

/-- The four hexadecimal digits at the start of a text. -/
def hexUnit (text : List Char) : Found Nat text :=
  match text with
  | a :: b :: c :: d :: rest =>
    match Digits.number? 16 [a, b, c, d] with
    | some unit => .ok (unit, ⟨rest, by simp only [List.length_cons]; omega⟩)
    | none => .error (hexRefusal (a :: b :: c :: d :: rest))
  | _ => .error (hexRefusal text)

/-- The first half of a surrogate pair. -/
def isLeadingHalf (unit : Nat) : Bool := 0xD800 ≤ unit && unit ≤ 0xDBFF

/-- The second half of a surrogate pair. -/
def isTrailingHalf (unit : Nat) : Bool := 0xDC00 ≤ unit && unit ≤ 0xDFFF

/-- The second half of a pair, which stands behind the first as an escape of its own. -/
def trailingHalf (text : List Char) : Found Nat text :=
  match text with
  | [] => .error (.after .endInString [])
  | '\\' :: afterBackslash =>
    match afterBackslash with
    | [] => .error (.after .endInString [])
    | 'u' :: digits =>
      match hexUnit digits with
      | .error refusal => .error refusal
      | .ok (unit, left) =>
        if isTrailingHalf unit then
          .ok (unit, ⟨left.1, by have := left.2; simp only [List.length_cons]; omega⟩)
        else .error (.after .loneSurrogate left.1)
    | _ => .error (.lookingAt .endOfSurrogate afterBackslash)
  | _ => .error (.lookingAt .endOfSurrogate text)

/-- The character of an escape `\u`, from its first digit on. Two halves make one character. -/
def escapedUnit (text : List Char) : Found Char text :=
  match hexUnit text with
  | .error refusal => .error refusal
  | .ok (unit, left) =>
    if isTrailingHalf unit then .error (.after .loneSurrogate left.1)
    else if isLeadingHalf unit then
      match trailingHalf left.1 with
      | .error refusal => .error refusal
      | .ok (second, left') =>
        .ok (Char.ofNat ((unit - 0xD800) * 0x400 + (second - 0xDC00) + 0x10000),
          ⟨left'.1, Nat.lt_trans left'.2 left.2⟩)
    else .ok (Char.ofNat unit, left)

/-- The character that a one-letter escape stands for. -/
def escapedLetter? : Char → Option Char
  | '"' => some '"'
  | '\\' => some '\\'
  | '/' => some '/'
  | 'b' => some '\x08'
  | 'f' => some '\x0c'
  | 'n' => some '\n'
  | 'r' => some '\r'
  | 't' => some '\t'
  | _ => none

/-- The character of an escape, from behind its backslash on. -/
def escapedCharacter (text : List Char) : Found Char text :=
  match text with
  | [] => .error (.after .endInString [])
  | letter :: rest =>
    if letter = 'u' then
      match escapedUnit rest with
      | .error refusal => .error refusal
      | .ok (character, left) => .ok (character, ⟨left.1, Nat.lt_succ_of_lt left.2⟩)
    else
      match escapedLetter? letter with
      | some character => .ok (character, ⟨rest, Nat.lt_succ_self _⟩)
      | none => .error (.lookingAt .invalidEscape (letter :: rest))

/-- The characters of a string, from behind its opening quote on. -/
def stringCharacters (text : List Char) : Found (List Char) text :=
  match text with
  | [] => .error (.after .endInString [])
  | character :: rest =>
    if character = '"' then .ok ([], ⟨rest, Nat.lt_succ_self _⟩)
    else if character = '\\' then
      match escapedCharacter rest with
      | .error refusal => .error refusal
      | .ok (escaped, left) =>
        match stringCharacters left.1 with
        | .error refusal => .error refusal
        | .ok (characters, left') =>
          .ok (escaped :: characters,
            ⟨left'.1, Nat.lt_succ_of_lt (Nat.lt_trans left'.2 left.2)⟩)
    else if character.toNat < 0x20 then .error (.lookingAt .controlCharacter (character :: rest))
    else
      match stringCharacters rest with
      | .error refusal => .error refusal
      | .ok (characters, left) => .ok (character :: characters, ⟨left.1, Nat.lt_succ_of_lt left.2⟩)
termination_by text.length
decreasing_by
  · exact Nat.lt_succ_of_lt left.2
  · exact Nat.lt_succ_self _

/-- A digit sequence and what follows it. -/
structure Digits (text : List Char) where
  digits : List Char
  rest : List Char
  not_longer : rest.length ≤ text.length

/-- The digits at the start of a text, maybe none. -/
def digitsOf (text : List Char) : Digits text :=
  ⟨text.takeWhile Char.isDigit, text.dropWhile Char.isDigit, length_dropDigits_le text⟩

/-- The digits before the point: a zero stands alone. -/
def wholeDigits (text : List Char) : Found (List Char) text :=
  match text with
  | [] => .error (.after .endInValue [])
  | first :: rest =>
    if first = '0' then
      if rest.head?.any Char.isDigit then .error (.lookingAt .invalidNumber rest)
      else .ok (['0'], ⟨rest, Nat.lt_succ_self _⟩)
    else if first.isDigit then
      let found := digitsOf rest
      .ok (first :: found.digits, ⟨found.rest, Nat.lt_succ_of_le found.not_longer⟩)
    else .error (.lookingAt .invalidNumber (first :: rest))

/-- The digits behind the point, if there is a point; then there is a digit. -/
def fractionDigits (text : List Char) : Except Refusal (Option (List Char) × Digits text) :=
  match text with
  | '.' :: rest =>
    let found := digitsOf rest
    if found.digits.isEmpty then
      .error (if rest.isEmpty then .after .endInValue [] else .lookingAt .invalidNumber rest)
    else .ok (some found.digits, ⟨found.digits, found.rest, Nat.le_succ_of_le found.not_longer⟩)
  | other => .ok (none, ⟨[], other, Nat.le_refl _⟩)

/-- The greatest power of ten that an exponent may name; a greater one is out of range at once. -/
def exponentLimit : Nat := 0x7FFFFFFF

/-- What follows the first digits whose number is beyond the limit of exponents, if they are. -/
def beyondLimit? (number : Nat) : (text : List Char) → Option (List Char)
  | [] => none
  | character :: rest =>
    if character.isDigit then
      let next := 10 * number + Decimal.digitValue character
      if exponentLimit < next then some rest else beyondLimit? next rest
    else none

/-- An exponent: its sign and its digits. -/
structure Exponent (text : List Char) where
  negative : Bool
  digits : List Char
  /-- The text from the first digit on. -/
  fromDigits : List Char
  rest : List Char
  not_longer : rest.length ≤ text.length

/-- The exponent at the start of a text, if there is a mark of one; then there is a digit. -/
def exponentOf (text : List Char) : Except Refusal (Option (Exponent text) × Digits text) :=
  match text with
  | [] => .ok (none, ⟨[], [], Nat.le_refl _⟩)
  | mark :: rest =>
    if mark = 'e' || mark = 'E' then
      let signed : Bool × { left : List Char // left.length ≤ rest.length } :=
        match rest with
        | '-' :: left => (true, ⟨left, Nat.le_succ _⟩)
        | '+' :: left => (false, ⟨left, Nat.le_succ _⟩)
        | left => (false, ⟨left, Nat.le_refl _⟩)
      let found := digitsOf signed.2.1
      if found.digits.isEmpty then
        .error (if signed.2.1.isEmpty then .after .endInValue [] else
          .lookingAt .invalidNumber signed.2.1)
      else
        have bound := Nat.le_succ_of_le (Nat.le_trans found.not_longer signed.2.2)
        .ok (some ⟨signed.1, found.digits, signed.2.1, found.rest, bound⟩,
          ⟨found.digits, found.rest, bound⟩)
    else .ok (none, ⟨[], mark :: rest, Nat.le_refl _⟩)

/-- The number that some digits, fraction digits and an exponent write: an integer if there is
    neither a fraction nor an exponent, it is no negative zero and it fits; else the nearest
    binary64 value. None if that is infinite. -/
def numberOf? (negative : Bool) (whole : List Char) (fraction : Option (List Char))
    (exponent : Option Int) : Option Number :=
  let written := whole ++ fraction.getD []
  let digits := Decimal.numberOfDigits written
  let signed : Int := if negative then -digits else digits
  let keeps := fraction.isNone && exponent.isNone && !(negative && digits == 0) &&
    Number.leastInteger ≤ signed && signed ≤ Number.greatestInteger
  if keeps then some (.integer signed)
  else
    let scale := exponent.getD 0 - ((fraction.getD []).length : Int)
    let value := Decimal.toBinary64 ⟨negative, digits, scale⟩
    if value.isFinite then some (.real value) else none

/-- The number at the start of a text, behind its sign. -/
def unsignedNumber (negative : Bool) (text : List Char) : Found Number text :=
  match wholeDigits text with
  | .error refusal => .error refusal
  | .ok (whole, afterWhole) =>
    match fractionDigits afterWhole.1 with
    | .error refusal => .error refusal
    | .ok (fraction, afterFraction) =>
      match exponentOf afterFraction.rest with
      | .error refusal => .error refusal
      | .ok (exponent, afterExponent) =>
        let written := whole ++ fraction.getD []
        let beyond := exponent.bind fun found =>
          if found.negative || written.all (· == '0') then none else beyondLimit? 0 found.fromDigits
        match beyond with
        | some rest => .error (.after .numberOutOfRange rest)
        | none =>
          let power : Option Int := exponent.map fun found =>
            let magnitude : Int := Decimal.numberOfDigits found.digits
            if found.negative then -magnitude else magnitude
          match numberOf? negative whole fraction power with
          | some number =>
            .ok (number, ⟨afterExponent.rest, by
              have := afterExponent.not_longer
              have := afterFraction.not_longer
              have := afterWhole.2
              omega⟩)
          | none => .error (.after .numberOutOfRange afterExponent.rest)

/-- One element and those after it, up to the closing bracket. -/
def elements {α : Type} (element : (text : List Char) → Found α text) (text : List Char) :
    Found (List α) text :=
  match element text with
  | .error refusal => .error refusal
  | .ok (first, afterFirst) =>
    match behindSpaces? afterFirst.1 with
    | none => .error (.after .endInArray [])
    | some (']', rest) => .ok ([first], ⟨rest.1, Nat.lt_trans rest.2 afterFirst.2⟩)
    | some (',', rest) =>
      match behindSpaces? rest.1 with
      | none => .error (.after .endInValue [])
      | some (']', closing) => .error (.lookingAt .trailingComma (']' :: closing.1))
      | some (begins, next) =>
        have smaller : next.1.length + 1 < text.length :=
          Nat.lt_of_le_of_lt next.2 (Nat.lt_trans rest.2 afterFirst.2)
        match elements element (begins :: next.1) with
        | .error refusal => .error refusal
        | .ok (others, left) => .ok (first :: others, ⟨left.1, Nat.lt_trans left.2 smaller⟩)
    | some (other, rest) => .error (.lookingAt .expectedCommaOrBracket (other :: rest.1))
termination_by text.length

/-- The elements of an array, from behind its opening bracket on. -/
def arrayElements {α : Type} (element : (text : List Char) → Found α text) (text : List Char) :
    Found (List α) text :=
  match behindSpaces? text with
  | none => .error (.after .endInArray [])
  | some (']', rest) => .ok ([], rest)
  | some (begins, next) =>
    match elements element (begins :: next.1) with
    | .error refusal => .error refusal
    | .ok (items, left) => .ok (items, ⟨left.1, Nat.lt_of_lt_of_le left.2 next.2⟩)

/-- A member, from behind the opening quote of its name on. -/
def namedElement {α : Type} (element : (text : List Char) → Found α text) (text : List Char) :
    Found (String × α) text :=
  match stringCharacters text with
  | .error refusal => .error refusal
  | .ok (name, afterName) =>
    match behindSpaces? afterName.1 with
    | none => .error (.after .endInObject [])
    | some (':', rest) =>
      match element rest.1 with
      | .error refusal => .error refusal
      | .ok (value, left) =>
        .ok ((String.ofList name, value),
          ⟨left.1, Nat.lt_trans left.2 (Nat.lt_trans rest.2 afterName.2)⟩)
    | some (other, rest) => .error (.lookingAt .expectedColon (other :: rest.1))

/-- One member and those after it, up to the closing brace, from behind the opening quote of its
    name on. -/
def namedElements {α : Type} (element : (text : List Char) → Found α text) (text : List Char) :
    Found (List (String × α)) text :=
  match namedElement element text with
  | .error refusal => .error refusal
  | .ok (first, afterFirst) =>
    match behindSpaces? afterFirst.1 with
    | none => .error (.after .endInObject [])
    | some ('\x7d', rest) => .ok ([first], ⟨rest.1, Nat.lt_trans rest.2 afterFirst.2⟩)
    | some (',', rest) =>
      match behindSpaces? rest.1 with
      | none => .error (.after .endInValue [])
      | some ('\x7d', closing) => .error (.lookingAt .trailingComma ('\x7d' :: closing.1))
      | some ('"', next) =>
        have smaller : next.1.length < text.length :=
          Nat.lt_trans next.2 (Nat.lt_trans rest.2 afterFirst.2)
        match namedElements element next.1 with
        | .error refusal => .error refusal
        | .ok (others, left) => .ok (first :: others, ⟨left.1, Nat.lt_trans left.2 smaller⟩)
      | some (other, next) => .error (.lookingAt .nameNotAString (other :: next.1))
    | some (other, rest) => .error (.lookingAt .expectedCommaOrBrace (other :: rest.1))
termination_by text.length

/-- The members of an object as written, from behind its opening brace on. -/
def objectElements {α : Type} (element : (text : List Char) → Found α text) (text : List Char) :
    Found (List (String × α)) text :=
  match behindSpaces? text with
  | none => .error (.after .endInObject [])
  | some ('\x7d', rest) => .ok ([], rest)
  | some ('"', next) =>
    match namedElements element next.1 with
    | .error refusal => .error refusal
    | .ok (members, left) => .ok (members, ⟨left.1, Nat.lt_trans left.2 next.2⟩)
  | some (other, rest) => .error (.lookingAt .nameNotAString (other :: rest.1))

/-- A found thing in a longer text, under another name. -/
def widen {α β : Type} {inner outer : List Char} (shorter : inner.length < outer.length)
    (build : α → β) : Found α inner → Found β outer
  | .error refusal => .error refusal
  | .ok (value, left) => .ok (build value, ⟨left.1, Nat.lt_trans left.2 shorter⟩)

/-- A word that is a value of its own, from behind its first letter on. -/
def word {outer : List Char} (value : Value) (letters inner : List Char)
    (shorter : inner.length < outer.length) : Found Value outer :=
  match afterWord .expectedWord letters inner with
  | .error refusal => .error refusal
  | .ok left => .ok (value, ⟨left.1, Nat.lt_of_le_of_lt left.2 shorter⟩)

/-- The value at the start of a text, behind blanks. It may hold arrays and objects nested `depth`
    deep. -/
def value (depth : Nat) (text : List Char) : Found Value text :=
  match behindSpaces? text with
  | none => .error (.after .endInValue [])
  | some (first, ⟨rest, shorter⟩) =>
    if first = 'n' then word .null "ull".toList rest shorter
    else if first = 't' then word (.bool true) "rue".toList rest shorter
    else if first = 'f' then word (.bool false) "alse".toList rest shorter
    else if first = '"' then
      widen shorter (fun characters => .string (String.ofList characters)) (stringCharacters rest)
    else if first = '-' then widen shorter .number (unsignedNumber true rest)
    else if first.isDigit then
      match unsignedNumber false (first :: rest) with
      | .error refusal => .error refusal
      | .ok (number, left) => .ok (.number number, ⟨left.1, Nat.lt_of_lt_of_le left.2 shorter⟩)
    else if first = '[' then
      match depth with
      | 0 => .error (.lookingAt .nestedTooDeep (first :: rest))
      | depth + 1 => widen shorter .array (arrayElements (value depth) rest)
    else if first = '\x7b' then
      match depth with
      | 0 => .error (.lookingAt .nestedTooDeep (first :: rest))
      | depth + 1 =>
        widen shorter (fun members => .object (Members.ofWritten members))
          (objectElements (value depth) rest)
    else .error (.lookingAt .expectedValue (first :: rest))
termination_by structural depth

/-- How deep arrays and objects may be nested. -/
def depthLimit : Nat := 127

end Reader

/-- A place in a text: lines count from 1, columns are the bytes read of the line. -/
structure Place where
  line : Nat
  column : Nat
  deriving Repr, DecidableEq

/-- The place behind the first `offset` bytes of some characters that begin at `start`. -/
def Place.after (start : Place) : (characters : List Char) → (offset : Nat) → Place
  | [], offset => ⟨start.line, start.column + offset⟩
  | character :: rest, offset =>
    if offset < character.utf8Size then ⟨start.line, start.column + offset⟩
    else if character = '\n' then Place.after ⟨start.line + 1, 0⟩ rest (offset - 1)
    else
      Place.after ⟨start.line, start.column + character.utf8Size⟩ rest (offset - character.utf8Size)

/-- A fault and its place. -/
structure ReadError where
  fault : Fault
  place : Place
  deriving Repr, DecidableEq

/-- The wording of a read error. -/
def ReadError.message (error : ReadError) : String :=
  s!"{error.fault.message} at line {error.place.line} column {error.place.column}"

/-- The place of a refusal in the whole text. -/
def Refusal.locate (refusal : Refusal) (text : List Char) : ReadError :=
  ⟨refusal.fault, Place.after ⟨1, 0⟩ text (byteCount text - refusal.unread)⟩

/-- What a step finds, if nothing but blanks follows it. -/
def Reader.complete {α : Type} (text : List Char) : Found α text → Except ReadError α
  | .error refusal => .error (refusal.locate text)
  | .ok (value, left) =>
    let rest := Reader.skipSpaces left.1
    if rest.isEmpty then .ok value
    else .error ((Refusal.lookingAt .trailingCharacters rest).locate text)

/-- The value that a text writes. -/
def Value.ofText (text : String) : Except ReadError Value :=
  Reader.complete text.toList (Reader.value Reader.depthLimit text.toList)

/-- The members of a text that writes one object, each as often as it is written. -/
def membersWritten? (text : String) : Option Members :=
  match Reader.skipSpaces text.toList with
  | '\x7b' :: rest =>
    let members := Reader.objectElements (Reader.value (Reader.depthLimit - 1)) rest
    (Reader.complete ('\x7b' :: rest) (Reader.widen (Nat.lt_succ_self _) id members)).toOption
  | _ => none

end CodeReport.Json
