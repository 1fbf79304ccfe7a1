import CodeReport.Digest.Sha256
import CodeReport.Report.Body

/-!
# Section keys

A section is known by its key, not by its place, so that what is remembered of
it survives when sections are put in before it. The base key comes from the
title and the kind of content alone. Sections that share a base key are told
apart by a number behind it, from the second one on.
-/

namespace CodeReport.Section

/-- The identity of a section. -/
structure Key where
  text : String
  deriving Repr, DecidableEq

namespace Key

/-- The bytes that stand for a title and a kind: those of the title, a zero, and those of the
    kind's name. No name of a kind holds a zero, so the last zero divides the two. -/
def bytes (title : String) (kind : Kind) : List UInt8 :=
  title.toUTF8.toList ++ 0 :: kind.name.toUTF8.toList

/-- A hexadecimal digit in small letters. -/
def hexDigit (value : Nat) : Char :=
  if value < 10 then Char.ofNat ('0'.toNat + value) else Char.ofNat ('a'.toNat + (value - 10))

/-- The two hexadecimal digits of a byte. -/
def hexByte (byte : UInt8) : List Char :=
  [hexDigit (byte.toNat / 16), hexDigit (byte.toNat % 16)]

/-- The base key of a title and a kind under a digest: its first six bytes, in hexadecimal. -/
def deriveWith (digest : List UInt8 → List UInt8) (title : String) (kind : Kind) : Key :=
  ⟨"s-" ++ String.ofList (((digest (bytes title kind)).take 6).flatMap hexByte)⟩

/-- The base key of a title and a kind. -/
def derive (title : String) (kind : Kind) : Key :=
  deriveWith Digest.sha256 title kind

/-- The key of the section that is the `occurrence`-th with this base key, counted from 1. The
    first one has the base key itself. -/
def withOccurrence (key : Key) (occurrence : Nat) : Key :=
  if occurrence ≤ 1 then key else ⟨key.text ++ "-" ++ toString occurrence⟩

end Key

end CodeReport.Section
