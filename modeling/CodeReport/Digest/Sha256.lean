/-!
# SHA-256

The 256-bit digest of a sequence of bytes, over words of 32 bits whose addition
wraps around. The message is padded to whole blocks of 64 bytes, each block is
stretched to a schedule of 64 words, and the rounds of all blocks are folded
into eight words, whose bytes are the digest.
-/

namespace CodeReport.Digest

/-- The eight chaining words. -/
structure Sha256State where
  a : UInt32
  b : UInt32
  c : UInt32
  d : UInt32
  e : UInt32
  f : UInt32
  g : UInt32
  h : UInt32

namespace Sha256State

/-- The chaining words before the first block. -/
def initial : Sha256State :=
  ⟨0x6a09e667, 0xbb67ae85, 0x3c6ef372, 0xa54ff53a, 0x510e527f, 0x9b05688c, 0x1f83d9ab, 0x5be0cd19⟩

/-- Word by word sum. -/
def add (left right : Sha256State) : Sha256State :=
  ⟨left.a + right.a, left.b + right.b, left.c + right.c, left.d + right.d,
    left.e + right.e, left.f + right.f, left.g + right.g, left.h + right.h⟩

/-- The chaining words in order. -/
def words (state : Sha256State) : List UInt32 :=
  [state.a, state.b, state.c, state.d, state.e, state.f, state.g, state.h]

end Sha256State

/-- One constant per round. -/
def sha256Constants : List UInt32 :=
  [0x428a2f98, 0x71374491, 0xb5c0fbcf, 0xe9b5dba5, 0x3956c25b, 0x59f111f1, 0x923f82a4, 0xab1c5ed5,
    0xd807aa98, 0x12835b01, 0x243185be, 0x550c7dc3, 0x72be5d74, 0x80deb1fe, 0x9bdc06a7, 0xc19bf174,
    0xe49b69c1, 0xefbe4786, 0x0fc19dc6, 0x240ca1cc, 0x2de92c6f, 0x4a7484aa, 0x5cb0a9dc, 0x76f988da,
    0x983e5152, 0xa831c66d, 0xb00327c8, 0xbf597fc7, 0xc6e00bf3, 0xd5a79147, 0x06ca6351, 0x14292967,
    0x27b70a85, 0x2e1b2138, 0x4d2c6dfc, 0x53380d13, 0x650a7354, 0x766a0abb, 0x81c2c92e, 0x92722c85,
    0xa2bfe8a1, 0xa81a664b, 0xc24b8b70, 0xc76c51a3, 0xd192e819, 0xd6990624, 0xf40e3585, 0x106aa070,
    0x19a4c116, 0x1e376c08, 0x2748774c, 0x34b0bcb5, 0x391c0cb3, 0x4ed8aa4a, 0x5b9cca4f, 0x682e6ff3,
    0x748f82ee, 0x78a5636f, 0x84c87814, 0x8cc70208, 0x90befffa, 0xa4506ceb, 0xbef9a3f7, 0xc67178f2]

/-- Rotation to the right, for amounts from 1 to 31. -/
def rotateRight (word amount : UInt32) : UInt32 :=
  (word >>> amount) ||| (word <<< (32 - amount))

/-- The mixing of a schedule word fifteen places back. -/
def scheduleMixOld (word : UInt32) : UInt32 :=
  rotateRight word 7 ^^^ rotateRight word 18 ^^^ (word >>> 3)

/-- The mixing of a schedule word two places back. -/
def scheduleMixNew (word : UInt32) : UInt32 :=
  rotateRight word 17 ^^^ rotateRight word 19 ^^^ (word >>> 10)

/-- The next `count` schedule words after the sixteen words of `window`, oldest first. -/
def extendSchedule : (count : Nat) → (window : List UInt32) → List UInt32
  | 0, _ => []
  | count + 1, window =>
    let next := scheduleMixNew (window.getD 14 0) + window.getD 9 0 +
      scheduleMixOld (window.getD 1 0) + window.getD 0 0
    next :: extendSchedule count (window.drop 1 ++ [next])

/-- The schedule of a block: its sixteen words and forty-eight more. -/
def schedule (block : List UInt32) : List UInt32 :=
  block ++ extendSchedule 48 block

/-- One round, with the sum of its constant and its schedule word. -/
def sha256Round (state : Sha256State) (input : UInt32 × UInt32) : Sha256State :=
  let sumHigh := rotateRight state.e 6 ^^^ rotateRight state.e 11 ^^^ rotateRight state.e 25
  let choice := (state.e &&& state.f) ^^^ (~~~state.e &&& state.g)
  let first := state.h + sumHigh + choice + input.1 + input.2
  let sumLow := rotateRight state.a 2 ^^^ rotateRight state.a 13 ^^^ rotateRight state.a 22
  let majority := (state.a &&& state.b) ^^^ (state.a &&& state.c) ^^^ (state.b &&& state.c)
  ⟨first + (sumLow + majority), state.a, state.b, state.c, state.d + first, state.e, state.f, state.g⟩

/-- All rounds of one block. -/
def compress (state : Sha256State) (block : List UInt32) : Sha256State :=
  state.add ((sha256Constants.zip (schedule block)).foldl sha256Round state)

/-- The bytes of a number below `256 ^ count`, highest first. -/
def bigEndian : (count : Nat) → (number : Nat) → List UInt8
  | 0, _ => []
  | count + 1, number => UInt8.ofNat (number / Nat.pow 256 count) :: bigEndian count number

/-- How many zero bytes complete the last block, after the closing bit and before the length. -/
def zeroPadding (size : Nat) : Nat :=
  (119 - size % 64) % 64

/-- The message, a closing one bit, zeros, and the length of the message in bits. -/
def padMessage (message : List UInt8) : List UInt8 :=
  message ++ 0x80 :: List.replicate (zeroPadding message.length) 0 ++
    bigEndian 8 (8 * message.length)

/-- The big-endian words of a sequence of bytes. -/
def wordsOfBytes : List UInt8 → List UInt32
  | a :: b :: c :: d :: rest =>
    ((a.toUInt32 <<< 24) ||| (b.toUInt32 <<< 16) ||| (c.toUInt32 <<< 8) ||| d.toUInt32) ::
      wordsOfBytes rest
  | _ => []

/-- The first `count` blocks of sixteen words. -/
def sha256Blocks : (count : Nat) → (words : List UInt32) → List (List UInt32)
  | 0, _ => []
  | count + 1, words => words.take 16 :: sha256Blocks count (words.drop 16)

/-- The 32 bytes of the digest. -/
def sha256 (message : List UInt8) : List UInt8 :=
  let words := wordsOfBytes (padMessage message)
  let final := (sha256Blocks (words.length / 16) words).foldl compress Sha256State.initial
  final.words.flatMap fun word => bigEndian 4 word.toNat

end CodeReport.Digest
