/-
# SHA-256

The hash of FIPS 180-4 on sequences of bytes. The message is followed by a one bit, zeros and its
length in bits, so that it falls into blocks of 64 bytes; each block stirs the eight words of the
state in 64 rounds. The round words are made as they are used: a window holds the next sixteen, and
every round drops the first and appends the one that follows. Main statement: `length_digest`, a
digest has 32 bytes.
-/
import Paging.Bytes

namespace Paging
namespace Sha256

/-- The eight words that the rounds stir. -/
structure State where
  a : UInt32
  b : UInt32
  c : UInt32
  d : UInt32
  e : UInt32
  f : UInt32
  g : UInt32
  h : UInt32
  deriving DecidableEq, Repr

/-- The words that hashing starts from. -/
def State.start : State :=
  ⟨0x6a09e667, 0xbb67ae85, 0x3c6ef372, 0xa54ff53a, 0x510e527f, 0x9b05688c, 0x1f83d9ab, 0x5be0cd19⟩

/-- The sixty-four round constants. -/
def roundConstants : List UInt32 :=
  [0x428a2f98, 0x71374491, 0xb5c0fbcf, 0xe9b5dba5, 0x3956c25b, 0x59f111f1, 0x923f82a4, 0xab1c5ed5,
   0xd807aa98, 0x12835b01, 0x243185be, 0x550c7dc3, 0x72be5d74, 0x80deb1fe, 0x9bdc06a7, 0xc19bf174,
   0xe49b69c1, 0xefbe4786, 0x0fc19dc6, 0x240ca1cc, 0x2de92c6f, 0x4a7484aa, 0x5cb0a9dc, 0x76f988da,
   0x983e5152, 0xa831c66d, 0xb00327c8, 0xbf597fc7, 0xc6e00bf3, 0xd5a79147, 0x06ca6351, 0x14292967,
   0x27b70a85, 0x2e1b2138, 0x4d2c6dfc, 0x53380d13, 0x650a7354, 0x766a0abb, 0x81c2c92e, 0x92722c85,
   0xa2bfe8a1, 0xa81a664b, 0xc24b8b70, 0xc76c51a3, 0xd192e819, 0xd6990624, 0xf40e3585, 0x106aa070,
   0x19a4c116, 0x1e376c08, 0x2748774c, 0x34b0bcb5, 0x391c0cb3, 0x4ed8aa4a, 0x5b9cca4f, 0x682e6ff3,
   0x748f82ee, 0x78a5636f, 0x84c87814, 0x8cc70208, 0x90befffa, 0xa4506ceb, 0xbef9a3f7, 0xc67178f2]

/-- Rotation of a word to the right by `n` bits, for `n` from 1 to 31. -/
def rotateRight (word : UInt32) (n : UInt32) : UInt32 :=
  (word >>> n) ||| (word <<< (32 - n))

/-- The word that follows a window of sixteen round words. -/
def nextWord (window : List UInt32) : UInt32 :=
  let word (i : Nat) : UInt32 := window[i]?.getD 0
  let early := rotateRight (word 1) 7 ^^^ rotateRight (word 1) 18 ^^^ (word 1 >>> 3)
  let late := rotateRight (word 14) 17 ^^^ rotateRight (word 14) 19 ^^^ (word 14 >>> 10)
  word 0 + early + word 9 + late

/-- One round with its constant and its word. -/
def round (s : State) (constant word : UInt32) : State :=
  let upper := rotateRight s.e 6 ^^^ rotateRight s.e 11 ^^^ rotateRight s.e 25
  let choice := (s.e &&& s.f) ^^^ ((~~~ s.e) &&& s.g)
  let t₁ := s.h + upper + choice + constant + word
  let lower := rotateRight s.a 2 ^^^ rotateRight s.a 13 ^^^ rotateRight s.a 22
  let majority := (s.a &&& s.b) ^^^ (s.a &&& s.c) ^^^ (s.b &&& s.c)
  ⟨t₁ + (lower + majority), s.a, s.b, s.c, s.d + t₁, s.e, s.f, s.g⟩

/-- The rounds for the given constants, drawing their words from the window. -/
def rounds (window : List UInt32) (s : State) : List UInt32 → State
  | [] => s
  | constant :: constants =>
    rounds (window.drop 1 ++ [nextWord window]) (round s constant (window[0]?.getD 0)) constants

/-- The state after one more block, given as sixteen words. -/
def compress (s : State) (block : List UInt32) : State :=
  let t := rounds block s roundConstants
  ⟨s.a + t.a, s.b + t.b, s.c + t.c, s.d + t.d, s.e + t.e, s.f + t.f, s.g + t.g, s.h + t.h⟩

/-- The words of a sequence of bytes, four bytes each and the most significant first. -/
def words : List UInt8 → List UInt32
  | a :: b :: c :: d :: rest =>
    (a.toUInt32 <<< 24 ||| b.toUInt32 <<< 16 ||| c.toUInt32 <<< 8 ||| d.toUInt32) :: words rest
  | _ => []

/-- The first `count` blocks of sixteen words. -/
def blocks : Nat → List UInt32 → List (List UInt32)
  | 0, _ => []
  | count + 1, ws => ws.take 16 :: blocks count (ws.drop 16)

/-- The message with its one bit, its zeros and its length. -/
def pad (message : List UInt8) : List UInt8 :=
  let zeros := (55 + 64 - message.length % 64) % 64
  message ++ 128 :: List.replicate zeros 0 ++ bigEndian 8 (8 * message.length)

/-- The bytes of a word, the most significant first. -/
def wordBytes (w : UInt32) : List UInt8 :=
  [(w >>> 24).toUInt8, (w >>> 16).toUInt8, (w >>> 8).toUInt8, w.toUInt8]

/-- The bytes of the eight words of a state. -/
def State.bytes (s : State) : List UInt8 :=
  wordBytes s.a ++ wordBytes s.b ++ wordBytes s.c ++ wordBytes s.d
    ++ wordBytes s.e ++ wordBytes s.f ++ wordBytes s.g ++ wordBytes s.h

/-- The SHA-256 digest of a message. -/
def digest (message : List UInt8) : List UInt8 :=
  let padded := pad message
  ((blocks (padded.length / 64) (words padded)).foldl compress State.start).bytes

/-- **A digest has 32 bytes.** -/
@[simp] theorem length_digest (message : List UInt8) : (digest message).length = 32 := rfl

end Sha256
end Paging
