/-
# Base64, URL-safe and unpadded

Three bytes are written as four symbols of six bits each, from the alphabet `A–Z a–z 0–9 - _`; one
or two bytes left over take two or three symbols, whose unused low bits are zero. No padding is
written.

`decode` is strict: it accepts exactly what `encode` writes. A padding character, a symbol outside
the alphabet, a lone symbol in the last group and set bits that `encode` leaves zero are all
refused, and `DecodeError` says which was met and at which byte. Offsets count bytes of the input.

When several faults are present the first of these is reported:

* in an input one symbol too long, a last byte that is no symbol and no padding;
* the first byte that is no symbol among the groups before the last one;
* in the last group, read left to right: padding too early, anything after padding, no symbol;
* then the length, then padding at all, then set unused bits.
-/

namespace Paging
namespace Base64

/-- Why a text is not the Base64 of any bytes. -/
inductive DecodeError
  /-- The byte at `offset` is not a symbol that may stand there. -/
  | invalidByte (offset : Nat) (byte : UInt8)
  /-- The last group has a single symbol; `length` is the number of bytes read. -/
  | invalidLength (length : Nat)
  /-- The last symbol has bits set that no byte takes. -/
  | invalidLastSymbol (offset : Nat) (byte : UInt8)
  /-- The text is padded. -/
  | invalidPadding
  deriving DecidableEq, Repr

/-- The wording of a decoding error. -/
def DecodeError.message : DecodeError → String
  | invalidByte offset byte => s!"Invalid symbol {byte}, offset {offset}."
  | invalidLength length => s!"Invalid input length: {length}"
  | invalidLastSymbol offset byte => s!"Invalid last symbol {byte}, offset {offset}."
  | invalidPadding => "Invalid padding"

/-- The symbol for a number below 64. -/
def symbol (n : Nat) : UInt8 :=
  if n < 26 then UInt8.ofNat (n + 65)
  else if n < 52 then UInt8.ofNat (n + 71)
  else if n < 62 then UInt8.ofNat (n - 4)
  else if n = 62 then 45
  else 95

/-- The number that a symbol stands for; `none` outside the alphabet. -/
def sextet? (byte : UInt8) : Option Nat :=
  let b := byte.toNat
  if 65 ≤ b ∧ b ≤ 90 then some (b - 65)
  else if 97 ≤ b ∧ b ≤ 122 then some (b - 71)
  else if 48 ≤ b ∧ b ≤ 57 then some (b + 4)
  else if b = 45 then some 62
  else if b = 95 then some 63
  else none

/-- The padding character `=`, which a strict text never holds. -/
def padding : UInt8 := 61

/-- The symbols for a sequence of bytes, as bytes of the text. -/
def encode : List UInt8 → List UInt8
  | a :: b :: c :: rest =>
    symbol (a.toNat / 4) :: symbol (a.toNat % 4 * 16 + b.toNat / 16)
      :: symbol (b.toNat % 16 * 4 + c.toNat / 64) :: symbol (c.toNat % 64) :: encode rest
  | [a, b] =>
    [symbol (a.toNat / 4), symbol (a.toNat % 4 * 16 + b.toNat / 16), symbol (b.toNat % 16 * 4)]
  | [a] => [symbol (a.toNat / 4), symbol (a.toNat % 4 * 16)]
  | [] => []

/-- The number of the symbol at `offset`, or the error that there is none. -/
def sextetAt (offset : Nat) (byte : UInt8) : Except DecodeError Nat :=
  match sextet? byte with
  | some n => .ok n
  | none => .error (.invalidByte offset byte)

/-- The symbols of the last group, at `offset`, up to its padding, and whether there is padding.
The first two places take no padding, and after padding nothing but padding may come. -/
def lastSymbols (offset place : Nat) : List UInt8 → Except DecodeError (List Nat × Bool)
  | [] => .ok ([], false)
  | byte :: rest =>
    if byte = padding then
      if place < 2 then .error (.invalidByte (offset + place) padding)
      else if rest.all (· = padding) then .ok ([], true)
      else .error (.invalidByte (offset + place) padding)
    else do
      let n ← sextetAt (offset + place) byte
      let (more, padded) ← lastSymbols offset (place + 1) rest
      pure (n :: more, padded)

/-- The bytes of the last group, which starts at `offset` and has at most four symbols. -/
def decodeLast (offset : Nat) (group : List UInt8) : Except DecodeError (List UInt8) := do
  let (symbols, padded) ← lastSymbols offset 0 group
  let refuseLast (n : Nat) : Except DecodeError (List UInt8) :=
    .error (.invalidLastSymbol (offset + n) (group[n]?.getD padding))
  match symbols with
  | [] => if group.isEmpty then pure [] else .error (.invalidLength offset)
  | [_] => .error (.invalidLength (offset + 1))
  | [a, b] =>
    if padded then .error .invalidPadding
    else if b % 16 ≠ 0 then refuseLast 1
    else pure [UInt8.ofNat (a * 4 + b / 16)]
  | [a, b, c] =>
    if padded then .error .invalidPadding
    else if c % 4 ≠ 0 then refuseLast 2
    else pure [UInt8.ofNat (a * 4 + b / 16), UInt8.ofNat (b % 16 * 16 + c / 4)]
  | a :: b :: c :: d :: _ =>
    pure [UInt8.ofNat (a * 4 + b / 16), UInt8.ofNat (b % 16 * 16 + c / 4),
      UInt8.ofNat (c % 4 * 64 + d)]

/-- The bytes of the groups from `offset` on; every group but the last has four symbols. -/
def decodeFrom (offset : Nat) : List UInt8 → Except DecodeError (List UInt8)
  | a :: b :: c :: d :: e :: rest => do
    let na ← sextetAt offset a
    let nb ← sextetAt (offset + 1) b
    let nc ← sextetAt (offset + 2) c
    let nd ← sextetAt (offset + 3) d
    let more ← decodeFrom (offset + 4) (e :: rest)
    pure (UInt8.ofNat (na * 4 + nb / 16) :: UInt8.ofNat (nb % 16 * 16 + nc / 4)
      :: UInt8.ofNat (nc % 4 * 64 + nd) :: more)
  | group => decodeLast offset group

/-- The bytes that a text encodes. The text is given by its own bytes. -/
def decode (text : List UInt8) : Except DecodeError (List UInt8) :=
  match text.getLast? with
  | some last =>
    if text.length % 4 = 1 ∧ last ≠ padding ∧ sextet? last = none then
      .error (.invalidByte (text.length - 1) last)
    else decodeFrom 0 text
  | none => .ok []

/-- Every number below 64 has a symbol of its own. -/
theorem sextet?_symbol {n : Nat} (h : n < 64) : sextet? (symbol n) = some n := by
  have all : ∀ m : Fin 64, sextet? (symbol m) = some m.val := by decide
  exact all ⟨n, h⟩

/-- Only the symbols of the alphabet stand for numbers. -/
theorem symbol_of_sextet? {b : UInt8} {n : Nat} (h : sextet? b = some n) :
    symbol n = b ∧ n < 64 := by
  have all : ∀ m : Fin 256, ∀ k, sextet? (UInt8.ofNat m) = some k →
      symbol k = UInt8.ofNat m ∧ k < 64 := by
    intro m k hk
    have every : ∀ m : Fin 256, ((sextet? (UInt8.ofNat m)).all fun k =>
        symbol k = UInt8.ofNat m ∧ k < 64) = true := by decide +kernel
    have hm := every m
    rw [hk] at hm
    simpa using hm
  simpa using all ⟨b.toNat, b.toNat_lt⟩ n (by simpa using h)

/-- One byte takes two symbols, two bytes three, and three bytes four. -/
example : encode [0] = [65, 65] ∧ encode [251, 239] = [45, 45, 56] ∧
    encode [255, 255, 255] = [95, 95, 95, 95] := by decide

/-- A second spelling of the same byte is refused, as is padding. -/
example : decode [65, 66] = .error (.invalidLastSymbol 1 66) ∧
    decode [65, 65, 61, 61] = .error .invalidPadding ∧ decode [65, 65] = .ok [0] := ⟨rfl, rfl, rfl⟩

end Base64
end Paging
