/-
# The tokens of a JSON text

A JSON text is bytes, and its tokens are brackets, commas, colons, the three names, numbers and
string literals, with blanks between them where anyone likes. A text is read to its end or not at
all. Numbers are taken as they are written. A string literal is first cut into pieces, which are
plain bytes or 16-bit units written as `\uXXXX`, and then read as UTF-8 with surrogate pairs put
together; when that fails the literal is still a token, of no text.
-/
import Paging.Json
import Paging.Text.Utf8

namespace Paging
namespace Json

/-- The smallest meaningful parts of a JSON text. -/
inductive Token
  | openArray
  | closeArray
  | openObject
  | closeObject
  | comma
  | colon
  | null
  | bool (truth : Bool)
  | number (numeral : Numeral)
  | string (text : Option String)
  deriving DecidableEq, Repr

/-- A piece of a string literal: a byte, or a unit written as `\uXXXX`. -/
inductive Piece
  | byte (byte : UInt8)
  | unit (unit : Nat)
  deriving DecidableEq, Repr

/-- Blanks: the space, the tab and the two line ends. -/
def isBlank (b : UInt8) : Bool :=
  b == 32 || b == 9 || b == 10 || b == 13

/-- The text after its leading blanks. -/
def skipBlanks (text : List UInt8) : List UInt8 :=
  text.dropWhile isBlank

/-- Whether a byte is a decimal digit. -/
def isDigit (b : UInt8) : Bool :=
  48 ≤ b && b ≤ 57

/-- The value of a hexadecimal digit, in either case. -/
def hexValue? (b : UInt8) : Option Nat :=
  if 48 ≤ b ∧ b ≤ 57 then some (b.toNat - 48)
  else if 97 ≤ b ∧ b ≤ 102 then some (b.toNat - 87)
  else if 65 ≤ b ∧ b ≤ 70 then some (b.toNat - 55)
  else none

/-- The unit that four hexadecimal digits stand for. -/
def hexUnit? (a b c d : UInt8) : Option Nat := do
  pure ((((← hexValue? a) * 16 + (← hexValue? b)) * 16 + (← hexValue? c)) * 16 + (← hexValue? d))

/-- The byte that a letter after a backslash stands for. -/
def escapedByte? (b : UInt8) : Option UInt8 :=
  if b = 34 ∨ b = 92 ∨ b = 47 then some b
  else if b = 98 then some 8
  else if b = 102 then some 12
  else if b = 110 then some 10
  else if b = 114 then some 13
  else if b = 116 then some 9
  else none

/-- The pieces of a string literal after its opening quote, and what follows the closing one. -/
def pieces? : List UInt8 → Option (List Piece × List UInt8)
  | [] => none
  | b :: rest =>
    if b = 34 then some ([], rest)
    else if b < 32 then none
    else if b = 92 then
      match rest with
      | [] => none
      | c :: more =>
        if c = 117 then
          match more with
          | h₁ :: h₂ :: h₃ :: h₄ :: after => do
            let unit ← hexUnit? h₁ h₂ h₃ h₄
            let (pieces, after) ← pieces? after
            pure (.unit unit :: pieces, after)
          | _ => none
        else do
          let byte ← escapedByte? c
          let (pieces, after) ← pieces? more
          pure (.byte byte :: pieces, after)
    else do
      let (pieces, after) ← pieces? rest
      pure (.byte b :: pieces, after)

/-- Whether a unit is the first half of a surrogate pair. -/
def isHighSurrogate (unit : Nat) : Bool :=
  0xd800 ≤ unit && unit < 0xdc00

/-- Whether a unit is the second half of a surrogate pair. -/
def isLowSurrogate (unit : Nat) : Bool :=
  0xdc00 ≤ unit && unit < 0xe000

/-- The bytes of a character given by its code point. -/
def codePoint (n : Nat) : List UInt8 :=
  String.utf8EncodeChar (Char.ofNat n)

/-- The bytes that pieces stand for; `none` for half a surrogate pair. -/
def contents? : List Piece → Option (List UInt8)
  | [] => some []
  | .byte b :: rest => (contents? rest).map (b :: ·)
  | .unit u :: rest =>
    if isHighSurrogate u then
      match rest with
      | .unit v :: more =>
        if isLowSurrogate v then
          (contents? more).map (codePoint (0x10000 + (u - 0xd800) * 0x400 + (v - 0xdc00)) ++ ·)
        else none
      | _ => none
    else if isLowSurrogate u then none
    else (contents? rest).map (codePoint u ++ ·)

/-- The text that pieces stand for, if it is one. -/
def ofPieces? (pieces : List Piece) : Option String :=
  (contents? pieces).bind Text.ofBytes?

/-- The digits at the beginning of a text, and what follows them. -/
def digits (text : List UInt8) : List Char × List UInt8 :=
  ((text.takeWhile isDigit).map fun b => Char.ofNat b.toNat, text.dropWhile isDigit)

/-- The digits at the beginning of a text, which must be there. -/
def digits? (text : List UInt8) : Option (List Char × List UInt8) :=
  let (ds, rest) := digits text
  if ds.isEmpty then none else some (ds, rest)

/-- The digits before the point: a single zero, or digits that do not begin with one. -/
def whole? (text : List UInt8) : Option (List Char × List UInt8) :=
  match text with
  | 48 :: rest => some (['0'], rest)
  | text => digits? text

/-- The digits behind the point, if there is a point. -/
def fraction? (text : List UInt8) : Option (List Char × List UInt8) :=
  match text with
  | 46 :: rest => digits? rest
  | text => some ([], text)

/-- The sign of an exponent. -/
def exponentSign (text : List UInt8) : ExponentSign × List UInt8 :=
  match text with
  | 43 :: rest => (.plus, rest)
  | 45 :: rest => (.minus, rest)
  | text => (.absent, text)

/-- The exponent, if there is one. -/
def exponent? (text : List UInt8) : Option (Option (ExponentSign × List Char) × List UInt8) :=
  match text with
  | [] => some (none, [])
  | b :: rest =>
    if b = 101 ∨ b = 69 then do
      let (sign, more) := exponentSign rest
      let (ds, after) ← digits? more
      pure (some (sign, ds), after)
    else some (none, b :: rest)

/-- The number at the beginning of a text, after its sign. -/
def numeral? (negative : Bool) (text : List UInt8) : Option (Numeral × List UInt8) := do
  let (whole, rest) ← whole? text
  let (fraction, rest) ← fraction? rest
  let (exponent, rest) ← exponent? rest
  pure (⟨negative, whole, fraction, exponent⟩, rest)

/-- What follows a word at the beginning of a text. -/
def afterWord? (word : String) (text : List UInt8) : Option (List UInt8) :=
  let bytes := Text.bytes word
  if bytes.isPrefixOf text then some (text.drop bytes.length) else none

/-- The token that a byte is by itself. -/
def punctuation? (b : UInt8) : Option Token :=
  if b = 91 then some .openArray
  else if b = 93 then some .closeArray
  else if b = 123 then some .openObject
  else if b = 125 then some .closeObject
  else if b = 44 then some .comma
  else if b = 58 then some .colon
  else none

/-- The word that begins with a byte, as the rest of the word and its token. -/
def word? (b : UInt8) : Option (String × Token) :=
  if b = 110 then some ("ull", .null)
  else if b = 116 then some ("rue", .bool true)
  else if b = 102 then some ("alse", .bool false)
  else none

/-- The token that begins with a byte, and what follows it. -/
def token? (first : UInt8) (rest : List UInt8) : Option (Token × List UInt8) :=
  match punctuation? first, word? first with
  | some t, _ => some (t, rest)
  | none, some (word, t) => (afterWord? word rest).map (t, ·)
  | none, none =>
    if first = 34 then (pieces? rest).map fun p => (.string (ofPieces? p.1), p.2)
    else if first = 45 then (numeral? true rest).map fun n => (.number n.1, n.2)
    else (numeral? false (first :: rest)).map fun n => (.number n.1, n.2)

/-- Skipping blanks makes no text longer. With the next lemmas the reader of tokens gets to an end:
what each part leaves over is no longer than what it was given, and shorter if the part takes a
digit at least. -/
theorem length_skipBlanks_le (text : List UInt8) : (skipBlanks text).length ≤ text.length :=
  (List.dropWhile_sublist _).length_le

/-- A string takes its pieces away. -/
theorem length_le_of_pieces? {text rest : List UInt8} {pieces : List Piece}
    (h : pieces? text = some (pieces, rest)) : rest.length ≤ text.length := by
  fun_induction pieces? text generalizing pieces rest <;>
    simp_all [Option.bind_eq_some_iff] <;> grind

/-- A run of digits takes at least one. -/
theorem length_lt_of_digits? {text rest : List UInt8} {ds : List Char}
    (h : digits? text = some (ds, rest)) : rest.length < text.length := by
  cases text with
  | nil => simp [digits?, digits] at h
  | cons b more =>
    have := (List.dropWhile_sublist (l := more) isDigit).length_le
    by_cases hb : isDigit b
    · simp only [digits?, digits, List.takeWhile_cons, List.dropWhile_cons, hb, if_true,
        List.map_cons, List.isEmpty_cons, Bool.false_eq_true, if_false, Option.some.injEq,
        Prod.mk.injEq] at h
      rw [← h.2, List.length_cons]
      omega
    · simp [digits?, digits, hb] at h

/-- The whole part of a number takes at least one digit. -/
theorem length_lt_of_whole? {text rest : List UInt8} {ds : List Char}
    (h : whole? text = some (ds, rest)) : rest.length < text.length := by
  unfold whole? at h
  split at h
  · grind
  · exact length_lt_of_digits? h

/-- The fraction may take nothing. -/
theorem length_le_of_fraction? {text rest : List UInt8} {ds : List Char}
    (h : fraction? text = some (ds, rest)) : rest.length ≤ text.length := by
  unfold fraction? at h
  split at h
  · have := length_lt_of_digits? h
    simp only [List.length_cons]
    omega
  · grind

/-- The sign of an exponent may take nothing. -/
theorem length_exponentSign_le (text : List UInt8) :
    (exponentSign text).2.length ≤ text.length := by
  unfold exponentSign
  split <;> simp

/-- The exponent may take nothing. -/
theorem length_le_of_exponent? {text rest : List UInt8} {e : Option (ExponentSign × List Char)}
    (h : exponent? text = some (e, rest)) : rest.length ≤ text.length := by
  unfold exponent? at h
  split at h
  · simp_all
  · next b more =>
    have := length_exponentSign_le more
    split at h
    · simp only [Option.bind_eq_bind, Option.bind_eq_some_iff, Prod.exists, Option.pure_def,
        Option.some.injEq, Prod.mk.injEq] at h
      obtain ⟨ds, after, hd, -, rfl⟩ := h
      have := length_lt_of_digits? hd
      simp only [List.length_cons]
      omega
    · simp_all

/-- A number takes its whole part at least. -/
theorem length_lt_of_numeral? {negative : Bool} {text rest : List UInt8} {n : Numeral}
    (h : numeral? negative text = some (n, rest)) : rest.length < text.length := by
  simp only [numeral?, Option.bind_eq_bind, Option.bind_eq_some_iff, Prod.exists, Option.pure_def,
    Option.some.injEq, Prod.mk.injEq] at h
  obtain ⟨_, _, h₁, _, _, h₂, _, _, h₃, -, rfl⟩ := h
  have := length_lt_of_whole? h₁
  have := length_le_of_fraction? h₂
  have := length_le_of_exponent? h₃
  omega

/-- A word takes its letters away. -/
theorem length_le_of_afterWord? {word : String} {text rest : List UInt8}
    (h : afterWord? word text = some rest) : rest.length ≤ text.length := by
  simp only [afterWord?, Option.ite_none_right_eq_some, Option.some.injEq] at h
  simp [← h.2]

/-- A token takes at least its first byte. -/
theorem length_le_of_token? {first : UInt8} {text rest : List UInt8} {t : Token}
    (h : token? first text = some (t, rest)) : rest.length ≤ text.length := by
  unfold token? at h
  split at h
  · grind
  · obtain ⟨more, hw, heq⟩ := Option.map_eq_some_iff.1 h
    have := length_le_of_afterWord? hw
    grind
  · split at h
    · obtain ⟨p, hp, heq⟩ := Option.map_eq_some_iff.1 h
      have := length_le_of_pieces? hp
      grind
    · split at h
      · obtain ⟨n, hn, heq⟩ := Option.map_eq_some_iff.1 h
        have := length_lt_of_numeral? hn
        grind
      · obtain ⟨n, hn, heq⟩ := Option.map_eq_some_iff.1 h
        have := length_lt_of_numeral? hn
        grind

/-- The tokens of a text, if it can be cut into tokens up to its end. -/
def tokens? (text : List UInt8) : Option (List Token) :=
  match h : skipBlanks text with
  | [] => some []
  | first :: rest =>
    match h' : token? first rest with
    | none => none
    | some (t, more) =>
      have := length_skipBlanks_le text
      have := length_le_of_token? h'
      have : rest.length < (skipBlanks text).length := by simp [h]
      (tokens? more).map (t :: ·)
termination_by text.length

end Json
end Paging
