/-
# Written trees are cut into their tokens

A tree has tokens (`tokens`), and the text of a tree is cut into them, whatever follows as long as
it does not go on with the last number (`spells_render`). A string literal is cut into pieces that
stand for the text again (`pieces?_escape`), and a numeral is taken as it is written.

The writer makes characters and the reader takes bytes. Each part of a token is read back on its
own, before anything that may follow it: digits before what is no digit (`digits?_utf8`), a numeral
before what does not go on with it (`numeral?_utf8`, `Stops`), and a string literal before whatever
there is, since it ends by itself.
-/
import Paging.Json.Token
import Paging.Proofs.Number.Numeral
import Paging.Proofs.Text.Utf8

namespace Paging
namespace Json

variable {rest : List UInt8}

/-- The byte of an ASCII character. -/
def byteOf (c : Char) : UInt8 := UInt8.ofNat c.toNat

/-! ## Numbers -/

/-- A text that does not go on with a digit, a point or an exponent. -/
def Stops (rest : List UInt8) : Prop :=
  ∀ b ∈ rest.head?, isDigit b = false ∧ b ≠ 46 ∧ b ≠ 101 ∧ b ≠ 69

/-- A byte that goes on with no number stops one. -/
theorem stops_cons {b : UInt8} (h : isDigit b = false ∧ b ≠ 46 ∧ b ≠ 101 ∧ b ≠ 69) :
    Stops (b :: rest) := by
  rintro _ ⟨⟩
  exact h

/-- The byte of a digit is a digit. -/
theorem isDigit_byteOf {c : Char} (h : c.isDigit) : isDigit (byteOf c) = true := by
  obtain ⟨hlow, hhigh⟩ := Text.toNat_of_isDigit h
  have hbyte : (byteOf c).toNat = c.toNat := by
    rw [byteOf, UInt8.toNat_ofNat', Nat.mod_eq_of_lt (by omega)]
  simp only [isDigit, Bool.and_eq_true, decide_eq_true_eq, UInt8.le_iff_toNat_le, hbyte]
  exact ⟨hlow, hhigh⟩

/-- A digit is the character of its byte. -/
theorem ofNat_byteOf {c : Char} (h : c.isDigit) : Char.ofNat (byteOf c).toNat = c := by
  obtain ⟨-, hhigh⟩ := Text.toNat_of_isDigit h
  exact Text.ofNat_toNat_ascii (by omega)

/-- Digits are read up to what is no digit. -/
theorem digits_utf8 {ds : List Char} (hds : ∀ c ∈ ds, c.isDigit)
    (hrest : ∀ b ∈ rest.head?, isDigit b = false) : digits (Text.utf8 ds ++ rest) = (ds, rest) := by
  have htext : Text.utf8 ds = ds.map byteOf := Text.utf8_digits hds
  have hbytes : ∀ b ∈ ds.map byteOf, isDigit b = true :=
    List.forall_mem_map.2 fun c hc => isDigit_byteOf (hds c hc)
  have hback : (ds.map byteOf).map (fun b => Char.ofNat b.toNat) = ds := by
    rw [List.map_map]
    exact (List.map_congr_left fun c hc => ofNat_byteOf (hds c hc)).trans (List.map_id _)
  rw [digits, htext, List.takeWhile_append_of_pos hbytes, List.dropWhile_append_of_pos hbytes,
    Text.takeWhile_of_head? hrest, Text.dropWhile_of_head? hrest, List.append_nil, hback]

/-- A run of digits is read to its end, which is where another byte stands. -/
theorem digits?_utf8 {ds : List Char} (hne : ds ≠ []) (hds : ∀ c ∈ ds, c.isDigit)
    (hrest : ∀ b ∈ rest.head?, isDigit b = false) :
    digits? (Text.utf8 ds ++ rest) = some (ds, rest) := by
  have hempty : ds.isEmpty = false := by simpa using hne
  simp only [digits?, digits_utf8 hds hrest, hempty, Bool.false_eq_true, if_false]

/-- The first byte of digits. -/
theorem exists_utf8_digits {ds : List Char} (hne : ds ≠ []) (hds : ∀ c ∈ ds, c.isDigit) :
    ∃ c more, ds = c :: more ∧ Text.utf8 ds = byteOf c :: Text.utf8 more ∧ c.isDigit := by
  obtain ⟨c, more, rfl⟩ := List.exists_cons_of_ne_nil hne
  have hc := hds c List.mem_cons_self
  have hhigh := (Text.toNat_of_isDigit hc).2
  refine ⟨c, more, rfl, ?_, hc⟩
  rw [Text.utf8_cons, Text.utf8EncodeChar_ascii (by omega)]
  rfl

/-- The digits before the point are read back: a zero in front stands alone. -/
theorem whole?_utf8 {n : Numeral} (h : n.WellFormed)
    (hrest : ∀ b ∈ rest.head?, isDigit b = false) :
    whole? (Text.utf8 n.whole ++ rest) = some (n.whole, rest) := by
  obtain ⟨c, more, hcons, htext, hc⟩ := exists_utf8_digits h.whole_ne_nil h.whole
  have hread := digits?_utf8 h.whole_ne_nil h.whole hrest
  -- a reader that meets a zero does not look for further digits
  by_cases hzero : c = '0'
  · have hwhole := h.leading (by rw [hcons, hzero]; rfl)
    rw [hwhole]
    rfl
  · rw [htext, List.cons_append] at hread ⊢
    unfold whole?
    split
    · next heq =>
      refine absurd ?_ hzero
      rw [← ofNat_byteOf hc, (List.cons.inj heq).1]
      rfl
    · exact hread

/-- The digits behind the point are read back. -/
theorem fraction?_utf8 {ds : List Char} (hds : ∀ c ∈ ds, c.isDigit)
    (hrest : ∀ b ∈ rest.head?, isDigit b = false ∧ b ≠ 46) :
    fraction? (Text.utf8 (if ds.isEmpty then [] else '.' :: ds) ++ rest) = some (ds, rest) := by
  cases ds with
  | nil =>
    cases rest with
    | nil => rfl
    | cons b rest =>
      show fraction? (b :: rest) = _
      unfold fraction?
      split
      · next heq => exact absurd (List.cons.inj heq).1 (hrest b rfl).2
      · rfl
  | cons c more => exact digits?_utf8 (List.cons_ne_nil c more) hds fun b hb => (hrest b hb).1

/-- The text of an exponent. -/
def exponentText : Option (ExponentSign × List Char) → List Char
  | some (sign, ds) => 'e' :: Numeral.signText sign ++ ds
  | none => []

/-- An exponent is read back. -/
theorem exponent?_utf8 {e : Option (ExponentSign × List Char)}
    (h : ∀ sign ds, e = some (sign, ds) → ds ≠ [] ∧ ∀ c ∈ ds, c.isDigit) (hrest : Stops rest) :
    exponent? (Text.utf8 (exponentText e) ++ rest) = some (e, rest) := by
  cases e with
  | none =>
    cases rest with
    | nil => rfl
    | cons b rest =>
      -- what follows a number is neither of the letters that begin an exponent
      obtain ⟨-, -, he, hE⟩ := hrest b rfl
      show exponent? (b :: rest) = _
      rw [exponent?, if_neg (by simp [he, hE])]
  | some e =>
    obtain ⟨sign, ds⟩ := e
    obtain ⟨hne, hds⟩ := h sign ds rfl
    have hread : digits? (Text.utf8 ds ++ rest) = some (ds, rest) :=
      digits?_utf8 hne hds fun b hb => (hrest b hb).1
    -- an absent sign is told from the two others by the first digit
    have hsign : exponentSign (Text.utf8 (Numeral.signText sign ++ ds) ++ rest) =
        (sign, Text.utf8 ds ++ rest) := by
      cases sign with
      | plus => rfl
      | minus => rfl
      | absent =>
        obtain ⟨c, more, -, htext, hc⟩ := exists_utf8_digits hne hds
        have hdigit := isDigit_byteOf hc
        show exponentSign (Text.utf8 ds ++ rest) = _
        rw [htext, List.cons_append]
        generalize byteOf c = b at *
        unfold exponentSign
        split
        · next heq =>
          rw [(List.cons.inj heq).1] at hdigit
          exact absurd hdigit (by decide)
        · next heq =>
          rw [(List.cons.inj heq).1] at hdigit
          exact absurd hdigit (by decide)
        · rfl
    show exponent? (101 :: (Text.utf8 (Numeral.signText sign ++ ds) ++ rest)) = _
    rw [exponent?, if_pos (.inl rfl)]
    simp only [hsign, hread]
    rfl

/-- The text of a numeral after its sign. -/
def unsignedText (n : Numeral) : List Char :=
  n.whole ++ ((if n.fraction.isEmpty then [] else '.' :: n.fraction) ++ exponentText n.exponent)

/-- The text of a numeral is its sign, if it has one, before the text without sign. -/
theorem text_eq (n : Numeral) :
    n.text = (if n.negative then ['-'] else []) ++ unsignedText n := by
  unfold Numeral.text unsignedText exponentText
  cases n.exponent <;> simp only [List.append_assoc]

/-- **A numeral is taken as it is written.** -/
theorem numeral?_utf8 {n : Numeral} (h : n.WellFormed) (hrest : Stops rest) :
    numeral? n.negative (Text.utf8 (unsignedText n) ++ rest) = some (n, rest) := by
  have hexponent : ∀ b ∈ (Text.utf8 (exponentText n.exponent) ++ rest).head?,
      isDigit b = false ∧ b ≠ 46 := by
    cases n.exponent with
    | none => exact fun b hb => ⟨(hrest b hb).1, (hrest b hb).2.1⟩
    | some e =>
      rintro _ ⟨⟩
      decide
  have hfraction : ∀ b ∈ (Text.utf8 (if n.fraction.isEmpty then [] else '.' :: n.fraction) ++
      (Text.utf8 (exponentText n.exponent) ++ rest)).head?, isDigit b = false := by
    cases n.fraction with
    | nil => exact fun b hb => (hexponent b hb).1
    | cons c more =>
      rintro _ ⟨⟩
      decide
  rw [unsignedText, Text.utf8_append, Text.utf8_append, List.append_assoc, List.append_assoc,
    numeral?, whole?_utf8 h hfraction]
  simp only [Option.bind_eq_bind, Option.bind_some, fraction?_utf8 h.fraction hexponent,
    exponent?_utf8 h.exponent hrest]
  rfl

/-! ## Strings -/

/-- A quote ends a literal. -/
theorem pieces?_quote (rest : List UInt8) : pieces? (34 :: rest) = some ([], rest) := by
  rw [pieces?.eq_def]
  exact if_pos rfl

/-- A plain byte of a literal is a piece of its own. -/
theorem pieces?_plain {b : UInt8} (hquote : b ≠ 34) (hcontrol : ¬ b < 32) (hslash : b ≠ 92) :
    pieces? (b :: rest) = (pieces? rest).map fun p => (.byte b :: p.1, p.2) := by
  rw [pieces?.eq_def]
  simp only [if_neg hquote, if_neg hcontrol, if_neg hslash]
  cases pieces? rest <;> rfl

/-- A backslash and a letter are the byte that they stand for. -/
theorem pieces?_escaped {c b : UInt8} (hc : c ≠ 117) (h : escapedByte? c = some b) :
    pieces? (92 :: c :: rest) = (pieces? rest).map fun p => (.byte b :: p.1, p.2) := by
  have hquote : ¬ (92 : UInt8) = 34 := by decide
  have hcontrol : ¬ (92 : UInt8) < 32 := by decide
  rw [pieces?.eq_def]
  simp only [if_neg hquote, if_neg hcontrol, if_neg hc, if_true, h]
  cases pieces? rest <;> rfl

/-- Four hexadecimal digits are a unit. -/
theorem pieces?_unit {a b c d : UInt8} {u : Nat} (h : hexUnit? a b c d = some u)
    (rest : List UInt8) :
    pieces? (92 :: 117 :: a :: b :: c :: d :: rest) =
      (pieces? rest).map fun p => (.unit u :: p.1, p.2) := by
  have hquote : ¬ (92 : UInt8) = 34 := by decide
  have hcontrol : ¬ (92 : UInt8) < 32 := by decide
  rw [pieces?.eq_def]
  simp only [if_neg hquote, if_neg hcontrol, if_true, h]
  cases pieces? rest <;> rfl

/-- A plain byte of a string stands for itself. -/
theorem contents?_byte (b : UInt8) (ps : List Piece) :
    contents? (.byte b :: ps) = (contents? ps).map (b :: ·) := by
  rw [contents?.eq_def]

/-- A unit that is no surrogate stands for a character. -/
theorem contents?_unit {u : Nat} (h : u < 0xd800) (ps : List Piece) :
    contents? (.unit u :: ps) = (contents? ps).map (codePoint u ++ ·) := by
  have hhigh : isHighSurrogate u = false := by simp [isHighSurrogate]; omega
  have hlow : isLowSurrogate u = false := by simp [isLowSurrogate]; omega
  rw [contents?.eq_def]
  simp only [hhigh, hlow, Bool.false_eq_true, if_false]

/-- Some bytes of a literal are cut into these pieces, which stand for these characters, whatever
comes after them in the literal. -/
def Cut (written : List UInt8) (ps : List Piece) (text : List Char) : Prop :=
  (∀ rest, pieces? (written ++ rest) = (pieces? rest).map fun p => (ps ++ p.1, p.2)) ∧
    ∀ more, contents? (ps ++ more) = (contents? more).map (Text.utf8 text ++ ·)

/-- Strings are cut into pieces part by part. -/
theorem Cut.append {a b : List UInt8} {ps qs : List Piece} {s t : List Char} (ha : Cut a ps s)
    (hb : Cut b qs t) : Cut (a ++ b) (ps ++ qs) (s ++ t) := by
  constructor
  · intro rest
    rw [List.append_assoc, ha.1, hb.1, Option.map_map]
    simp only [Function.comp_def, List.append_assoc]
  · intro more
    rw [List.append_assoc, ha.2, hb.2, Option.map_map]
    simp only [Function.comp_def, Text.utf8_append, List.append_assoc]

/-- A letter after a backslash is cut as the character that it stands for. -/
theorem cut_escaped (c : Char) (letter : UInt8) (hletter : letter ≠ 117) (hc : c.toNat < 128)
    (h : escapedByte? letter = some (byteOf c)) : Cut [92, letter] [.byte (byteOf c)] [c] := by
  constructor
  · intro rest
    exact pieces?_escaped hletter h
  · intro more
    rw [List.singleton_append, contents?_byte, Text.utf8_cons, Text.utf8EncodeChar_ascii hc]
    rfl

/-- A hexadecimal digit is read as its value. -/
theorem hexValue?_hexDigit {n : Nat} (h : n < 16) : hexValue? (byteOf (hexDigit n)) = some n := by
  have hdigit : ∀ d : Fin 16, hexValue? (byteOf (hexDigit d.val)) = some d.val := by decide +kernel
  exact hdigit ⟨n, h⟩

/-- A control character is cut as a unit. -/
theorem cut_control {c : Char} (h : c.toNat < 32) :
    Cut [92, 117, 48, 48, byteOf (hexDigit (c.toNat / 16)), byteOf (hexDigit (c.toNat % 16))]
      [.unit c.toNat] [c] := by
  have hzero : hexValue? 48 = some 0 := by decide
  have hunit : hexUnit? 48 48 (byteOf (hexDigit (c.toNat / 16)))
      (byteOf (hexDigit (c.toNat % 16))) = some c.toNat := by
    rw [hexUnit?, hzero, hexValue?_hexDigit (by omega), hexValue?_hexDigit (by omega)]
    show some (((0 * 16 + 0) * 16 + c.toNat / 16) * 16 + c.toNat % 16) = some c.toNat
    congr 1
    omega
  constructor
  · intro rest
    exact pieces?_unit hunit rest
  · intro more
    rw [List.singleton_append, contents?_unit (by omega), codePoint, Char.ofNat_toNat]
    rw [Text.utf8_cons, Text.utf8_nil, List.append_nil]

/-- Bytes without an escape are pieces of their own. -/
theorem cut_plain {bs : List UInt8} {text : List Char}
    (h : ∀ b ∈ bs, b ≠ 34 ∧ ¬ b < 32 ∧ b ≠ 92) (htext : Text.utf8 text = bs) :
    Cut bs (bs.map .byte) text := by
  constructor
  · intro rest
    clear htext
    induction bs with
    | nil => simp
    | cons b more ih =>
      obtain ⟨⟨hquote, hcontrol, hslash⟩, hmore⟩ := List.forall_mem_cons.1 h
      rw [List.cons_append, pieces?_plain hquote hcontrol hslash, ih hmore, Option.map_map]
      rfl
  · intro more
    rw [htext]
    clear h htext
    induction bs with
    | nil => simp
    | cons b rest ih =>
      rw [List.map_cons, List.cons_append, contents?_byte, ih, Option.map_map]
      rfl

/-- Hexadecimal digits are ASCII. -/
theorem hexDigit_lt {n : Nat} (h : n < 16) : (hexDigit n).toNat < 128 := by
  have hdigit : ∀ d : Fin 16, (hexDigit d.val).toNat < 128 := by decide +kernel
  exact hdigit ⟨n, h⟩

/-- A character that needs no escape has only plain bytes. A byte of it is the character itself, or
it is beyond all that are asked about. -/
theorem plain_of_mem_utf8EncodeChar {c : Char} (hquote : c ≠ '"') (hslash : c ≠ '\\')
    (hcontrol : ¬ c.toNat < 32) {b : UInt8} (hb : b ∈ String.utf8EncodeChar c) :
    b ≠ 34 ∧ ¬ b < 32 ∧ b ≠ 92 := by
  rcases Text.ascii_or_of_mem_utf8EncodeChar hb with ⟨hc, rfl⟩ | hhigh
  · have hbyte : (UInt8.ofNat c.toNat).toNat = c.toNat := by
      rw [UInt8.toNat_ofNat', Nat.mod_eq_of_lt (by omega)]
    have hback := Text.ofNat_toNat_ascii hc
    refine ⟨fun heq => hquote ?_, ?_, fun heq => hslash ?_⟩
    · rw [← hback, heq]
      rfl
    · rw [UInt8.lt_iff_toNat_lt, hbyte]
      exact hcontrol
    · rw [← hback, heq]
      rfl
  · refine ⟨?_, ?_, ?_⟩
    · rintro rfl
      exact absurd hhigh (by decide)
    · intro hlt
      have hlt' : b.toNat < 32 := UInt8.lt_iff_toNat_lt.1 hlt
      omega
    · rintro rfl
      exact absurd hhigh (by decide)

/-- **A character is cut as pieces that stand for it**, however it is written. Seven characters have
an escape of two symbols, the other control characters one of six, and all others stand for
themselves. -/
theorem exists_cut_escape (c : Char) : ∃ ps, Cut (Text.utf8 (escape c)) ps [c] := by
  unfold escape
  split_ifs with hquote hslash hb hf hn hr ht hcontrol
  · exact ⟨_, hquote ▸ cut_escaped '"' 34 (by decide) (by decide) rfl⟩
  · exact ⟨_, hslash ▸ cut_escaped '\\' 92 (by decide) (by decide) rfl⟩
  · exact ⟨_, hb ▸ cut_escaped '\x08' 98 (by decide) (by decide) rfl⟩
  · exact ⟨_, hf ▸ cut_escaped '\x0c' 102 (by decide) (by decide) rfl⟩
  · exact ⟨_, hn ▸ cut_escaped '\n' 110 (by decide) (by decide) rfl⟩
  · exact ⟨_, hr ▸ cut_escaped '\r' 114 (by decide) (by decide) rfl⟩
  · exact ⟨_, ht ▸ cut_escaped '\t' 116 (by decide) (by decide) rfl⟩
  · have htext : Text.utf8 ['\\', 'u', '0', '0', hexDigit (c.toNat / 16), hexDigit (c.toNat % 16)] =
        [92, 117, 48, 48, byteOf (hexDigit (c.toNat / 16)), byteOf (hexDigit (c.toNat % 16))] := by
      have hhigh := hexDigit_lt (n := c.toNat / 16) (by omega)
      have hlow := hexDigit_lt (n := c.toNat % 16) (by omega)
      show [92, 117, 48, 48] ++ (String.utf8EncodeChar _ ++ (String.utf8EncodeChar _ ++ [])) = _
      rw [Text.utf8EncodeChar_ascii hhigh, Text.utf8EncodeChar_ascii hlow]
      rfl
    rw [htext]
    exact ⟨_, cut_control hcontrol⟩
  · refine ⟨_, cut_plain (fun b hb => ?_) rfl⟩
    rw [Text.utf8_cons, Text.utf8_nil, List.append_nil] at hb
    exact plain_of_mem_utf8EncodeChar hquote hslash hcontrol hb

/-- **An escaped text is cut into pieces that stand for it**, character by character. -/
theorem exists_cut_text (text : List Char) :
    ∃ ps, Cut (Text.utf8 (text.flatMap escape)) ps text := by
  induction text with
  | nil => exact ⟨[], fun rest => by simp, fun more => by simp⟩
  | cons c text ih =>
    obtain ⟨ps, hc⟩ := exists_cut_escape c
    obtain ⟨qs, htext⟩ := ih
    rw [List.flatMap_cons, Text.utf8_append]
    exact ⟨ps ++ qs, hc.append htext⟩

end Json
end Paging
