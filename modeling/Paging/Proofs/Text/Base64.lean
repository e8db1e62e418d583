/-
# Base64 is strict

A text decodes to some bytes exactly when it is what they are written as
(`Base64.decode_eq_ok_iff`): reading undoes writing, and of all texts only the written one is read
as these bytes. So no symbol can be exchanged, appended or dropped without changing what is read.
Groups of three bytes and of four sextets stand for each other; the last group, which may be
shorter, is where padding and unused bits are refused.

That reading undoes writing is followed along the writer, three bytes at a time
(`decodeFrom_encode`, `decodeLast_encode`), and the other direction along the reader, four symbols
at a time (`decodeFrom_ok`, `decodeLast_ok`). A shorter last group has two or four bits more than
its bytes. The reader wants them to be zero, which makes the group the one that the writer makes.
-/
import Mathlib.Tactic.SplitIfs
import Paging.Proofs.Outcome
import Paging.Text.Base64

namespace Paging
namespace Base64

variable {offset place n : Nat}

/-- A byte is read as a sextet when it is the symbol of the sextet. -/
theorem sextetAt_eq_ok {b : UInt8} : sextetAt offset b = .ok n ↔ b = symbol n ∧ n < 64 := by
  unfold sextetAt
  constructor
  · intro h
    cases hb : sextet? b with
    | none => simp only [hb, reduceCtorEq] at h
    | some m =>
      simp only [hb, Except.ok.injEq] at h
      obtain rfl := h
      obtain ⟨hsymbol, hlt⟩ := symbol_of_sextet? hb
      exact ⟨hsymbol.symm, hlt⟩
  · rintro ⟨rfl, hlt⟩
    rw [sextet?_symbol hlt]

/-- A symbol is read back as the number that it was written for. -/
theorem sextetAt_symbol (h : n < 64) : sextetAt offset (symbol n) = .ok n :=
  sextetAt_eq_ok.2 ⟨rfl, h⟩

/-- No number is written as a byte that is outside the alphabet. -/
theorem symbol_ne {b : UInt8} (hb : sextet? b = none) (h : n < 64) : symbol n ≠ b := by
  rintro rfl
  rw [sextet?_symbol h] at hb
  cases hb

/-- In particular, no number is written as padding. -/
theorem symbol_ne_padding (h : n < 64) : symbol n ≠ padding :=
  symbol_ne (by decide) h

/-- The symbols of sextets, without padding, are read as these sextets. -/
theorem lastSymbols_map_symbol (ns : List Nat) (h : ∀ n ∈ ns, n < 64) :
    lastSymbols offset place (ns.map symbol) = .ok (ns, false) := by
  induction ns generalizing place with
  | nil => rfl
  | cons n rest ih =>
    rw [List.forall_mem_cons] at h
    rw [List.map_cons, lastSymbols, if_neg (symbol_ne_padding h.1), sextetAt_symbol h.1,
      ih h.2]
    rfl

/-- What is read as sextets, without padding, are their symbols; padding takes a place. The
induction is on the symbols of the group, up to padding if there is any. -/
theorem lastSymbols_ok {group : List UInt8} {ns : List Nat} {padded : Bool}
    (h : lastSymbols offset place group = .ok (ns, padded)) :
    (padded = false → group = ns.map symbol ∧ ∀ n ∈ ns, n < 64) ∧
      (padded = true → ns.length < group.length) := by
  induction group generalizing place ns padded with
  | nil =>
    obtain ⟨rfl, rfl⟩ := Prod.mk.inj (Except.ok.inj h)
    exact ⟨fun _ => ⟨rfl, fun _ hn => absurd hn List.not_mem_nil⟩,
      fun hp => absurd hp (by decide)⟩
  | cons b rest ih =>
    rw [lastSymbols] at h
    split_ifs at h
    · obtain ⟨rfl, rfl⟩ := Prod.mk.inj (Except.ok.inj h)
      exact ⟨fun hp => absurd hp (by decide), fun _ => Nat.succ_pos _⟩
    · obtain ⟨n, hn, h⟩ := bind_eq_ok.1 h
      obtain ⟨⟨more, padded'⟩, hmore, h⟩ := bind_eq_ok.1 h
      obtain ⟨rfl, rfl⟩ := Prod.mk.inj (Except.ok.inj h)
      obtain ⟨rfl, hlt⟩ := sextetAt_eq_ok.1 hn
      obtain ⟨hclear, hpadded⟩ := ih hmore
      refine ⟨fun hp => ?_, fun hp => Nat.succ_lt_succ (hpadded hp)⟩
      obtain ⟨rfl, hall⟩ := hclear hp
      exact ⟨rfl, List.forall_mem_cons.2 ⟨hlt, hall⟩⟩

/-- The bytes of a group of sextets give their bits back. -/
theorem ofNat_eq {b : UInt8} {m : Nat} (h : m = b.toNat) : UInt8.ofNat m = b := by
  rw [h, UInt8.ofNat_toNat]

/-- Small numbers survive as bytes. -/
theorem toNat_ofNat {m : Nat} (h : m < 256) : (UInt8.ofNat m).toNat = m :=
  UInt8.toNat_ofNat'.trans (Nat.mod_eq_of_lt h)

/-- The last group of a written text is read as its bytes. None to three bytes make none, two, three
or four symbols. -/
theorem decodeLast_encode (bytes : List UInt8) (h : bytes.length ≤ 3) :
    decodeLast offset (encode bytes) = .ok bytes := by
  match bytes, h with
  | [], _ => rfl
  | [a], _ =>
    have ha := a.toNat_lt
    refine bind_eq_ok.2 ⟨([a.toNat / 4, a.toNat % 4 * 16], false),
      lastSymbols_map_symbol [_, _] (by simp; omega), ?_⟩
    simp only [Bool.false_eq_true, if_false]
    rw [if_neg (by omega), ofNat_eq (b := a) (by omega)]
    rfl
  | [a, b], _ =>
    have ha := a.toNat_lt
    have hb := b.toNat_lt
    refine bind_eq_ok.2 ⟨([a.toNat / 4, a.toNat % 4 * 16 + b.toNat / 16, b.toNat % 16 * 4], false),
      lastSymbols_map_symbol [_, _, _] (by simp; omega), ?_⟩
    simp only [Bool.false_eq_true, if_false]
    rw [if_neg (by omega), ofNat_eq (b := a) (by omega), ofNat_eq (b := b) (by omega)]
    rfl
  | [a, b, c], _ =>
    have ha := a.toNat_lt
    have hb := b.toNat_lt
    have hc := c.toNat_lt
    refine bind_eq_ok.2 ⟨([a.toNat / 4, a.toNat % 4 * 16 + b.toNat / 16,
      b.toNat % 16 * 4 + c.toNat / 64, c.toNat % 64], false),
      lastSymbols_map_symbol [_, _, _, _] (by simp; omega), ?_⟩
    simp only
    rw [ofNat_eq (b := a) (by omega), ofNat_eq (b := b) (by omega), ofNat_eq (b := c) (by omega)]
    rfl

/-- Three bytes put together from four sextets are written as the symbols of the sextets. -/
theorem encode_group {a b c d : Nat} (ha : a < 64) (hb : b < 64) (hc : c < 64) (hd : d < 64)
    (rest : List UInt8) :
    encode (UInt8.ofNat (a * 4 + b / 16) :: UInt8.ofNat (b % 16 * 16 + c / 4)
        :: UInt8.ofNat (c % 4 * 64 + d) :: rest) =
      symbol a :: symbol b :: symbol c :: symbol d :: encode rest := by
  have h₁ : (a * 4 + b / 16) / 4 = a := by omega
  have h₂ : (a * 4 + b / 16) % 4 * 16 + (b % 16 * 16 + c / 4) / 16 = b := by omega
  have h₃ : (b % 16 * 16 + c / 4) % 16 * 4 + (c % 4 * 64 + d) / 64 = c := by omega
  have h₄ : (c % 4 * 64 + d) % 64 = d := by omega
  simp only [encode, toNat_ofNat (by omega : a * 4 + b / 16 < 256),
    toNat_ofNat (by omega : b % 16 * 16 + c / 4 < 256),
    toNat_ofNat (by omega : c % 4 * 64 + d < 256), h₁, h₂, h₃, h₄]

/-- What a last group is read as is written as this group. -/
theorem decodeLast_ok {group bytes : List UInt8} (hlength : group.length ≤ 4)
    (h : decodeLast offset group = .ok bytes) : group = encode bytes := by
  obtain ⟨⟨ns, padded⟩, hread, h⟩ := bind_eq_ok.1 h
  obtain ⟨hclear, hpadded⟩ := lastSymbols_ok hread
  cases padded with
  | true =>
    -- padding takes a place, so there are at most three sextets before it, and all are refused
    have hshort := hpadded rfl
    rcases ns with _ | ⟨a, _ | ⟨b, _ | ⟨c, _ | ⟨d, rest⟩⟩⟩⟩
    · simp only at h
      split_ifs at h with hempty
      rw [List.isEmpty_iff.1 hempty] at hshort
      exact absurd hshort (Nat.lt_irrefl 0)
    · cases h
    · cases h
    · cases h
    · simp only [List.length_cons] at hshort
      omega
  -- without padding there are two, three or four sextets; the bits that a shorter group leaves over
  -- were checked to be zero, so that the bytes give the sextets back
  | false =>
    obtain ⟨rfl, hlt⟩ := hclear rfl
    rcases ns with _ | ⟨a, _ | ⟨b, _ | ⟨c, _ | ⟨d, rest⟩⟩⟩⟩
    · obtain rfl := Except.ok.inj h
      rfl
    · cases h
    · simp only [Bool.false_eq_true, if_false] at h
      split_ifs at h with hrest
      obtain rfl := Except.ok.inj h
      simp only [List.forall_mem_cons] at hlt
      have hhigh : (a * 4 + b / 16) / 4 = a := by omega
      have hlow : (a * 4 + b / 16) % 4 * 16 = b := by omega
      simp only [encode, toNat_ofNat (by omega : a * 4 + b / 16 < 256), hhigh, hlow, List.map_cons,
        List.map_nil]
    · simp only [Bool.false_eq_true, if_false] at h
      split_ifs at h with hrest
      obtain rfl := Except.ok.inj h
      simp only [List.forall_mem_cons] at hlt
      have hhigh : (a * 4 + b / 16) / 4 = a := by omega
      have hmiddle : (a * 4 + b / 16) % 4 * 16 + (b % 16 * 16 + c / 4) / 16 = b := by omega
      have hlow : (b % 16 * 16 + c / 4) % 16 * 4 = c := by omega
      simp only [encode, toNat_ofNat (by omega : a * 4 + b / 16 < 256),
        toNat_ofNat (by omega : b % 16 * 16 + c / 4 < 256), hhigh, hmiddle, hlow, List.map_cons,
        List.map_nil]
    · obtain rfl := Except.ok.inj h
      obtain rfl : rest = [] := by
        simp only [List.length_map, List.length_cons] at hlength
        exact List.length_eq_zero_iff.1 (by omega)
      simp only [List.forall_mem_cons] at hlt
      exact (encode_group hlt.1 hlt.2.1 hlt.2.2.1 hlt.2.2.2.1 []).symm

/-- The encoding of at least one byte has at least one symbol. -/
theorem exists_encode_cons (b : UInt8) (bytes : List UInt8) :
    ∃ first more, encode (b :: bytes) = first :: more := by
  match bytes with
  | [] => exact ⟨_, _, rfl⟩
  | [_] => exact ⟨_, _, rfl⟩
  | _ :: _ :: _ => exact ⟨_, _, rfl⟩

/-- Reading undoes writing, wherever the groups begin. -/
theorem decodeFrom_encode (bytes : List UInt8) (offset : Nat) :
    decodeFrom offset (encode bytes) = .ok bytes := by
  fun_induction encode bytes generalizing offset with
  | case1 a b c rest ih =>
    cases rest with
    | nil => exact decodeLast_encode [a, b, c] (by simp)
    | cons x xs =>
      have ha := a.toNat_lt
      have hb := b.toNat_lt
      have hc := c.toNat_lt
      obtain ⟨first, more, hmore⟩ := exists_encode_cons x xs
      rw [hmore] at ih ⊢
      refine bind_eq_ok.2 ⟨_, sextetAt_symbol (by omega),
        bind_eq_ok.2 ⟨_, sextetAt_symbol (by omega), bind_eq_ok.2 ⟨_, sextetAt_symbol (by omega),
        bind_eq_ok.2 ⟨_, sextetAt_symbol (by omega), bind_eq_ok.2 ⟨_, ih (offset + 4), ?_⟩⟩⟩⟩⟩
      rw [ofNat_eq (b := a) (by omega), ofNat_eq (b := b) (by omega), ofNat_eq (b := c) (by omega)]
      rfl
  | case2 a b => exact decodeLast_encode [a, b] (by simp)
  | case3 a => exact decodeLast_encode [a] (by simp)
  | case4 => rfl

/-- Three bytes take four symbols, and each byte left over one more than it has. -/
theorem length_encode (bytes : List UInt8) :
    (encode bytes).length = (4 * bytes.length + 2) / 3 := by
  fun_induction encode bytes with
  | case1 a b c rest ih =>
    simp only [List.length_cons, ih]
    omega
  | case2 a b => simp only [List.length_cons, List.length_nil]
  | case3 a => simp only [List.length_cons, List.length_nil]
  | case4 => rfl

/-- Only the written text is read as some bytes. -/
theorem decodeFrom_ok {text bytes : List UInt8} (h : decodeFrom offset text = .ok bytes) :
    text = encode bytes := by
  fun_induction decodeFrom offset text generalizing bytes with
  | case1 offset a b c d e rest ih =>
    obtain ⟨na, ha, h⟩ := bind_eq_ok.1 h
    obtain ⟨nb, hb, h⟩ := bind_eq_ok.1 h
    obtain ⟨nc, hc, h⟩ := bind_eq_ok.1 h
    obtain ⟨nd, hd, h⟩ := bind_eq_ok.1 h
    obtain ⟨more, hmore, h⟩ := bind_eq_ok.1 h
    obtain rfl := Except.ok.inj h
    obtain ⟨rfl, hna⟩ := sextetAt_eq_ok.1 ha
    obtain ⟨rfl, hnb⟩ := sextetAt_eq_ok.1 hb
    obtain ⟨rfl, hnc⟩ := sextetAt_eq_ok.1 hc
    obtain ⟨rfl, hnd⟩ := sextetAt_eq_ok.1 hd
    rw [encode_group hna hnb hnc hnd, ih hmore]
  | case2 offset group hgroup =>
    refine decodeLast_ok (Nat.not_lt.1 fun hlong => ?_) h
    match group, hlong with
    | a :: b :: c :: d :: e :: rest, _ => exact hgroup a b c d e rest rfl

/-- A written text consists of symbols. The bytes are taken three at a time, and then the two or one
that are left. -/
theorem exists_symbol_of_mem_encode {bytes : List UInt8} {b : UInt8} (h : b ∈ encode bytes) :
    ∃ n < 64, b = symbol n := by
  fun_induction encode bytes with
  | case1 x y z rest ih =>
    have hx := x.toNat_lt
    have hy := y.toNat_lt
    have hz := z.toNat_lt
    simp only [List.mem_cons] at h
    rcases h with rfl | rfl | rfl | rfl | h
    · exact ⟨_, by omega, rfl⟩
    · exact ⟨_, by omega, rfl⟩
    · exact ⟨_, by omega, rfl⟩
    · exact ⟨_, by omega, rfl⟩
    · exact ih h
  | case2 x y =>
    have hx := x.toNat_lt
    have hy := y.toNat_lt
    simp only [List.mem_cons, List.not_mem_nil, or_false] at h
    rcases h with rfl | rfl | rfl
    · exact ⟨_, by omega, rfl⟩
    · exact ⟨_, by omega, rfl⟩
    · exact ⟨_, by omega, rfl⟩
  | case3 x =>
    have hx := x.toNat_lt
    simp only [List.mem_cons, List.not_mem_nil, or_false] at h
    rcases h with rfl | rfl
    · exact ⟨_, by omega, rfl⟩
    · exact ⟨_, by omega, rfl⟩
  | case4 => exact absurd h List.not_mem_nil

/-- So a byte that is no symbol is not in it. -/
theorem not_mem_encode {b : UInt8} (hb : sextet? b = none) (bytes : List UInt8) :
    b ∉ encode bytes := by
  intro h
  obtain ⟨n, hn, rfl⟩ := exists_symbol_of_mem_encode h
  exact symbol_ne hb hn rfl

/-- **Base64 is strict**: the only text that is read as some bytes is the one they are written
as. -/
theorem decode_eq_ok_iff {text bytes : List UInt8} :
    decode text = .ok bytes ↔ text = encode bytes := by
  -- a text that ends outside the alphabet may be refused before it is read, but no encoding ends so
  unfold decode
  constructor
  · intro h
    cases hlast : text.getLast? with
    | none =>
      obtain rfl := List.getLast?_eq_none_iff.1 hlast
      obtain rfl := Except.ok.inj h
      rfl
    | some last =>
      simp only [hlast] at h
      split_ifs at h
      exact decodeFrom_ok h
  · rintro rfl
    cases hlast : (encode bytes).getLast? with
    | none =>
      have hread := decodeFrom_encode bytes 0
      rw [List.getLast?_eq_none_iff.1 hlast] at hread
      exact hread
    | some last =>
      obtain ⟨n, hn, rfl⟩ := exists_symbol_of_mem_encode (List.mem_of_getLast? hlast)
      simp only [sextet?_symbol hn, reduceCtorEq, and_false, if_false]
      exact decodeFrom_encode bytes 0

/-- Reading undoes writing. -/
theorem decode_encode (bytes : List UInt8) : decode (encode bytes) = .ok bytes :=
  decode_eq_ok_iff.2 rfl

/-- **No two lists of bytes have one encoding**, since decoding gives the bytes back. -/
theorem encode_injective : Function.Injective encode := fun a b h => by
  have hread := decode_encode a
  rw [h, decode_encode] at hread
  exact (Except.ok.inj hread).symm

end Base64
end Paging
