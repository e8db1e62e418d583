/-
# Base64 writes six bits at a time

What a Base64 text is can be said without groups. The bytes are a row of bits, zeros are put behind
them until sixes come out, and each six bits are a number that has its symbol (`Writes`). In terms
of numbers: the symbols are the digits in base 64 of the number whose digits in base 256 are the
bytes, times a power of two. Since digits are determined by their number, the bytes have one such
text, and it is the one that is written (`writes_iff`).
-/
import Mathlib.Data.Nat.Digits.Lemmas
import Paging.Bytes
import Paging.Proofs.Text.Base64

namespace Paging
namespace Base64

/-- The number whose digits in base 64 are the given ones, the most significant first. -/
def ofSextets (ns : List Nat) : Nat :=
  ns.foldl (fun n d => n * 64 + d) 0

/-- A text writes some bytes six bits at a time. It has the fewest symbols with room for all bits,
and the numbers of its symbols are the bits of the bytes with zeros behind them. -/
def Writes (text bytes : List UInt8) : Prop :=
  ∃ ns : List Nat, text = ns.map symbol ∧ (∀ n ∈ ns, n < 64) ∧
    ns.length = (8 * bytes.length + 5) / 6 ∧
    ofSextets ns = ofBigEndian bytes * 2 ^ (6 * ns.length - 8 * bytes.length)

/-- The symbols of a written text, taken up behind any number, are the bytes taken up behind it. -/
theorem exists_sextets (bytes : List UInt8) :
    ∃ ns : List Nat, encode bytes = ns.map symbol ∧ (∀ n ∈ ns, n < 64) ∧ ∀ start,
      ns.foldl (fun n d => n * 64 + d) start =
        bytes.foldl (fun n b => n * 256 + b.toNat) start *
          2 ^ (6 * ns.length - 8 * bytes.length) := by
  fun_induction encode bytes with
  | case1 a b c rest ih =>
    have ha := a.toNat_lt
    have hb := b.toNat_lt
    have hc := c.toNat_lt
    obtain ⟨ns, htext, hlt, hvalue⟩ := ih
    refine ⟨a.toNat / 4 :: (a.toNat % 4 * 16 + b.toNat / 16) ::
      (b.toNat % 16 * 4 + c.toNat / 64) :: c.toNat % 64 :: ns, ?_, ?_, fun start => ?_⟩
    · rw [htext]
      rfl
    · simp only [List.forall_mem_cons]
      exact ⟨by omega, by omega, by omega, by omega, hlt⟩
    · -- four symbols and three bytes are the same 24 bits
      have hbits : (((start * 64 + a.toNat / 4) * 64 + (a.toNat % 4 * 16 + b.toNat / 16)) * 64 +
          (b.toNat % 16 * 4 + c.toNat / 64)) * 64 + c.toNat % 64 =
          ((start * 256 + a.toNat) * 256 + b.toNat) * 256 + c.toNat := by omega
      have hzeros : 6 * (ns.length + 4) - 8 * (rest.length + 3) = 6 * ns.length - 8 * rest.length := by
        omega
      simp only [List.foldl_cons, List.length_cons]
      rw [hbits, hvalue, ← hzeros]
  -- two bytes in three symbols leave two bits over, and one byte in two leaves four
  | case2 a b =>
    have ha := a.toNat_lt
    have hb := b.toNat_lt
    refine ⟨[a.toNat / 4, a.toNat % 4 * 16 + b.toNat / 16, b.toNat % 16 * 4], rfl, ?_,
      fun start => ?_⟩
    · simp only [List.forall_mem_cons]
      exact ⟨by omega, by omega, by omega, fun _ hn => absurd hn List.not_mem_nil⟩
    · simp only [List.foldl_cons, List.foldl_nil, List.length_cons, List.length_nil]
      omega
  | case3 a =>
    have ha := a.toNat_lt
    refine ⟨[a.toNat / 4, a.toNat % 4 * 16], rfl, ?_, fun start => ?_⟩
    · simp only [List.forall_mem_cons]
      exact ⟨by omega, by omega, fun _ hn => absurd hn List.not_mem_nil⟩
    · simp only [List.foldl_cons, List.foldl_nil, List.length_cons, List.length_nil]
      omega
  | case4 => exact ⟨[], rfl, fun _ hn => absurd hn List.not_mem_nil, fun start => by simp⟩

/-- The encoder writes the bytes in the sense of the specification, three at a time. -/
theorem writes_encode (bytes : List UInt8) : Writes (encode bytes) bytes := by
  obtain ⟨ns, htext, hlt, hvalue⟩ := exists_sextets bytes
  have hlength : ns.length = (4 * bytes.length + 2) / 3 := by
    rw [← length_encode, htext, List.length_map]
  exact ⟨ns, htext, hlt, by omega, hvalue 0⟩

/-- As many sextets are determined by their number. -/
theorem eq_of_ofSextets_eq {ns ms : List Nat} (hlength : ns.length = ms.length)
    (hns : ∀ n ∈ ns, n < 64) (hms : ∀ n ∈ ms, n < 64) (h : ofSextets ns = ofSextets ms) :
    ns = ms := by
  have hdigits : ∀ l : List Nat, ofSextets l = Nat.ofDigits 64 l.reverse := by
    intro l
    rw [ofSextets, Nat.ofDigits_eq_foldr, List.foldr_reverse]
    congr 1
    funext n d
    rw [Nat.cast_id]
    ring
  refine List.reverse_inj.1 (Nat.ofDigits_inj_of_len_eq (by decide : 1 < 64) ?_ ?_ ?_ ?_)
  · rw [List.length_reverse, List.length_reverse, hlength]
  · exact fun n hn => hns n (List.mem_reverse.1 hn)
  · exact fun n hn => hms n (List.mem_reverse.1 hn)
  · rw [← hdigits, ← hdigits, h]

/-- **The text of some bytes is the one that is written.** -/
theorem writes_iff {text bytes : List UInt8} : Writes text bytes ↔ text = encode bytes := by
  constructor
  · rintro ⟨ns, rfl, hns, hlength, hvalue⟩
    obtain ⟨ms, htext, hms, hlength', hvalue'⟩ := writes_encode bytes
    have hsame : ns.length = ms.length := hlength.trans hlength'.symm
    rw [htext, eq_of_ofSextets_eq hsame hns hms (by rw [hvalue, hvalue', hsame])]
  · rintro rfl
    exact writes_encode bytes

end Base64
end Paging
