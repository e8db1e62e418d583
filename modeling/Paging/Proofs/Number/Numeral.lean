/-
# What a numeral is worth

A numeral is judged by its value (`absolute`) and by its form (`WellFormed`): digits only, at least
one before the point and in an exponent, and no zero in front of others. Integers are written in
this form and read back as they were.
-/
import Mathlib.Data.Rat.Defs
import Paging.Number.Numeral
import Paging.Proofs.Text.Digits

namespace Paging
namespace Numeral

/-- The value of a numeral without its sign. -/
def absolute (n : Numeral) : ℚ :=
  Text.value (n.whole ++ n.fraction) * 10 ^ (n.tens - n.fraction.length)

/-- What the parts of a numeral look like. -/
structure WellFormed (n : Numeral) : Prop where
  whole_ne_nil : n.whole ≠ []
  whole : ∀ c ∈ n.whole, c.isDigit
  /-- Only zero itself begins with a zero. -/
  leading : n.whole.head? = some '0' → n.whole = ['0']
  fraction : ∀ c ∈ n.fraction, c.isDigit
  exponent : ∀ sign digits, n.exponent = some (sign, digits) →
    digits ≠ [] ∧ ∀ c ∈ digits, c.isDigit

/-- The digits of a natural number begin with a zero only if it is zero. -/
theorem natural_eq_of_head? {n : Nat} (h : (Text.natural n).head? = some '0') :
    Text.natural n = ['0'] := by
  rcases Nat.eq_zero_or_pos n with rfl | hpos
  · rfl
  · exact absurd h (Text.head?_natural_ne_zero hpos)

/-- The digits of a natural number make a numeral, with or without a sign. -/
theorem wellFormed_natural (negative : Bool) (n : Nat) :
    WellFormed ⟨negative, Text.natural n, [], none⟩ where
  whole_ne_nil := Text.natural_ne_nil n
  whole := fun _ => Text.isDigit_of_mem_natural
  leading := natural_eq_of_head?
  fraction := fun _ hc => absurd hc List.not_mem_nil
  exponent := by rintro _ _ ⟨⟩

/-- Integers have well-formed numerals. -/
theorem wellFormed_ofInt (n : Int) : (ofInt n).WellFormed := by
  cases n with
  | ofNat n => exact wellFormed_natural false n
  | negSucc n => exact wellFormed_natural true (n + 1)

/-- **An integer is read back as it was.** -/
theorem toInt?_ofInt (n : Int) : (ofInt n).toInt? = some n := by
  cases n with
  | ofNat n =>
    show some (Text.value (Text.natural n) : Int) = some (Int.ofNat n)
    rw [Text.value_natural]
    rfl
  | negSucc n =>
    show (if Text.value (Text.natural (n + 1)) = 0 then none
      else some (-(Text.value (Text.natural (n + 1)) : Int))) = some (Int.negSucc n)
    rw [Text.value_natural, if_neg n.succ_ne_zero]
    rfl

/-- An integer of 64 bits is read back from its numeral. -/
theorem toInt64?_ofInt (n : Int64) : (ofInt n.toInt).toInt64? = some n := by
  rw [toInt64?, toInt?_ofInt]
  show (if _ then _ else _) = _
  rw [if_pos ⟨n.le_toInt, n.toInt_lt⟩, Int64.ofInt_toInt]

/-- A limit is read back from its numeral. -/
theorem toUInt64?_ofInt (n : UInt64) : (ofInt n.toNat).toUInt64? = some n := by
  have hlt : n.toNat < 18446744073709551616 := n.toNat_lt
  rw [toUInt64?, toInt?_ofInt, Option.bind_some, if_pos (by omega), Int.toNat_natCast,
    UInt64.ofNat_toNat]

end Numeral
end Paging
