/-
# Runs of digits

What a run of decimal digits is worth, part by part, and what the digits of a number look like:
only digits, no zero in front, and as many as the number is large.
-/
import Mathlib.Algebra.Order.Field.Power
import Mathlib.Tactic.Ring
import Paging.Text.Digits

namespace Paging
namespace Text

/-- What does not begin with an item of a run has no run in front. -/
theorem takeWhile_of_head? {α : Type} {p : α → Bool} {l : List α}
    (h : ∀ a ∈ l.head?, p a = false) : l.takeWhile p = [] := by
  cases l with
  | nil => rfl
  | cons a rest => exact List.takeWhile_cons_of_neg (by simp [h a rfl])

/-- Nothing is dropped from a list whose head is to stay. -/
theorem dropWhile_of_head? {α : Type} {p : α → Bool} {l : List α}
    (h : ∀ a ∈ l.head?, p a = false) : l.dropWhile p = l := by
  cases l with
  | nil => rfl
  | cons a rest => exact List.dropWhile_cons_of_neg (by simp [h a rfl])

/-- The ten digits are neighbours among the code points. -/
theorem toNat_of_isDigit {c : Char} (h : c.isDigit) : 48 ≤ c.toNat ∧ c.toNat ≤ 57 :=
  Char.isDigit_iff_toNat.1 h

/-- Digits behind others shift these by one place for each of them. -/
theorem value_append (a b : List Char) : value (a ++ b) = value a * 10 ^ b.length + value b := by
  unfold value
  rw [Nat.ofDigitChars_append, Nat.ofDigitChars_eq_ofDigitChars_zero]
  ring

/-- Zeros in front are worth nothing. -/
theorem value_zeros_append (k : Nat) (ds : List Char) :
    value (List.replicate k '0' ++ ds) = value ds := by
  unfold value
  rw [Nat.ofDigitChars_append, Nat.ofDigitChars_replicate_zero, Nat.mul_zero]

/-- Zeros at the end are worth a power of ten. -/
theorem value_append_zeros (ds : List Char) (k : Nat) :
    value (ds ++ List.replicate k '0') = value ds * 10 ^ k := by
  have hzeros : value (List.replicate k '0') = 0 :=
    Nat.ofDigitChars_replicate_zero.trans (Nat.mul_zero _)
  rw [value_append, hzeros, List.length_replicate, Nat.add_zero]

/-- Every natural number has a digit. -/
theorem natural_ne_nil (n : Nat) : natural n ≠ [] := Nat.toDigits_ne_nil

/-- A natural number is written with digits alone. -/
theorem isDigit_of_mem_natural {n : Nat} {c : Char} (h : c ∈ natural n) : c.isDigit :=
  Nat.isDigit_of_mem_toDigits (by decide) (by decide) h

/-- A positive number does not begin with a zero. -/
theorem head?_natural_ne_zero {n : Nat} (h : 0 < n) : (natural n).head? ≠ some '0' := by
  induction n using Nat.strongRecOn with
  | ind n ih =>
    unfold natural at ih ⊢
    rcases Nat.lt_or_ge n 10 with hlt | hge
    · rw [Nat.toDigits_of_lt_base hlt]
      have hdigit : ∀ m : Fin 10, 0 < m.val → Nat.digitChar m.val ≠ '0' := by decide
      simpa using hdigit ⟨n, hlt⟩ h
    · have hhead := ih (n / 10) (by omega) (by omega)
      obtain ⟨c, rest, hcons⟩ : ∃ c rest, Nat.toDigits 10 (n / 10) = c :: rest :=
        List.exists_cons_of_ne_nil Nat.toDigits_ne_nil
      rw [hcons] at hhead
      rw [Nat.toDigits_of_base_le (by decide) hge, hcons]
      exact hhead

/-- A number has as many digits as powers of ten are at most as large. -/
theorem length_natural_le_iff {n k : Nat} (h : 0 < k) :
    (natural n).length ≤ k ↔ n < 10 ^ k :=
  Nat.length_toDigits_le_iff (by decide) h

/-- A positive number lies between the powers of ten that have as many digits as it and one more. -/
theorem powTen_bounds {n k : Nat} (hn : 0 < n) (h : (natural n).length = k + 1) :
    10 ^ k ≤ n ∧ n < 10 ^ (k + 1) := by
  refine ⟨?_, (length_natural_le_iff k.succ_pos).1 h.le⟩
  rcases Nat.eq_zero_or_pos k with rfl | hk
  · exact hn
  · exact Nat.not_lt.1 fun hlt => absurd ((length_natural_le_iff hk).2 hlt) (by omega)

/-- So is a padded one, since the padding is made of zeros. -/
theorem isDigit_of_mem_padded {width n : Nat} {c : Char} (h : c ∈ padded width n) : c.isDigit := by
  rcases List.mem_append.1 h with h | h
  · rw [List.eq_of_mem_replicate h]
    decide
  · exact isDigit_of_mem_natural h

/-- A number that fits its field fills it. -/
theorem length_padded {width n : Nat} (hwidth : 0 < width) (h : n < 10 ^ width) :
    (padded width n).length = width := by
  have hle := (length_natural_le_iff hwidth).2 h
  rw [padded, List.length_append, List.length_replicate]
  omega

/-- A padded number has a digit as well. -/
theorem padded_ne_nil (width n : Nat) : padded width n ≠ [] := by
  unfold padded
  simp [natural_ne_nil]

end Text
end Paging
