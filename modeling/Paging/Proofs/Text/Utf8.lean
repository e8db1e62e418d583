/-
# ASCII inside UTF-8

A character below 128 is one byte, and no byte of any other character is below 128. So a reader of
bytes meets the quotes, digits and brackets of a text exactly where the text has them.
-/
import Mathlib.Tactic.SplitIfs
import Paging.Proofs.Text.Digits
import Paging.Text.Utf8

namespace Paging
namespace Text

/-- A character of ASCII is one byte. -/
theorem utf8EncodeChar_ascii {c : Char} (h : c.toNat < 128) :
    String.utf8EncodeChar c = [UInt8.ofNat c.toNat] :=
  if_pos (Nat.le_of_lt_succ h)

/-- A byte below 128 is a whole character. -/
theorem ascii_or_of_mem_utf8EncodeChar {c : Char} {b : UInt8} (h : b ∈ String.utf8EncodeChar c) :
    c.toNat < 128 ∧ b = UInt8.ofNat c.toNat ∨ 128 ≤ b.toNat := by
  unfold String.utf8EncodeChar at h
  have hc : c.val.toNat = c.toNat := rfl
  have hhigh (n : Nat) (hn : 128 ≤ n ∧ n < 256) : 128 ≤ (UInt8.ofNat n).toNat := by
    rw [UInt8.toNat_ofNat']
    omega
  simp only at h
  split_ifs at h with h₁ h₂ h₃
  · exact .inl ⟨by omega, List.mem_singleton.1 h⟩
  all_goals
    simp only [List.mem_cons, List.not_mem_nil, or_false] at h
    right
  · rcases h with rfl | rfl <;> exact hhigh _ (by omega)
  · rcases h with rfl | rfl | rfl <;> exact hhigh _ (by omega)
  · rcases h with rfl | rfl | rfl | rfl <;> exact hhigh _ (by omega)

/-- Digits are one byte each. -/
theorem utf8_digits {ds : List Char} (h : ∀ c ∈ ds, c.isDigit) :
    utf8 ds = ds.map fun c => UInt8.ofNat c.toNat := by
  induction ds with
  | nil => rfl
  | cons c rest ih =>
    obtain ⟨hc, hrest⟩ := List.forall_mem_cons.1 h
    have hascii : c.toNat < 128 := by
      have := toNat_of_isDigit hc
      omega
    rw [utf8_cons, utf8EncodeChar_ascii hascii, ih hrest]
    rfl

/-- The character of an ASCII byte. -/
theorem ofNat_toNat_ascii {c : Char} (h : c.toNat < 128) :
    Char.ofNat (UInt8.ofNat c.toNat).toNat = c := by
  rw [UInt8.toNat_ofNat', Nat.mod_eq_of_lt (by omega)]
  exact Char.ofNat_toNat c

end Text
end Paging
