/-
# Ids are read back from base 32

The 26 digits of an id are those of a number of 130 bits, two more than an id has, so no id loses a
bit in them. Main statement: `ofBase32?_base32`.
-/
import Mathlib.Algebra.Order.Field.Power
import Mathlib.Tactic.Ring
import Paging.EntityId

namespace Paging
namespace EntityId

/-- The digit of a number is read as its last five bits. -/
theorem base32Value?_digit (n : Nat) :
    base32Value? (alphabet[n % 32]?.getD '0') = some (n % 32) := by
  have hdigit : ∀ d : Fin 32, base32Value? (alphabet[d.val]?.getD '0') = some d.val := by
    decide +kernel
  exact hdigit ⟨n % 32, Nat.mod_lt _ (by decide)⟩

/-- As many digits as places. -/
theorem length_base32Digits (width n : Nat) : (base32Digits width n).length = width := by
  induction width generalizing n with
  | zero => rfl
  | succ width ih => rw [base32Digits, List.length_append, ih, List.length_singleton]

/-- Reading digits takes them up from the most significant one. -/
theorem foldlM_base32Digits (width n start : Nat) :
    (base32Digits width n).foldlM (fun n c => (base32Value? c).map (n * 32 + ·)) start =
      some (start * 32 ^ width + n % 32 ^ width) := by
  induction width generalizing n with
  | zero => simp [base32Digits, Nat.mod_one]
  | succ width ih =>
    rw [base32Digits, List.foldlM_append, ih]
    simp only [Option.bind_eq_bind, Option.bind_some, List.foldlM_cons, List.foldlM_nil,
      base32Value?_digit, Option.map_some, Option.pure_def, Option.some.injEq]
    rw [Nat.pow_succ', Nat.mod_mul]
    ring

/-- **An id is read back from its base-32 digits.** -/
theorem ofBase32?_base32 (id : EntityId) : ofBase32? id.base32 = some id := by
  have hlt : id.number < 32 ^ 26 := id.number_lt.trans (by decide)
  rw [ofBase32?, base32, String.toList_ofList, if_pos (length_base32Digits 26 id.number),
    foldlM_base32Digits, Nat.zero_mul, Nat.zero_add, Nat.mod_eq_of_lt hlt, Option.map_some]
  exact congrArg some (ext_number (Nat.mod_eq_of_lt id.number_lt))

end EntityId
end Paging
