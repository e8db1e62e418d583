/-
# Numbers as bytes

A number below `256 ^ width` is the sequence of `width` bytes that are its digits in base 256, the
most significant first. Main statement: `ofBigEndian_bigEndian`, the bytes of a number in enough
places denote that number.
-/

namespace Paging

/-- The bytes of `n` in `width` places, the most significant first. Digits above the places are
dropped. -/
def bigEndian : Nat → Nat → List UInt8
  | 0, _ => []
  | width + 1, n => bigEndian width (n / 256) ++ [UInt8.ofNat n]

/-- The number whose base-256 digits are the bytes, the most significant first. -/
def ofBigEndian (bytes : List UInt8) : Nat :=
  bytes.foldl (fun n b => n * 256 + b.toNat) 0

/-- As many bytes as places. -/
@[simp] theorem length_bigEndian (width n : Nat) : (bigEndian width n).length = width := by
  induction width generalizing n with
  | zero => rfl
  | succ width ih => simp [bigEndian, ih]

/-- **The bytes of a number denote it,** up to the digits that have no place. -/
theorem ofBigEndian_bigEndian (width n : Nat) :
    ofBigEndian (bigEndian width n) = n % Nat.pow 256 width := by
  induction width generalizing n with
  | zero => simp [bigEndian, ofBigEndian, Nat.mod_one]
  | succ width ih =>
    have low : (UInt8.ofNat n).toNat = n % 256 := UInt8.toNat_ofNat'
    have power : Nat.pow 256 (width + 1) = 256 * Nat.pow 256 width := Nat.mul_comm ..
    have high : List.foldl (fun n b => n * 256 + b.toNat) 0 (bigEndian width (n / 256)) = _ :=
      ih (n / 256)
    rw [bigEndian, ofBigEndian, List.foldl_append, high, List.foldl_cons, List.foldl_nil, low,
      power, Nat.mod_mul, Nat.mul_comm, Nat.add_comm]

end Paging
