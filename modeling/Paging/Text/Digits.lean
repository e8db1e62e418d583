/-
# Decimal digits

Numbers appear in texts of four kinds: plain integers (`natural`, `signed`), fields of a fixed
least width in dates and fractions (`padded`), and base-32 or hexadecimal groups elsewhere. This
module holds the decimal ones and the value of a run of digits. Main statement: `value_natural`,
the value of the digits of a number is the number.
-/

namespace Paging
namespace Text

/-- The decimal digits of a natural number, `0` for zero. -/
def natural (n : Nat) : List Char :=
  Nat.toDigits 10 n

/-- The decimal digits of `n`, with zeros in front up to `width` digits. -/
def padded (width n : Nat) : List Char :=
  List.replicate (width - (natural n).length) '0' ++ natural n

/-- An integer in decimal, with `-` in front of a negative one. -/
def signed : Int → List Char
  | .ofNat n => natural n
  | .negSucc n => '-' :: natural (n + 1)

/-- The number that a run of decimal digits denotes, `0` for the empty run. -/
def value (digits : List Char) : Nat :=
  Nat.ofDigitChars 10 digits 0

/-- A natural number is read back from its digits. -/
@[simp] theorem value_natural (n : Nat) : value (natural n) = n := by
  simp [value, natural, Nat.ofDigitChars_toDigits]

/-- Zeros in front do not change the number. -/
@[simp] theorem value_padded (width n : Nat) : value (padded width n) = n := by
  have zeros : ∀ (k : Nat) (ds : List Char), value (List.replicate k '0' ++ ds) = value ds := by
    intro k
    induction k with
    | zero => simp
    | succ k ih => intro ds; simpa [List.replicate_succ, value, Nat.ofDigitChars] using ih ds
  rw [padded, zeros, value_natural]

end Text
end Paging
