/-
# Floating-point numbers of 64 bits

A binary64 is a sign bit and a magnitude of 63 bits. The magnitudes up to `infinity` stand for
`significand · 2 ^ exponent`, in ascending order; those above stand for no number. All that the
library needs of such a number is exact arithmetic on these parts, so the type is the bit pattern
and no machine operation is used.

* `compare` orders numbers by value, with both zeros equal, and puts patterns that are no number
  beyond the infinity of their sign.
* `compareInt` orders an integer of 64 bits against a number by exact value, without rounding the
  integer.
* `ofDecimal?` is the number nearest to a decimal, halves going to the even neighbour.
-/

namespace Paging

/-- A 64-bit floating-point number, as its bit pattern. -/
structure Binary64 where
  bits : UInt64
  deriving DecidableEq, Repr

namespace Binary64

/-- What the sign bit counts for in a bit pattern, `2 ^ 63`. -/
def signBit : Nat := 0x8000000000000000

/-- What the first bit of a significand counts for, `2 ^ 52`. It is not written in the pattern. -/
def leadingBit : Nat := 0x10000000000000

/-- The bits below the sign, read as a number. Its order is the order of absolute values. -/
def magnitude (x : Binary64) : Nat := x.bits.toNat % signBit

/-- Whether the sign bit is set; it is for negative zero too. -/
def isNegative (x : Binary64) : Bool := decide (signBit ≤ x.bits.toNat)

/-- The magnitude of the infinities: all exponent bits set. -/
def infinity : Nat := 0x7ff0000000000000

/-- The patterns that stand for no number. -/
def isNaN (x : Binary64) : Bool := decide (infinity < x.magnitude)

/-- The patterns that stand for a real number. -/
def isFinite (x : Binary64) : Bool := decide (x.magnitude < infinity)

/-- The number with the given sign and magnitude. -/
def ofMagnitude (negative : Bool) (magnitude : Nat) : Binary64 :=
  ⟨UInt64.ofNat (magnitude + if negative then signBit else 0)⟩

/-- The integer `s` such that a finite number is `± s · 2 ^ exponent`. -/
def significand (x : Binary64) : Nat :=
  if x.magnitude < leadingBit then x.magnitude else leadingBit + x.magnitude % leadingBit

/-- The power of two in whose multiples a finite number is counted, never below `-1074`. -/
def exponent (x : Binary64) : Int :=
  max 1 (x.magnitude / leadingBit : Nat) - 1075

/-- The position of a pattern in the order of values. Both zeros share one position. -/
def position (x : Binary64) : Int :=
  if x.isNegative then -(x.magnitude : Int) else x.magnitude

/-- The order of values. Patterns that are no number stand beyond the infinity of their sign and
are ordered among themselves by magnitude. -/
def compare (x y : Binary64) : Ordering :=
  Ord.compare x.position y.position

/-- The integer part of a finite number: the number with its fraction cut off. -/
def truncate (x : Binary64) : Int :=
  let whole : Nat :=
    match x.exponent with
    | .ofNat e => x.significand * Nat.pow 2 e
    | .negSucc e => x.significand / Nat.pow 2 (e + 1)
  if x.isNegative then -(whole : Int) else whole

/-- Whether a finite number has a fraction. -/
def hasFraction (x : Binary64) : Bool :=
  match x.exponent with
  | .ofNat _ => false
  | .negSucc e => x.significand % Nat.pow 2 (e + 1) != 0

/-- The number `2 ^ 63`, the first beyond the integers of 64 bits. -/
def twoPow63 : Binary64 := ⟨0x43e0000000000000⟩

/-- The number `-2 ^ 63`, the least integer of 64 bits. -/
def negTwoPow63 : Binary64 := ⟨0xc3e0000000000000⟩

/-- The order of an integer against a number, by exact value. A number outside the integers of 64
bits is beyond every one of them; otherwise the integer parts decide, and when they agree the
fraction does. Patterns that are no number stand beyond all integers on the side of their sign. -/
def compareInt (n : Int64) (x : Binary64) : Ordering :=
  if x.isNaN then
    if x.isNegative then .gt else .lt
  else if x.compare twoPow63 ≠ .lt then .lt
  else if x.compare negTwoPow63 = .lt then .gt
  else
    match Ord.compare n x.truncate.toInt64 with
    | .eq => if x.hasFraction then (if x.isNegative then .gt else .lt) else .eq
    | decided => decided

/-- The largest `k` with `2 ^ k ≤ num / den`, for positive `num` and `den`. -/
def log2Ratio (num den : Nat) : Int :=
  let k : Int := num.log2 - den.log2
  let reached : Bool :=
    match k with
    | .ofNat k => decide (den * Nat.pow 2 k ≤ num)
    | .negSucc k => decide (den ≤ num * Nat.pow 2 (k + 1))
  if reached then k else k - 1

/-- The integer nearest to `num / den`; a half goes to the even neighbour. -/
def roundHalfEven (num den : Nat) : Nat :=
  let below := num / den
  let doubledRest := 2 * (num % den)
  if doubledRest < den then below
  else if den < doubledRest then below + 1
  else below + below % 2

/-- The magnitude nearest to `num / den`; a half goes to the even neighbour. It is `infinity` or
more when the quotient is beyond the finite numbers. -/
def nearest (num den : Nat) : Nat :=
  if num = 0 then 0
  else
    let unit : Int := max (-1074) (log2Ratio num den - 52)
    let count :=
      match unit with
      | .ofNat u => roundHalfEven num (den * Nat.pow 2 u)
      | .negSucc u => roundHalfEven (num * Nat.pow 2 (u + 1)) den
    (unit + 1074).toNat * leadingBit + count

/-- The number nearest to `± coefficient · 10 ^ exponent`, a half going to the even neighbour;
`none` beyond the finite numbers. Exponents so large or so small that the digits cannot matter are
settled without the power of ten. -/
def ofDecimal? (negative : Bool) (coefficient : Nat) (exponent : Int) : Option Binary64 :=
  let places : Int := (Nat.toDigits 10 coefficient).length + exponent
  if coefficient = 0 ∨ places < -330 then some (ofMagnitude negative 0)
  else if 310 < places then none
  else
    let m :=
      match exponent with
      | .ofNat e => nearest (coefficient * Nat.pow 10 e) 1
      | .negSucc e => nearest coefficient (Nat.pow 10 (e + 1))
    if m < infinity then some (ofMagnitude negative m) else none

/-- Powers of two, halves between neighbours and the ends of the range. -/
example : nearest 1 1 = 0x3ff0000000000000 ∧ nearest 9007199254740993 1 = 0x4340000000000000 ∧
    nearest 1 (2 ^ 1075) = 0 ∧ nearest 3 (2 ^ 1075) = 2 ∧ nearest (2 ^ 1024 - 1) 1 = infinity := by
  decide +kernel

/-- Integers beyond the exact range of the format compare by value, and so do fractions. -/
example : compareInt 9007199254740993 ⟨0x4340000000000000⟩ = .gt ∧
    compareInt (-2) ⟨0xc004000000000000⟩ = .gt ∧ compareInt 0 ⟨0x8000000000000000⟩ = .eq ∧
    compareInt 9223372036854775807 twoPow63 = .lt := by decide +kernel

end Binary64
end Paging
