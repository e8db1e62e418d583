/-
# What the bits of a floating-point number denote

The format reads a pattern as a sign, eleven bits of an exponent and 52 bits of a fraction. With
all exponent bits set it denotes an infinity, or nothing when there is a fraction; every other
pattern denotes a rational number (`denoted`). The comparison of an integer with a pattern reads
none of this: it works on integer parts of 64 bits. Main statement: it orders the integer against
what the pattern denotes (`compareInt_denoted`). The link is the number of least steps, of which a
pattern denotes so many times `2 ^ -1074` (`exact_div`).
-/
import Mathlib.Order.WithBot
import Paging.Proofs.Number.Nearest

namespace Paging

/-- The rational numbers between two infinities. -/
abbrev ExtendedRat := WithBot (WithTop ℚ)

/-- A rational number among them. -/
abbrev ExtendedRat.ofRat (q : ℚ) : ExtendedRat := WithBot.some (WithTop.some q)

namespace Binary64

variable {x : Binary64}

/-- The eleven bits after the sign. -/
def exponentBits (x : Binary64) : Nat := x.magnitude / leadingBit

/-- The last 52 bits. -/
def fractionBits (x : Binary64) : Nat := x.magnitude % leadingBit

/-- The number that a pattern denotes but for its sign, unless all its exponent bits are set. The
fraction follows a one that is not written, or a zero when no exponent bit is set. -/
def unsigned (x : Binary64) : ℚ :=
  if x.exponentBits = 0 then x.fractionBits * (2 : ℚ) ^ (-52 : Int) * 2 ^ (-1022 : Int)
  else (1 + x.fractionBits * (2 : ℚ) ^ (-52 : Int)) * 2 ^ ((x.exponentBits : Int) - 1023)

/-- The number that a pattern denotes unless all its exponent bits are set. -/
def rational (x : Binary64) : ℚ := if x.isNegative then -x.unsigned else x.unsigned

/-- What a pattern denotes. -/
def denoted (x : Binary64) : Option ExtendedRat :=
  if x.exponentBits = 2047 then
    if x.fractionBits = 0 then some (if x.isNegative then ⊥ else ⊤) else none
  else some (.ofRat x.rational)

/-- The magnitude of a number is made of its two fields, the exponent above the fraction. -/
theorem bits_of_magnitude (x : Binary64) :
    x.exponentBits * leadingBit + x.fractionBits = x.magnitude ∧ x.fractionBits < leadingBit :=
  ⟨Nat.div_add_mod' .., Nat.mod_lt _ (by decide)⟩

/-- The value of a magnitude, read off its bits. Exponent bits of zero stand for a subnormal number,
and all others put a leading bit before the fraction. -/
theorem absolute_eq_unsigned (x : Binary64) : absolute x.magnitude = x.unsigned := by
  obtain ⟨hsplit, hfraction⟩ := x.bits_of_magnitude
  rw [absolute, div_eq_mul_inv, inv_stepsPerOne, steps, unsigned]
  by_cases hzero : x.exponentBits = 0
  · rw [hzero, Nat.zero_mul, Nat.zero_add] at hsplit
    rw [if_pos (hsplit ▸ hfraction), if_pos hzero, hsplit, mul_assoc, ← zpow_add₀ (by norm_num)]
    norm_num
  · obtain ⟨e, he⟩ : ∃ e, x.exponentBits = e + 1 := Nat.exists_eq_succ_of_ne_zero hzero
    have hlarge : ¬x.magnitude < leadingBit := by
      rw [he, Nat.add_mul, Nat.one_mul] at hsplit
      omega
    rw [if_neg hlarge, if_neg hzero]
    show (((leadingBit + x.fractionBits) * Nat.pow 2 (x.exponentBits - 1) : Nat) : ℚ) * _ = _
    rw [he, Nat.add_sub_cancel, Nat.cast_mul, Nat.cast_add, cast_powTwo, leadingBit_eq_zpow]
    have hone : (1 + x.fractionBits * (2 : ℚ) ^ (-52 : Int)) * 2 ^ (52 : Int) =
        2 ^ (52 : Int) + x.fractionBits := by
      rw [add_mul, one_mul, mul_assoc, ← zpow_add₀ (by norm_num), neg_add_cancel, zpow_zero,
        mul_one]
    calc ((2 : ℚ) ^ (52 : Int) + x.fractionBits) * 2 ^ (e : Int) * 2 ^ (-1074 : Int)
        = (1 + x.fractionBits * (2 : ℚ) ^ (-52 : Int)) *
            (2 ^ (52 : Int) * 2 ^ (e : Int) * 2 ^ (-1074 : Int)) := by
          rw [← hone]
          simp only [mul_assoc]
      _ = (1 + x.fractionBits * (2 : ℚ) ^ (-52 : Int)) * 2 ^ (((e + 1 : Nat) : Int) - 1023) := by
          rw [← zpow_add₀ (by norm_num), ← zpow_add₀ (by norm_num)]
          congr 2
          omega

/-- The steps of a pattern are steps of what it denotes. -/
theorem exact_div (x : Binary64) : (x.exact : ℚ) / stepsPerOne = x.rational := by
  rw [exact_eq, rational, ← absolute_eq_unsigned, absolute]
  split_ifs
  · rw [Int.cast_neg, Int.cast_natCast, neg_div]
  · rw [Int.cast_natCast]

/-- The integer part of a number is what is left of it when the fraction is cut off. -/
theorem truncate_eq (x : Binary64) :
    x.truncate = if x.isNegative then ⌈x.rational⌉ else ⌊x.rational⌋ := by
  rw [(steps_divMod x).1, rational, ← absolute_eq_unsigned, absolute]
  split_ifs
  · rw [Int.ceil_neg, Rat.floor_natCast_div_natCast, Int.natCast_div]
  · rw [Rat.floor_natCast_div_natCast, Int.natCast_div]

/-- What is compared in steps is compared as numbers. -/
theorem compares_steps (a b : Int) : (Ord.compare a b).Compares
    (ExtendedRat.ofRat (a / stepsPerOne)) (ExtendedRat.ofRat (b / stepsPerOne)) := by
  have hpos : (0 : ℚ) < stepsPerOne := Nat.cast_pos.2 stepsPerOne_pos
  have hmono : StrictMono fun k : Int => ExtendedRat.ofRat (k / stepsPerOne) := fun _ _ h =>
    WithBot.coe_lt_coe.2 (WithTop.coe_lt_coe.2
      (div_lt_div_of_pos_right (Int.cast_lt.2 h) hpos))
  rw [← cmp_eq_compare, ← hmono.cmp_map_eq]
  exact cmp_compares _ _

/-- A pattern that is not one of those that stand for no number denotes an infinity or a number. -/
theorem denoted_cases (hx : x.isNaN = false) :
    infinity ≤ x.magnitude ∧ x.denoted = some (if x.isNegative then ⊥ else ⊤) ∨
      x.denoted = some (.ofRat x.rational) := by
  obtain ⟨hsplit, -⟩ := x.bits_of_magnitude
  have hle : x.magnitude ≤ infinity := Nat.not_lt.1 (of_decide_eq_false hx)
  have hinfinity : infinity = 2047 * leadingBit := by decide
  unfold denoted
  by_cases hbits : x.exponentBits = 2047
  · rw [hbits] at hsplit
    have hzero : x.fractionBits = 0 := by omega
    rw [if_pos hbits, if_pos hzero]
    exact .inl ⟨by omega, rfl⟩
  · exact .inr (if_neg hbits)

/-- An integer is compared with an infinity. -/
theorem compareInt_infinity (n : Int64) (h : infinity ≤ x.magnitude) :
    (compareInt n x).Compares (ExtendedRat.ofRat n.toInt) (if x.isNegative then ⊥ else ⊤) := by
  have hbeyond := exact_beyond h
  obtain ⟨hlow, hhigh⟩ := exactInt_bounds n
  rw [compareInt_eq_exact]
  split_ifs at hbeyond ⊢
  · rw [compare_gt_iff_gt.2 (hbeyond.trans_le hlow)]
    exact WithBot.bot_lt_coe _
  · rw [compare_lt_iff_lt.2 (hhigh.trans hbeyond)]
    exact WithBot.coe_lt_coe.2 (WithTop.coe_lt_top _)

/-- An integer is compared with a rational number. -/
theorem compareInt_rational (n : Int64) (x : Binary64) :
    (compareInt n x).Compares (ExtendedRat.ofRat n.toInt) (.ofRat x.rational) := by
  have hpos : (0 : ℚ) < stepsPerOne := Nat.cast_pos.2 stepsPerOne_pos
  have hn : ((exactInt n : Int) : ℚ) / stepsPerOne = n.toInt := by
    rw [exactInt, Int.cast_mul, Int.cast_natCast, mul_div_cancel_right₀ _ hpos.ne']
  rw [compareInt_eq_exact, ← hn, ← exact_div]
  exact compares_steps _ _

/-- Where the comparison takes an integer part, the pattern is finite and the integer part is one of
64 bits. -/
theorem truncate_of_compare (hbelow : x.compare twoPow63 = .lt)
    (habove : x.compare negTwoPow63 ≠ .lt) : x.magnitude < infinity ∧
      Int64.minValue.toInt ≤ x.truncate ∧ x.truncate ≤ Int64.maxValue.toInt := by
  rw [compare_eq_exact, exact_twoPow63, compare_lt_iff_lt] at hbelow
  rw [compare_eq_exact, exact_negTwoPow63] at habove
  have habove : -(signBit * stepsPerOne : Int) ≤ x.exact := compare_ge_iff_ge.1 habove
  obtain ⟨hlow, hhigh⟩ := truncate_bounds habove hbelow
  refine ⟨Nat.not_le.1 fun h => ?_, hlow, Int.le_of_lt_add_one hhigh⟩
  have hbeyond := exact_beyond h
  split_ifs at hbeyond <;> omega

/-- **An integer is compared with what a pattern denotes.** Every pattern that is not one of those
that stand for no number denotes a rational number or an infinity, and the comparison says how the
integer stands to it. Where the comparison converts the integer part of the pattern, the pattern
denotes a number, the integer part is that number without its fraction, and it is an integer of 64
bits. -/
theorem compareInt_denoted (n : Int64) (hx : x.isNaN = false) :
    ∃ v, x.denoted = some v ∧ (compareInt n x).Compares (.ofRat n.toInt) v ∧
      (x.compare twoPow63 = .lt → x.compare negTwoPow63 ≠ .lt → ∃ q : ℚ, v = .ofRat q ∧
        x.truncate = (if x.isNegative then ⌈q⌉ else ⌊q⌋) ∧
        Int64.minValue.toInt ≤ x.truncate ∧ x.truncate ≤ Int64.maxValue.toInt) := by
  obtain ⟨hinfinite, hdenoted⟩ | hdenoted := denoted_cases hx
  · refine ⟨_, hdenoted, compareInt_infinity n hinfinite, fun hbelow habove => ?_⟩
    exact absurd (truncate_of_compare hbelow habove).1 (Nat.not_lt.2 hinfinite)
  · refine ⟨_, hdenoted, compareInt_rational n x, fun hbelow habove => ?_⟩
    exact ⟨_, rfl, x.truncate_eq, (truncate_of_compare hbelow habove).2⟩

/-- The first integer that the format has no number for, against the number below it. -/
theorem compareInt_denoted_gap :
    let x : Binary64 := ⟨0x4340000000000000⟩
    x.isNaN = false ∧ compareInt 9007199254740993 x = .gt ∧
      ∃ v, x.denoted = some v ∧
        (compareInt 9007199254740993 x).Compares (.ofRat (9007199254740993 : Int64).toInt) v ∧
        (x.compare twoPow63 = .lt → x.compare negTwoPow63 ≠ .lt → ∃ q : ℚ, v = .ofRat q ∧
          x.truncate = (if x.isNegative then ⌈q⌉ else ⌊q⌋) ∧
          Int64.minValue.toInt ≤ x.truncate ∧ x.truncate ≤ Int64.maxValue.toInt) :=
  ⟨by decide, by decide +kernel, compareInt_denoted _ (by decide)⟩

end Binary64
end Paging
