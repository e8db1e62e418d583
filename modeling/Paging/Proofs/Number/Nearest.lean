/-
# Rounding to the nearest magnitude

What a quotient is rounded to depends on its value alone, not on how the quotient is written
(`nearest_congr`), and a quotient that is the value of a magnitude is rounded to it
(`nearest_steps`). So whatever decimal, reduced or padded with zeros, stands for the same number is
read as the same magnitude. Quotients far below the least positive number and far beyond the
greatest one are rounded to zero and to infinity.

Rounding finds the unit first, the power of two in which the significand of the result is counted
(`unitOf_eq`). It takes the unit from the lengths of both parts of the quotient, which tell the
logarithm up to one (`div_bounds`), and a comparison settles which of the two it is
(`log2Ratio_eq_log`). In this unit the quotient is rounded to a whole number, a tie to an even one.
-/
import Mathlib.Algebra.Order.Field.Power
import Mathlib.Data.Int.Log
import Mathlib.Data.Rat.Floor
import Mathlib.Tactic.Positivity
import Paging.Proofs.Number.Exact

namespace Paging
namespace Binary64

variable {num den num' den' : Nat}

/-- Whether a power of two is at most a quotient, in whole numbers. -/
theorem zpow_le_div_iff (num : Nat) (hden : 0 < den) (k : Int) :
    (2 : ℚ) ^ k ≤ (num : ℚ) / den ↔
      match k with
      | .ofNat k => den * Nat.pow 2 k ≤ num
      | .negSucc k => den ≤ num * Nat.pow 2 (k + 1) := by
  have hpos : (0 : ℚ) < den := Nat.cast_pos.2 hden
  rw [le_div_iff₀ hpos]
  cases k with
  | ofNat k =>
    rw [Int.ofNat_eq_natCast, zpow_natCast, mul_comm]
    exact_mod_cast Iff.rfl
  | negSucc k =>
    have hpow : (0 : ℚ) < 2 ^ (k + 1) := by positivity
    rw [zpow_negSucc, inv_mul_le_iff₀ hpow, mul_comm]
    exact_mod_cast Iff.rfl

/-- A positive number lies between two powers of two. -/
theorem log2_bounds {n : Nat} (h : 0 < n) :
    (2 : ℚ) ^ (n.log2 : Int) ≤ n ∧ (n : ℚ) < 2 ^ ((n.log2 : Int) + 1) := by
  have hsucc : (n.log2 : Int) + 1 = (n.log2 + 1 : Nat) := rfl
  rw [hsucc, zpow_natCast, zpow_natCast]
  exact ⟨by exact_mod_cast Nat.log2_self_le h.ne', by exact_mod_cast Nat.lt_log2_self⟩

/-- The logarithm of a quotient by the lengths of its parts is off by at most one. -/
theorem div_bounds (hnum : 0 < num) (hden : 0 < den) :
    (2 : ℚ) ^ ((num.log2 : Int) - den.log2 - 1) ≤ (num : ℚ) / den ∧
      (num : ℚ) / den < 2 ^ ((num.log2 : Int) - den.log2 + 1) := by
  have hpos : (0 : ℚ) < den := Nat.cast_pos.2 hden
  obtain ⟨hnumlow, hnumhigh⟩ := log2_bounds hnum
  obtain ⟨hdenlow, hdenhigh⟩ := log2_bounds hden
  rw [le_div_iff₀ hpos, div_lt_iff₀ hpos]
  constructor
  · calc
      (2 : ℚ) ^ ((num.log2 : Int) - den.log2 - 1) * den
          ≤ 2 ^ ((num.log2 : Int) - den.log2 - 1) * 2 ^ ((den.log2 : Int) + 1) := by gcongr
      _ = 2 ^ (num.log2 : Int) := by
        rw [← zpow_add₀ (by norm_num)]
        congr 1
        omega
      _ ≤ num := hnumlow
  · calc
      (num : ℚ) < 2 ^ ((num.log2 : Int) + 1) := hnumhigh
      _ = 2 ^ ((num.log2 : Int) - den.log2 + 1) * 2 ^ (den.log2 : Int) := by
        rw [← zpow_add₀ (by norm_num)]
        congr 1
        omega
      _ ≤ 2 ^ ((num.log2 : Int) - den.log2 + 1) * den := by gcongr

/-- **The logarithm of a quotient is that of its value.** -/
theorem log2Ratio_eq_log (hnum : 0 < num) (hden : 0 < den) :
    log2Ratio num den = Int.log 2 ((num : ℚ) / den) := by
  have hpos : (0 : ℚ) < (num : ℚ) / den := by positivity
  obtain ⟨hlow, hhigh⟩ := div_bounds hnum hden
  have hlog (k : Int) : (2 : ℚ) ^ k ≤ (num : ℚ) / den ↔ k ≤ Int.log 2 ((num : ℚ) / den) :=
    Int.zpow_le_iff_le_log (by decide) hpos
  have hle := (hlog _).1 hlow
  have hlt := lt_of_not_ge (mt (hlog _).2 hhigh.not_ge)
  obtain ⟨k, hk⟩ : ∃ k : Int, k = (num.log2 : Int) - den.log2 := ⟨_, rfl⟩
  -- one comparison tells whether the estimate is reached
  have hreached := (zpow_le_div_iff num hden k).symm.trans (hlog k)
  rw [← hk] at hle hlt
  unfold log2Ratio
  simp only [← hk]
  cases k with
  | ofNat k =>
    simp only at hreached
    simp only [decide_eq_true_iff, hreached]
    split_ifs <;> omega
  | negSucc k =>
    simp only at hreached
    simp only [decide_eq_true_iff, hreached]
    split_ifs <;> omega

/-- Rounding to whole numbers depends on the value of a quotient. -/
theorem roundHalfEven_mul {c : Nat} (hc : 0 < c) (num den : Nat) :
    roundHalfEven (num * c) (den * c) = roundHalfEven num den := by
  unfold roundHalfEven
  rw [Nat.mul_div_mul_right _ _ hc, Nat.mul_mod_mul_right, ← Nat.mul_assoc]
  simp only [Nat.mul_lt_mul_right hc]

/-- Rounding depends on the value of a quotient alone. -/
theorem roundHalfEven_congr (hden : 0 < den) (hden' : 0 < den')
    (h : (num : ℚ) / den = (num' : ℚ) / den') :
    roundHalfEven num den = roundHalfEven num' den' := by
  rw [div_eq_div_iff (by positivity) (by positivity)] at h
  have hcross : num * den' = num' * den := by exact_mod_cast h
  rw [← roundHalfEven_mul hden' num den, hcross, Nat.mul_comm den den', roundHalfEven_mul hden]

/-- A whole number is rounded to itself. -/
theorem roundHalfEven_whole {n : Nat} (hden : 0 < den) (h : (num : ℚ) / den = n) :
    roundHalfEven num den = n := by
  have hone : (num : ℚ) / den = (n : ℚ) / (1 : Nat) := by rw [h, Nat.cast_one, div_one]
  rw [roundHalfEven_congr hden Nat.one_pos hone, roundHalfEven, Nat.mod_one, Nat.div_one]
  rfl

/-- Less than a half is rounded to zero. -/
theorem roundHalfEven_of_lt (hden : 0 < den) (h : (num : ℚ) / den < 1 / 2) :
    roundHalfEven num den = 0 := by
  rw [div_lt_div_iff₀ (by positivity) (by norm_num)] at h
  have hhalf : num * 2 < 1 * den := by exact_mod_cast h
  rw [roundHalfEven, Nat.mod_eq_of_lt (by omega), if_pos (by omega), Nat.div_eq_of_lt (by omega)]

/-- The power of two in whose multiples a quotient is counted. -/
def unitOf (num den : Nat) : Int := max (-1074) (log2Ratio num den - 52)

/-- A quotient in units, as a quotient. -/
def inUnits (num den : Nat) : Int → Nat × Nat
  | .ofNat u => (num, den * Nat.pow 2 u)
  | .negSucc u => (num * Nat.pow 2 (u + 1), den)

/-- A power of two is one among the rationals. -/
theorem cast_powTwo (n : Nat) : ((Nat.pow 2 n : Nat) : ℚ) = 2 ^ (n : Int) := by
  rw [zpow_natCast]
  exact Nat.cast_pow 2 n

/-- The denominator stays positive in all units. -/
theorem inUnits_pos (hden : 0 < den) (u : Int) : 0 < (inUnits num den u).2 := by
  cases u with
  | ofNat u => exact Nat.mul_pos hden (powTwo_pos u)
  | negSucc u => exact hden

/-- In units of a power of two a quotient has its value divided by the unit. -/
theorem inUnits_value (num den : Nat) (u : Int) :
    ((inUnits num den u).1 : ℚ) / (inUnits num den u).2 = (num : ℚ) / den * 2 ^ (-u) := by
  cases u with
  | ofNat u =>
    show (num : ℚ) / (den * Nat.pow 2 u : Nat) = (num : ℚ) / den * 2 ^ (-(u : Int))
    rw [Nat.cast_mul, cast_powTwo, zpow_neg, div_mul_eq_div_div, div_eq_mul_inv _ (2 ^ (u : Int))]
  | negSucc u =>
    show ((num * Nat.pow 2 (u + 1) : Nat) : ℚ) / den = (num : ℚ) / den * 2 ^ ((u + 1 : Nat) : Int)
    rw [Nat.cast_mul, cast_powTwo, mul_div_right_comm]

/-- Zero is nearest to zero. -/
theorem nearest_zero (den : Nat) : nearest 0 den = 0 := by
  rw [nearest, if_pos rfl]

/-- Rounding by the unit of a quotient. -/
theorem nearest_eq (hnum : 0 < num) :
    nearest num den = (unitOf num den + 1074).toNat * leadingBit +
      roundHalfEven (inUnits num den (unitOf num den)).1 (inUnits num den (unitOf num den)).2 := by
  unfold nearest
  rw [if_neg hnum.ne']
  show (unitOf num den + 1074).toNat * leadingBit + _ = _
  cases hunit : unitOf num den with
  | ofNat u => simp only [unitOf] at hunit; simp only [hunit]; rfl
  | negSucc u => simp only [unitOf] at hunit; simp only [hunit]; rfl

/-- **What a quotient is rounded to depends on its value.** -/
theorem nearest_congr (hden : 0 < den) (hden' : 0 < den')
    (h : (num : ℚ) / den = (num' : ℚ) / den') : nearest num den = nearest num' den' := by
  rcases Nat.eq_zero_or_pos num with rfl | hnum
  · rw [Nat.cast_zero, zero_div, eq_comm, div_eq_zero_iff] at h
    have hnum' : (num' : ℚ) = 0 := h.resolve_right (by positivity)
    rw [Nat.cast_eq_zero.1 hnum', nearest_zero, nearest_zero]
  have hnum' : 0 < num' := by
    have hpos : (0 : ℚ) < (num : ℚ) / den := by positivity
    rw [h] at hpos
    exact_mod_cast (div_pos_iff_of_pos_right (by positivity)).1 hpos
  have hunit : unitOf num den = unitOf num' den' := by
    rw [unitOf, unitOf, log2Ratio_eq_log hnum hden, log2Ratio_eq_log hnum' hden', h]
  rw [nearest_eq hnum, nearest_eq hnum', hunit]
  congr 1
  exact roundHalfEven_congr (inUnits_pos hden _) (inUnits_pos hden' _)
    (by rw [inUnits_value, inUnits_value, h])

/-- A quotient that is a whole number of its units is rounded to this number. -/
theorem nearest_of_unit {count : Nat} {u : Int} (hnum : 0 < num) (hden : 0 < den)
    (hunit : unitOf num den = u) (hcount : (num : ℚ) / den = count * (2 : ℚ) ^ u) :
    nearest num den = (u + 1074).toNat * leadingBit + count := by
  rw [nearest_eq hnum, hunit, roundHalfEven_whole (inUnits_pos hden u)]
  rw [inUnits_value, hcount, mul_assoc, ← zpow_add₀ (by norm_num), add_neg_cancel, zpow_zero,
    mul_one]

/-- The unit of a quotient by the powers of two around it. -/
theorem unitOf_eq {u : Int} (hnum : 0 < num) (hden : 0 < den) (hu : -1074 ≤ u)
    (hhigh : (num : ℚ) / den < 2 ^ (u + 53))
    (hlow : u = -1074 ∨ (2 : ℚ) ^ (u + 52) ≤ (num : ℚ) / den) : unitOf num den = u := by
  have hpos : (0 : ℚ) < (num : ℚ) / den := by positivity
  have hlt : Int.log 2 ((num : ℚ) / den) < u + 53 :=
    (Int.lt_zpow_iff_log_lt (by decide) hpos).1 hhigh
  have hle : u = -1074 ∨ u + 52 ≤ Int.log 2 ((num : ℚ) / den) :=
    hlow.imp_right (Int.zpow_le_iff_le_log (by decide) hpos).1
  rw [unitOf, log2Ratio_eq_log hnum hden]
  omega

/-- The leading bit of a significand as a power of two. -/
theorem leadingBit_eq_zpow : (leadingBit : ℚ) = 2 ^ (52 : Int) := by
  norm_num [leadingBit]

/-- A significand in its power of two is a magnitude, and this is what it is rounded to. The size of
the significand says that the unit is the one of its power of two. -/
theorem nearest_of_significand {significand : Nat} {u : Int} (hden : 0 < den) (hu : -1074 ≤ u)
    (hvalue : (num : ℚ) / den = significand * (2 : ℚ) ^ u) (hpos : 0 < significand)
    (hhigh : significand < leadingBit * 2) (hlow : u = -1074 ∨ leadingBit ≤ significand) :
    nearest num den = (u + 1074).toNat * leadingBit + significand := by
  have hunit : (0 : ℚ) < 2 ^ u := by positivity
  have hnum : 0 < num := by
    have hquotient : (0 : ℚ) < (num : ℚ) / den := by
      rw [hvalue]
      positivity
    refine Nat.pos_of_ne_zero fun h => hquotient.ne' ?_
    rw [h, Nat.cast_zero, zero_div]
  refine nearest_of_unit hnum hden (unitOf_eq hnum hden hu ?_ (hlow.imp_right fun h => ?_)) hvalue
  · have hcast : (significand : ℚ) < leadingBit * 2 := by exact_mod_cast hhigh
    calc (num : ℚ) / den = significand * 2 ^ u := hvalue
      _ < leadingBit * 2 * 2 ^ u := mul_lt_mul_of_pos_right hcast hunit
      _ = 2 ^ (u + 53) := by
        rw [leadingBit_eq_zpow, zpow_add₀ (by norm_num) u 53]
        ring
  · have hcast : (leadingBit : ℚ) ≤ significand := by exact_mod_cast h
    calc (2 : ℚ) ^ (u + 52) = leadingBit * 2 ^ u := by
          rw [leadingBit_eq_zpow, zpow_add₀ (by norm_num), mul_comm]
      _ ≤ significand * 2 ^ u := mul_le_mul_of_nonneg_right hcast hunit.le
      _ = (num : ℚ) / den := hvalue.symm

/-- The value of a magnitude. -/
def absolute (m : Nat) : ℚ := (steps m : ℚ) / stepsPerOne

/-- The number of binary places of the least step. -/
theorem cast_places : (places : Int) = 1074 := by
  unfold places
  rfl

/-- The least step as a power of two. -/
theorem inv_stepsPerOne : (stepsPerOne : ℚ)⁻¹ = 2 ^ (-1074 : Int) := by
  rw [stepsPerOne, cast_powTwo, ← zpow_neg, cast_places]

/-- **A quotient with the value of a magnitude is rounded to this magnitude.** -/
theorem nearest_absolute {m : Nat} (hden : 0 < den) (h : (num : ℚ) / den = absolute m) :
    nearest num den = m := by
  have hsplit := Nat.div_add_mod' m leadingBit
  have hL : 0 < leadingBit := by decide
  have hrest := Nat.mod_lt m hL
  rw [absolute, div_eq_mul_inv _ (stepsPerOne : ℚ), inv_stepsPerOne] at h
  rcases Nat.eq_zero_or_pos m with rfl | hm
  · have hzero : steps 0 = 0 := rfl
    rw [hzero, Nat.cast_zero, zero_mul, div_eq_zero_iff] at h
    have hnum : (num : ℚ) = 0 := h.resolve_right (by positivity)
    rw [Nat.cast_eq_zero.1 hnum, nearest_zero]
  -- without the leading bit the unit is the least one; with it the exponent bits say the unit
  by_cases hsmall : m < leadingBit
  · rw [steps, if_pos hsmall] at h
    rw [nearest_of_significand hden le_rfl h hm (by omega) (.inl rfl)]
    simp
  · have hq : 1 ≤ m / leadingBit := (Nat.one_le_div_iff hL).2 (Nat.not_lt.1 hsmall)
    have hvalue : (num : ℚ) / den =
        (leadingBit + m % leadingBit : Nat) * (2 : ℚ) ^ ((m / leadingBit : Nat) - 1075 : Int) := by
      obtain ⟨e, he⟩ : ∃ e, m / leadingBit = e + 1 := ⟨_, (Nat.sub_add_cancel hq).symm⟩
      rw [h, steps, if_neg hsmall, he, Nat.add_sub_cancel, Nat.cast_mul, cast_powTwo, mul_assoc,
        ← zpow_add₀ (by norm_num)]
      congr 2
      omega
    rw [nearest_of_significand hden (by omega) hvalue (by omega) (by omega) (.inr (by omega))]
    have htoNat : ((m / leadingBit : Nat) - 1075 + 1074 : Int).toNat = m / leadingBit - 1 := by
      omega
    rw [htoNat, Nat.sub_mul, Nat.one_mul]
    have hle : leadingBit ≤ m / leadingBit * leadingBit := Nat.le_mul_of_pos_left _ hq
    omega

/-- A quotient below half of the least positive number is rounded to zero. -/
theorem nearest_of_lt (hden : 0 < den) (h : (num : ℚ) / den < 2 ^ (-1075 : Int)) :
    nearest num den = 0 := by
  rcases Nat.eq_zero_or_pos num with rfl | hnum
  · exact nearest_zero den
  have hhigh : (num : ℚ) / den < 2 ^ (-1074 + 53 : Int) :=
    h.trans (zpow_lt_zpow_right₀ (by norm_num) (by norm_num))
  rw [nearest_eq hnum, unitOf_eq hnum hden le_rfl hhigh (.inl rfl),
    roundHalfEven_of_lt (inUnits_pos hden _)]
  · rfl
  rw [inUnits_value]
  calc (num : ℚ) / den * 2 ^ (-(-1074) : Int)
      < 2 ^ (-1075 : Int) * 2 ^ (-(-1074) : Int) := mul_lt_mul_of_pos_right h (by positivity)
    _ = 1 / 2 := by
      rw [← zpow_add₀ (by norm_num)]
      norm_num

/-- A quotient far beyond the greatest finite number is rounded to infinity or more. -/
theorem infinity_le_nearest (hden : 0 < den) (h : (2 : ℚ) ^ (1025 : Int) ≤ (num : ℚ) / den) :
    infinity ≤ nearest num den := by
  have hquotient : (0 : ℚ) < (num : ℚ) / den := lt_of_lt_of_le (by positivity) h
  have hnum : 0 < num := by
    exact_mod_cast (div_pos_iff_of_pos_right (Nat.cast_pos.2 hden)).1 hquotient
  have hlog : 1025 ≤ Int.log 2 ((num : ℚ) / den) :=
    (Int.zpow_le_iff_le_log (by decide) hquotient).1 h
  have hunit : 973 ≤ unitOf num den := by
    rw [unitOf, log2Ratio_eq_log hnum hden]
    omega
  rw [nearest_eq hnum]
  calc infinity = 2047 * leadingBit := by decide
    _ ≤ (unitOf num den + 1074).toNat * leadingBit := Nat.mul_le_mul_right _ (by omega)
    _ ≤ _ := Nat.le_add_right ..

end Binary64
end Paging
