/-
# Exact values of floating-point numbers

Every finite number is a whole number of least steps of `2 ^ -1074`, and so is every integer. The
number of steps in a magnitude, `steps`, grows strictly with the magnitude, and when its rule is
followed beyond the finite magnitudes it goes on growing: the infinities and the patterns that are
no number come out beyond every integer of 64 bits. So one integer, `exact`, places all bit
patterns on one line, on which the integers of 64 bits have their places too. Main statements:

* `compare_eq_exact`: two patterns compare as their exact values;
* `compareInt_eq_exact`: an integer compares with a pattern as their exact values, although the
  comparison cuts off the fraction first.
-/
import Mathlib.Order.Compare
import Mathlib.Order.Monotone.Basic
import Mathlib.Tactic.Linarith
import Mathlib.Tactic.Ring
import Paging.Number.Binary64

namespace Paging
namespace Binary64

/-- The number of binary places after the point that a number can have. It is irreducible, so that
no proof computes the power of two. -/
@[irreducible] def places : Nat := 1074

/-- The number of least steps in the number one. -/
def stepsPerOne : Nat := Nat.pow 2 places

/-- The number of least steps in a magnitude; its rule is followed beyond the finite ones too. -/
def steps (m : Nat) : Nat :=
  if m < leadingBit then m
  else (leadingBit + m % leadingBit) * Nat.pow 2 (m / leadingBit - 1)

/-- The number of least steps at a position, with its sign. -/
def signedSteps : Int → Int
  | .ofNat m => steps m
  | .negSucc m => -(steps (m + 1) : Int)

/-- The exact value of a pattern, counted in least steps. -/
def exact (x : Binary64) : Int := signedSteps x.position

/-- Powers of two are positive. -/
theorem powTwo_pos (n : Nat) : 0 < Nat.pow 2 n := Nat.pow_pos (by decide)

/-- There are least steps in one. -/
theorem stepsPerOne_pos : 0 < stepsPerOne := powTwo_pos places

/-- The next magnitude is farther from zero. Below the leading bit steps are counted one by one;
above it they are as long as the power of two says. -/
theorem steps_lt_succ (m : Nat) : steps m < steps (m + 1) := by
  have hL : 0 < leadingBit := by decide
  have hsplit := Nat.div_add_mod m leadingBit
  have hrest := Nat.mod_lt m hL
  unfold steps
  by_cases hsmall : m + 1 < leadingBit
  · rw [if_pos (by omega), if_pos hsmall]
    omega
  rw [if_neg hsmall]
  by_cases hlast : m < leadingBit
  · obtain rfl : m = leadingBit - 1 := by omega
    rw [if_pos hlast]
    decide
  rw [if_neg hlast]
  have hq : 1 ≤ m / leadingBit := (Nat.one_le_div_iff hL).2 (by omega)
  by_cases hcarry : m % leadingBit + 1 = leadingBit
  · -- the significand overflows into the next power of two
    have hm : m + 1 = leadingBit * (m / leadingBit + 1) := by rw [Nat.mul_add]; omega
    rw [hm, Nat.mul_mod_right, Nat.mul_div_cancel_left _ hL,
      show m / leadingBit + 1 - 1 = m / leadingBit - 1 + 1 by omega]
    have hpow : Nat.pow 2 (m / leadingBit - 1 + 1) = Nat.pow 2 (m / leadingBit - 1) * 2 := rfl
    have hpos := powTwo_pos (m / leadingBit - 1)
    rw [hpow]
    nlinarith
  · have hm : m + 1 = m % leadingBit + 1 + leadingBit * (m / leadingBit) := by omega
    rw [hm, Nat.add_mul_mod_self_left, Nat.add_mul_div_left _ _ hL,
      Nat.mod_eq_of_lt (by omega : m % leadingBit + 1 < leadingBit),
      Nat.div_eq_of_lt (by omega : m % leadingBit + 1 < leadingBit), Nat.zero_add]
    exact Nat.mul_lt_mul_of_pos_right (by omega) (powTwo_pos _)

/-- **Magnitudes are ordered as the numbers that they stand for.** -/
theorem steps_strictMono : StrictMono steps := strictMono_nat_of_lt_succ steps_lt_succ

/-- So are signed magnitudes. -/
theorem signedSteps_lt {i j : Int} (hij : i < j) : signedSteps i < signedSteps j := by
  cases i with
  | ofNat m =>
    cases j with
    | ofNat n => exact Int.ofNat_lt.2 (steps_strictMono (Int.ofNat_lt.1 hij))
    | negSucc n =>
      have hneg : (m : Int) < 0 := hij.trans (Int.negSucc_lt_zero n)
      exact absurd hneg (Int.not_lt.2 (Int.natCast_nonneg m))
  | negSucc m =>
    have hm : 0 < steps (m + 1) := steps_strictMono (Nat.succ_pos m)
    cases j with
    | ofNat n =>
      show -(steps (m + 1) : Int) < steps n
      omega
    | negSucc n =>
      have : steps (n + 1) < steps (m + 1) := steps_strictMono (by omega)
      show -(steps (m + 1) : Int) < -(steps (n + 1) : Int)
      omega

/-- **Patterns compare as their exact values.** -/
theorem compare_eq_exact (x y : Binary64) : x.compare y = Ord.compare x.exact y.exact := by
  have hmono : StrictMono signedSteps := fun _ _ => signedSteps_lt
  have h := hmono.cmp_map_eq x.position y.position
  rw [cmp_eq_compare, cmp_eq_compare] at h
  exact h.symm

/-- The exact value in terms of sign and magnitude. -/
theorem exact_eq (x : Binary64) :
    x.exact = if x.isNegative then -(steps x.magnitude : Int) else steps x.magnitude := by
  unfold exact position
  split
  · cases x.magnitude with
    | zero => rfl
    | succ m => rfl
  · rfl

/-- The steps of a pattern by the parts that its value is read from. -/
theorem steps_magnitude (x : Binary64) :
    steps x.magnitude = x.significand * Nat.pow 2 (max 1 (x.magnitude / leadingBit) - 1) := by
  unfold steps significand
  have hL : 0 < leadingBit := by decide
  split
  · next h =>
    rw [Nat.div_eq_of_lt h]
    exact (Nat.mul_one _).symm
  · next h => rw [Nat.max_eq_right ((Nat.one_le_div_iff hL).2 (by omega))]

/-- The integer part and the fraction, read off the steps. A negative exponent shifts the
significand to the right, and the bits that are lost make the fraction; any other exponent shifts it
to the left, and there is no fraction. -/
theorem steps_divMod (x : Binary64) :
    x.truncate = (if x.isNegative then -((steps x.magnitude / stepsPerOne : Nat) : Int)
        else (steps x.magnitude / stepsPerOne : Nat)) ∧
      x.hasFraction = (steps x.magnitude % stepsPerOne != 0) := by
  rw [steps_magnitude]
  unfold truncate hasFraction
  obtain ⟨e, he⟩ : ∃ e, e = max 1 (x.magnitude / leadingBit) - 1 := ⟨_, rfl⟩
  have hexp : x.exponent = (e : Int) - places := by
    unfold exponent places
    omega
  rw [hexp, ← he]
  rcases Nat.lt_or_ge e places with hlt | hge
  · obtain ⟨k, hk⟩ : ∃ k, k + 1 + e = places := ⟨places - 1 - e, by omega⟩
    have hneg : (e : Int) - places = .negSucc k := by omega
    have hone : stepsPerOne = Nat.pow 2 (k + 1) * Nat.pow 2 e := by
      rw [stepsPerOne, ← hk]
      exact Nat.pow_add ..
    rw [hneg, hone, Nat.mul_div_mul_right _ _ (powTwo_pos e), Nat.mul_mod_mul_right]
    refine ⟨rfl, ?_⟩
    have hpos := powTwo_pos e
    rw [Bool.eq_iff_iff, bne_iff_ne, bne_iff_ne, Nat.mul_ne_zero_iff]
    exact ⟨fun h => ⟨h, hpos.ne'⟩, fun h => h.1⟩
  · obtain ⟨k, hk⟩ : ∃ k, places + k = e := ⟨e - places, by omega⟩
    have hnat : (e : Int) - places = .ofNat k := by
      show (e : Int) - places = (k : Int)
      omega
    have hprod : x.significand * Nat.pow 2 e = x.significand * Nat.pow 2 k * stepsPerOne := by
      have hpow : Nat.pow 2 e = stepsPerOne * Nat.pow 2 k := by
        rw [stepsPerOne, ← hk]
        exact Nat.pow_add ..
      rw [hpow]
      ring
    rw [hnat, hprod, Nat.mul_div_cancel _ stepsPerOne_pos, Nat.mul_mod_left]
    exact ⟨rfl, rfl⟩

/-- The exact value of an integer of 64 bits, counted in least steps. -/
def exactInt (n : Int64) : Int := n.toInt * stepsPerOne

/-- The magnitude of the first number beyond the integers of 64 bits. -/
theorem steps_twoPow63 : steps twoPow63.magnitude = signBit * stepsPerOne := by decide +kernel

/-- The first number beyond the integers of 64 bits. -/
theorem exact_twoPow63 : twoPow63.exact = signBit * stepsPerOne := by decide +kernel

/-- The least integer of 64 bits. -/
theorem exact_negTwoPow63 : negTwoPow63.exact = -(signBit * stepsPerOne : Int) := by decide +kernel

/-- The integers of 64 bits lie between the two bounds of the comparison. -/
theorem exactInt_bounds (n : Int64) :
    -(signBit * stepsPerOne : Int) ≤ exactInt n ∧ exactInt n < signBit * stepsPerOne := by
  have hpos : (0 : Int) < stepsPerOne := Int.natCast_pos.2 stepsPerOne_pos
  have hlow : -(signBit : Int) ≤ n.toInt := Int64.le_toInt n
  have hhigh : n.toInt < (signBit : Int) := Int64.toInt_lt n
  unfold exactInt
  constructor
  · nlinarith
  · nlinarith

/-- The infinities, and the patterns that are no number, lie beyond the integers of 64 bits, on the
side of their sign. -/
theorem exact_beyond {x : Binary64} (h : infinity ≤ x.magnitude) :
    if x.isNegative then x.exact < -(signBit * stepsPerOne : Int)
    else (signBit * stepsPerOne : Int) < x.exact := by
  have hmagnitude : twoPow63.magnitude < x.magnitude :=
    (by decide : twoPow63.magnitude < infinity).trans_le h
  have hsteps := steps_strictMono hmagnitude
  rw [steps_twoPow63] at hsteps
  rw [exact_eq]
  split <;> omega

/-- Integers of 64 bits are ordered as integers. -/
theorem compare_int64 (a b : Int64) : Ord.compare a b = Ord.compare a.toInt b.toInt := by
  show compareOfLessAndEq a b = compareOfLessAndEq a.toInt b.toInt
  simp only [compareOfLessAndEq, Int64.lt_iff_toInt_lt, Int64.toInt_inj]

/-- The fraction that is cut off toward zero, and what the comparison makes of it. -/
theorem exact_split (x : Binary64) :
    ∃ rest : Int, |rest| < stepsPerOne ∧ x.exact = x.truncate * stepsPerOne + rest ∧
      (0 ≤ x.truncate ∧ 0 ≤ rest ∨ x.truncate ≤ 0 ∧ rest ≤ 0) ∧
      (if x.hasFraction then (if x.isNegative then .gt else .lt) else .eq) =
        Ord.compare 0 rest := by
  obtain ⟨htruncate, hfraction⟩ := steps_divMod x
  have hsplit : (steps x.magnitude : Int) =
      (steps x.magnitude / stepsPerOne : Nat) * stepsPerOne +
        (steps x.magnitude % stepsPerOne : Nat) := by
    exact_mod_cast (Nat.div_add_mod' _ _).symm
  have hrest := Nat.mod_lt (steps x.magnitude) stepsPerOne_pos
  rw [exact_eq, htruncate, hfraction]
  -- only the division with remainder matters from here on
  generalize steps x.magnitude % stepsPerOne = rest at hsplit hrest
  generalize steps x.magnitude / stepsPerOne = whole at hsplit
  by_cases hneg : x.isNegative
  · refine ⟨-rest, by rw [abs_neg, Nat.abs_cast]; omega, ?_, ?_, ?_⟩
    · rw [if_pos hneg, if_pos hneg, hsplit]
      ring
    · rw [if_pos hneg]
      omega
    · rcases Nat.eq_zero_or_pos rest with rfl | hpos
      · rfl
      · rw [if_pos (bne_iff_ne.2 hpos.ne'), if_pos hneg]
        exact (compare_gt_iff_gt.2 (by omega)).symm
  · refine ⟨rest, by rw [Nat.abs_cast]; omega, ?_, ?_, ?_⟩
    · rw [if_neg hneg, if_neg hneg]
      exact hsplit
    · rw [if_neg hneg]
      omega
    · rcases Nat.eq_zero_or_pos rest with rfl | hpos
      · rfl
      · rw [if_pos (bne_iff_ne.2 hpos.ne'), if_neg hneg]
        exact (compare_lt_iff_lt.2 (by omega)).symm

/-- A number between the two bounds of the comparison has an integer part of 64 bits. -/
theorem truncate_bounds {x : Binary64} (hlow : -(signBit * stepsPerOne : Int) ≤ x.exact)
    (hhigh : x.exact < signBit * stepsPerOne) :
    -(signBit : Int) ≤ x.truncate ∧ x.truncate < signBit := by
  obtain ⟨rest, hrest, hexact, hsigns, -⟩ := exact_split x
  have hpos : (0 : Int) < stepsPerOne := Int.natCast_pos.2 stepsPerOne_pos
  rcases hsigns with ⟨ht, hr⟩ | ⟨ht, hr⟩
  · exact ⟨by omega, by nlinarith⟩
  · exact ⟨by nlinarith, ht.trans_lt (by decide)⟩

/-- Whole numbers of steps decide before the steps that are left over do. -/
theorem compare_mul_add {n t rest unit : Int} (h : |rest| < unit) :
    Ord.compare (n * unit) (t * unit + rest) = (Ord.compare n t).then (Ord.compare 0 rest) := by
  obtain ⟨hlow, hhigh⟩ := abs_lt.1 h
  rcases lt_trichotomy n t with hlt | rfl | hgt
  · rw [compare_lt_iff_lt.2 hlt]
    exact compare_lt_iff_lt.2 (by nlinarith)
  · rw [compare_eq_iff_eq.2 rfl]
    show Ord.compare (n * unit) (n * unit + rest) = Ord.compare 0 rest
    rcases lt_trichotomy 0 rest with hpos | rfl | hneg
    · rw [compare_lt_iff_lt.2 hpos]
      exact compare_lt_iff_lt.2 (by omega)
    · rw [Int.add_zero, compare_eq_iff_eq.2 rfl, compare_eq_iff_eq.2 rfl]
    · rw [compare_gt_iff_gt.2 hneg]
      exact compare_gt_iff_gt.2 (by omega)
  · rw [compare_gt_iff_gt.2 hgt]
    exact compare_gt_iff_gt.2 (by nlinarith)

/-- **An integer compares with a pattern as their exact values.** The fraction that is cut off is
less than one, so the integer parts decide unless they agree. Patterns that are no number, and
numbers beyond the integers on either side, are decided at once; in between the integer part is
exact. -/
theorem compareInt_eq_exact (n : Int64) (x : Binary64) :
    compareInt n x = Ord.compare (exactInt n) x.exact := by
  obtain ⟨hlow, hhigh⟩ := exactInt_bounds n
  unfold compareInt
  by_cases hnan : x.isNaN
  · have hbeyond := exact_beyond (of_decide_eq_true hnan).le
    rw [if_pos hnan]
    split_ifs at hbeyond ⊢
    · exact (compare_gt_iff_gt.2 (hbeyond.trans_le hlow)).symm
    · exact (compare_lt_iff_lt.2 (hhigh.trans hbeyond)).symm
  rw [if_neg hnan, compare_eq_exact, exact_twoPow63]
  by_cases habove : Ord.compare x.exact (signBit * stepsPerOne : Int) ≠ .lt
  · rw [if_pos habove]
    exact (compare_lt_iff_lt.2 (hhigh.trans_le (compare_ge_iff_ge.1 habove))).symm
  rw [if_neg habove, compare_eq_exact, exact_negTwoPow63]
  by_cases hbelow : Ord.compare x.exact (-(signBit * stepsPerOne) : Int) = .lt
  · rw [if_pos hbelow]
    exact (compare_gt_iff_gt.2 ((compare_lt_iff_lt.1 hbelow).trans_le hlow)).symm
  rw [if_neg hbelow]
  have hx : x.exact < signBit * stepsPerOne := compare_lt_iff_lt.1 (not_not.1 habove)
  have hx' : -(signBit * stepsPerOne : Int) ≤ x.exact := compare_ge_iff_ge.1 hbelow
  obtain ⟨rest, hrest, hexact, -, hfraction⟩ := exact_split x
  have htruncate := truncate_bounds hx' hx
  rw [compare_int64, Int64.toInt_ofInt_of_le htruncate.1 htruncate.2, hexact, exactInt,
    compare_mul_add hrest, ← hfraction]
  cases Ord.compare n.toInt x.truncate <;> rfl

end Binary64
end Paging
