/-
# The shortest decimal reads back

A finite number is written with digits that are found by a search over grids, each ten times as
fine as the one before. Whatever point the search ends with reads back as the number
(`readsAs_searchGrid`): an earlier grid is left only for want of such a point, and on the last one
the number is itself a point. Cutting the zeros off the end and setting the point or an exponent
change nothing of the value, and the reader rounds by value. Main statement:
`toBinary64?_numeral`, the numeral of a finite number in any style reads back as the same number,
sign included.

The reader takes the digits and the place of the point as one quotient. Its shortcuts for exponents
that are far away make no difference (`ofDecimal?_eq`), so what a numeral is read as depends on its
value and sign (`toBinary64?_eq`). The styles differ in the form of the numeral
(`wellFormed_numeral`) and not in its value (`absolute_numeral`).
-/
import Mathlib.Data.List.TakeWhile
import Paging.Number.Shortest
import Paging.Proofs.Number.Nearest
import Paging.Proofs.Number.Numeral

namespace Paging

/-- A power of ten is one among the rationals. -/
theorem cast_powTen (n : Nat) : ((Nat.pow 10 n : Nat) : ℚ) = 10 ^ (n : Int) := by
  rw [zpow_natCast]
  exact Nat.cast_pow 10 n

namespace Scientific

/-- What the digits of a decimal look like: without a zero in front, except for zero itself. -/
structure WellFormed (s : Scientific) : Prop where
  digits_ne_nil : s.digits ≠ []
  digits : ∀ c ∈ s.digits, c.isDigit
  leading : s.digits.head? = some '0' → s.digits = ['0'] ∧ s.lead = 0

/-- The value of a decimal. -/
def absolute (s : Scientific) : ℚ :=
  Text.value s.digits * 10 ^ (s.lead + 1 - s.digits.length)

/-- The decimal of some steps on a grid, without the zeros at its end. -/
def ofCount (count : Nat) (places : Int) : Scientific :=
  let digits := Text.natural count
  ⟨(digits.reverse.dropWhile (· = '0')).reverse, digits.length - 1 - places⟩

/-- What zeros are cut off. -/
theorem exists_digits_append (count : Nat) (places : Int) :
    ∃ zeros, Text.natural count = (ofCount count places).digits ++ List.replicate zeros '0' := by
  have hcut : (Text.natural count).reverse.takeWhile (· = '0') =
      List.replicate ((Text.natural count).reverse.takeWhile (· = '0')).length '0' := by
    refine List.eq_replicate_iff.2 ⟨rfl, fun c hc => ?_⟩
    simpa using List.mem_takeWhile_imp hc
  refine ⟨((Text.natural count).reverse.takeWhile (· = '0')).length, ?_⟩
  have hsplit := congrArg List.reverse
    (List.takeWhile_append_dropWhile (p := (· = '0')) (l := (Text.natural count).reverse))
  rw [hcut, List.reverse_append, List.reverse_reverse, List.reverse_replicate] at hsplit
  exact hsplit.symm

/-- A count of tenths, hundredths or thousandths in scientific notation stands for the count times
its unit. -/
theorem absolute_ofCount (count : Nat) (places : Int) :
    (ofCount count places).absolute = count * 10 ^ (-places) := by
  obtain ⟨zeros, hzeros⟩ := exists_digits_append count places
  have hvalue := congrArg Text.value hzeros
  have hlength := congrArg List.length hzeros
  rw [Text.value_natural, Text.value_append_zeros] at hvalue
  rw [List.length_append, List.length_replicate] at hlength
  have hlead : (ofCount count places).lead + 1 - (ofCount count places).digits.length =
      (zeros : Int) + -places := by
    show ((Text.natural count).length : Int) - 1 - places + 1 - _ = _
    omega
  rw [absolute, hlead, zpow_add₀ (by norm_num), ← mul_assoc, zpow_natCast]
  congr 1
  exact_mod_cast hvalue.symm

/-- The digits of a positive number keep their form without the zeros at the end. -/
theorem wellFormed_ofCount {count : Nat} (places : Int) (h : 0 < count) :
    (ofCount count places).WellFormed := by
  obtain ⟨zeros, hzeros⟩ := exists_digits_append count places
  have hne : (ofCount count places).digits ≠ [] := by
    intro hnil
    have hvalue := congrArg Text.value hzeros
    rw [Text.value_natural, Text.value_append_zeros, hnil] at hvalue
    exact h.ne' (hvalue.trans (Nat.zero_mul _))
  refine ⟨hne, fun c hc => ?_, fun hhead => ?_⟩
  · exact Text.isDigit_of_mem_natural (n := count)
      (hzeros ▸ List.mem_append_left (List.replicate zeros '0') hc)
  · refine absurd ?_ (Text.head?_natural_ne_zero h)
    rw [hzeros, List.head?_append_of_ne_nil _ hne, hhead]

section Positional

variable (pointZero negative : Bool) {s : Scientific} {k : Nat}

/-- A number below one has zeros behind the point. -/
theorem positional_below (h : s.lead = .negSucc k) : s.positional pointZero negative =
    ⟨negative, ['0'], List.replicate k '0' ++ s.digits, none⟩ := by
  simp only [positional, h]

/-- A whole number has zeros up to the point, and perhaps one behind it. -/
theorem positional_whole (h : s.lead = .ofNat k) (hlength : s.digits.length ≤ k + 1) :
    s.positional pointZero negative =
      ⟨negative, s.digits ++ List.replicate (k + 1 - s.digits.length) '0',
        List.replicate (if pointZero then 1 else 0) '0', none⟩ := by
  simp only [positional, h, if_pos hlength]
  cases pointZero <;> rfl

/-- The point stands between the digits of any other number. -/
theorem positional_mixed (h : s.lead = .ofNat k) (hlength : ¬ s.digits.length ≤ k + 1) :
    s.positional pointZero negative =
      ⟨negative, s.digits.take (k + 1), s.digits.drop (k + 1), none⟩ := by
  simp only [positional, h, if_neg hlength]

/-- **Setting the point keeps the value.** Leading zeros add nothing to the value of the digits;
trailing ones multiply it by a power of ten, which the exponent takes back; and a point between the
digits leaves them as they are. -/
theorem absolute_positional : (s.positional pointZero negative).absolute = s.absolute := by
  cases hlead : s.lead with
  | negSucc k =>
    rw [positional_below _ _ hlead, absolute, hlead]
    show (Text.value (List.replicate (k + 1) '0' ++ s.digits) : ℚ) *
        10 ^ ((0 : Int) - (List.replicate k '0' ++ s.digits).length) = _
    rw [Text.value_zeros_append, List.length_append, List.length_replicate]
    congr 2
    omega
  | ofNat k =>
    by_cases hlength : s.digits.length ≤ k + 1
    · rw [positional_whole _ _ hlead hlength, absolute, hlead]
      obtain ⟨more, hmore⟩ : ∃ n, n = if pointZero then 1 else 0 := ⟨_, rfl⟩
      show (Text.value (s.digits ++ List.replicate (k + 1 - s.digits.length) '0' ++
          List.replicate _ '0') : ℚ) * 10 ^ ((0 : Int) - (List.replicate _ '0').length) = _
      have hzeros : Int.ofNat k + 1 - s.digits.length = (k + 1 - s.digits.length : Nat) := by
        show (k : Int) + 1 - s.digits.length = _
        omega
      rw [← hmore, List.length_replicate, Text.value_append_zeros, Text.value_append_zeros, hzeros,
        zpow_natCast, zero_sub, zpow_neg, zpow_natCast]
      push_cast
      field_simp
    · rw [positional_mixed _ _ hlead hlength, absolute, hlead]
      show (Text.value (s.digits.take (k + 1) ++ s.digits.drop (k + 1)) : ℚ) *
          10 ^ ((0 : Int) - (s.digits.drop (k + 1)).length) =
        Text.value s.digits * 10 ^ ((k : Int) + 1 - s.digits.length)
      rw [List.take_append_drop, List.length_drop]
      congr 2
      omega

/-- Written with a point between its digits or zeros beside them, a decimal is a numeral of the
grammar. Below one there is a zero, the point, zeros and the digits; from one on all digits stand
before the point, or the point stands between them. -/
theorem wellFormed_positional (h : s.WellFormed) :
    (s.positional pointZero negative).WellFormed := by
  have hzero (n : Nat) : ∀ c ∈ List.replicate n '0', c.isDigit := by
    intro c hc
    rw [List.eq_of_mem_replicate hc]
    decide
  cases hlead : s.lead with
  | negSucc k =>
    rw [positional_below _ _ hlead]
    exact ⟨List.cons_ne_nil _ _, by simp, fun _ => rfl,
      List.forall_mem_append.2 ⟨hzero k, h.digits⟩, by rintro _ _ ⟨⟩⟩
  | ofNat k =>
    by_cases hlength : s.digits.length ≤ k + 1
    · rw [positional_whole _ _ hlead hlength]
      refine ⟨List.append_ne_nil_of_left_ne_nil h.digits_ne_nil _,
        List.forall_mem_append.2 ⟨h.digits, hzero _⟩, fun hhead => ?_, hzero _, by rintro _ _ ⟨⟩⟩
      rw [List.head?_append_of_ne_nil _ h.digits_ne_nil] at hhead
      obtain ⟨hdigits, hlead'⟩ := h.leading hhead
      obtain rfl : k = 0 := Int.ofNat.inj (hlead.symm.trans hlead')
      show s.digits ++ _ = _
      rw [hdigits]
      rfl
    · rw [positional_mixed _ _ hlead hlength]
      refine ⟨?_, fun c hc => h.digits c (List.mem_of_mem_take hc), fun hhead => ?_,
        fun c hc => h.digits c (List.mem_of_mem_drop hc), by rintro _ _ ⟨⟩⟩
      · simpa using h.digits_ne_nil
      · have hdigits : s.digits.head? = some '0' := by
          rwa [List.head?_take, if_neg k.succ_ne_zero] at hhead
        rw [(h.leading hdigits).1] at hlength
        exact absurd (by simp) hlength

/-- The positional numeral has the sign that it is asked for. -/
theorem negative_positional : (s.positional pointZero negative).negative = negative := by
  cases hlead : s.lead with
  | negSucc k => rw [positional_below _ _ hlead]
  | ofNat k =>
    by_cases hlength : s.digits.length ≤ k + 1
    · rw [positional_whole _ _ hlead hlength]
    · rw [positional_mixed _ _ hlead hlength]

end Positional

/-- **Setting an exponent keeps the value.** -/
theorem absolute_exponential (exponentPlus negative : Bool) {s : Scientific} (h : s.digits ≠ []) :
    (s.exponential exponentPlus negative).absolute = s.absolute := by
  have hpos := List.length_pos_iff.2 h
  have htens : (s.exponential exponentPlus negative).tens = s.lead := by
    unfold exponential Numeral.tens
    split_ifs with hneg <;>
    · simp only [Text.value_natural]
      omega
  rw [Numeral.absolute, htens]
  show (Text.value (s.digits.take 1 ++ s.digits.drop 1) : ℚ) *
    10 ^ (s.lead - (s.digits.drop 1).length) = _
  rw [List.take_append_drop, List.length_drop, absolute]
  congr 2
  omega

/-- Written with an exponent, a decimal is a numeral of the grammar, with or without a plus before
the exponent. -/
theorem wellFormed_exponential (exponentPlus negative : Bool) {s : Scientific} (h : s.WellFormed) :
    (s.exponential exponentPlus negative).WellFormed := by
  obtain ⟨c, rest, hcons⟩ := List.exists_cons_of_ne_nil h.digits_ne_nil
  have hdigits := h.digits
  rw [hcons, List.forall_mem_cons] at hdigits
  unfold exponential
  rw [hcons]
  refine ⟨List.cons_ne_nil _ _, by simpa using hdigits.1, fun hhead => ?_, hdigits.2, ?_⟩
  · rw [Option.some.inj hhead]
    rfl
  · rintro _ _ ⟨⟩
    exact ⟨Text.natural_ne_nil _, fun _ => Text.isDigit_of_mem_natural⟩

/-- **A decimal keeps its value in every style.** -/
theorem absolute_numeral (style : Style) (negative : Bool) {s : Scientific} (h : s.digits ≠ []) :
    (s.numeral style negative).absolute = s.absolute := by
  unfold numeral
  split
  · exact absolute_positional _ _
  · exact absolute_exponential _ _ h

/-- Whichever way a decimal is written, the numeral has the sign that it is asked for. -/
theorem negative_numeral (style : Style) (negative : Bool) (s : Scientific) :
    (s.numeral style negative).negative = negative := by
  unfold numeral
  split
  · exact negative_positional _ _
  · rfl

/-- Whichever way a decimal is written, it is a numeral of the grammar. -/
theorem wellFormed_numeral (style : Style) (negative : Bool) {s : Scientific} (h : s.WellFormed) :
    (s.numeral style negative).WellFormed := by
  unfold numeral
  split
  · exact wellFormed_positional _ _ h
  · exact wellFormed_exponential _ _ h

end Scientific

namespace Binary64

variable {num den : Nat}

/-- The value of a finite number by its parts. -/
theorem absolute_magnitude (x : Binary64) :
    absolute x.magnitude = x.significand * 2 ^ x.exponent := by
  rw [absolute, steps_magnitude, Nat.cast_mul, cast_powTwo, div_eq_mul_inv, inv_stepsPerOne,
    mul_assoc, ← zpow_add₀ (by norm_num)]
  congr 2
  unfold exponent
  omega

/-- The quotient of a float is its absolute value: the shift of its magnitude is put on the side of
the fraction that keeps both parts natural numbers. -/
theorem quotient_value (x : Binary64) :
    (x.quotient.1 : ℚ) / x.quotient.2 = absolute x.magnitude := by
  rw [absolute_magnitude, quotient]
  cases x.exponent with
  | ofNat e =>
    show ((x.significand * Nat.pow 2 e : Nat) : ℚ) / (1 : Nat) = x.significand * 2 ^ (e : Int)
    rw [Nat.cast_mul, cast_powTwo, Nat.cast_one, div_one]
  | negSucc e =>
    show (x.significand : ℚ) / (Nat.pow 2 (e + 1) : Nat) = _
    rw [cast_powTwo, zpow_negSucc, ← zpow_natCast, div_eq_mul_inv]

/-- The quotient of a float has a positive denominator, so that it can be rounded. -/
theorem quotient_pos (x : Binary64) : 0 < x.quotient.2 := by
  rw [quotient]
  cases x.exponent with
  | ofNat e => exact Nat.one_pos
  | negSucc e => exact powTwo_pos (e + 1)

/-- A number is a whole number of steps on the finest grid. -/
theorem quotient_dvd (x : Binary64) : x.quotient.2 ∣ Nat.pow 10 places := by
  rw [quotient]
  cases hexp : x.exponent with
  | ofNat e => exact Nat.one_dvd _
  | negSucc e =>
    have he : e + 1 ≤ places := by
      unfold exponent at hexp
      unfold places
      omega
    exact (Nat.pow_dvd_pow 2 he).trans (pow_dvd_pow_of_dvd (by decide : 2 ∣ 10) places)

/-- A point on a grid, as a quotient. -/
def gridPoint (count : Nat) : Int → Nat × Nat
  | .ofNat p => (count, Nat.pow 10 p)
  | .negSucc p => (count * Nat.pow 10 (p + 1), 1)

/-- A point of the decimal grid has a positive denominator. -/
theorem gridPoint_pos (count : Nat) (places : Int) : 0 < (gridPoint count places).2 := by
  cases places with
  | ofNat p => exact Nat.pow_pos (by decide)
  | negSucc p => exact Nat.one_pos

/-- A point of the decimal grid is its count in units of the places. -/
theorem gridPoint_value (count : Nat) (places : Int) :
    ((gridPoint count places).1 : ℚ) / (gridPoint count places).2 = count * 10 ^ (-places) := by
  cases places with
  | ofNat p =>
    show (count : ℚ) / (Nat.pow 10 p : Nat) = count * 10 ^ (-(p : Int))
    rw [cast_powTen, zpow_neg, div_eq_mul_inv]
  | negSucc p =>
    show ((count * Nat.pow 10 (p + 1) : Nat) : ℚ) / (1 : Nat) = count * 10 ^ ((p + 1 : Nat) : Int)
    rw [Nat.cast_mul, cast_powTen, Nat.cast_one, div_one]

/-- Reading a point of the decimal grid rounds its quotient. -/
theorem readsAs_eq (count : Nat) (places : Int) :
    readsAs count places = nearest (gridPoint count places).1 (gridPoint count places).2 := by
  cases places <;> rfl

/-- No units read as zero. -/
theorem readsAs_zero (places : Int) : readsAs 0 places = 0 := by
  cases places with
  | ofNat p => exact nearest_zero _
  | negSucc p =>
    show nearest (0 * Nat.pow 10 (p + 1)) 1 = 0
    rw [Nat.zero_mul, nearest_zero]

/-- A point on a grid reads as any quotient of the same value. -/
theorem readsAs_eq_nearest {count : Nat} {places : Int} (hden : 0 < den)
    (h : (num : ℚ) / den = count * 10 ^ (-places)) : readsAs count places = nearest num den := by
  rw [readsAs_eq]
  exact nearest_congr (gridPoint_pos count places) hden (by rw [gridPoint_value, h])

/-- On a grid that is fine enough a number is one of the points. -/
theorem readsAs_scaled {p : Int} (hden : 0 < den) (hdvd : den ∣ Nat.pow 10 places)
    (hp : (places : Int) ≤ p) : readsAs (scaled num den p).1 p = nearest num den := by
  refine readsAs_eq_nearest hden ?_
  obtain ⟨k, rfl⟩ := Int.eq_ofNat_of_zero_le (by omega : 0 ≤ p)
  obtain ⟨count, hcount⟩ : den ∣ num * Nat.pow 10 k :=
    (hdvd.trans (Nat.pow_dvd_pow 10 (Int.ofNat_le.1 hp))).mul_left num
  show (num : ℚ) / den = (num * Nat.pow 10 k / den : Nat) * 10 ^ (-(k : Int))
  have hpow : (10 : ℚ) ^ (k : Int) ≠ 0 := by positivity
  rw [hcount, Nat.mul_div_cancel_left _ hden, zpow_neg, eq_mul_inv_iff_mul_eq₀ hpow,
    div_mul_eq_mul_div, div_eq_iff (by positivity), ← cast_powTen]
  exact_mod_cast hcount.trans (Nat.mul_comm den count)

/-- The nearer one of two neighbours is one of them. -/
theorem nearer_eq (tie : Tie) (below rest unit : Nat) :
    nearer tie below rest unit = below ∨ nearer tie below rest unit = below + 1 := by
  unfold nearer
  split_ifs
  · exact .inl rfl
  · exact .inr rfl
  · cases tie with
    | even =>
      show below + below % 2 = below ∨ below + below % 2 = below + 1
      omega
    | away => exact .inr rfl

/-- **Whatever point the search ends with reads back as the number.** -/
theorem readsAs_searchGrid (tie : Tie) (num n : Nat) (p : Int) (hden : 0 < den)
    (hdvd : den ∣ Nat.pow 10 places) (hp : (places : Int) ≤ p + n) :
    readsAs (searchGrid tie (nearest num den) num den n p).1
      (searchGrid tie (nearest num den) num den n p).2 = nearest num den := by
  -- by induction on the grids that are left; the last one is fine enough for the number itself
  induction n generalizing p with
  | zero => exact readsAs_scaled hden hdvd (by simpa using hp)
  | succ n ih =>
    obtain ⟨⟨below, rest, unit⟩, hscaled⟩ : ∃ s, scaled num den p = s := ⟨_, rfl⟩
    simp only [searchGrid, hscaled]
    cases hbelow : decide (readsAs below p = nearest num den) with
    | true =>
      cases habove : decide (readsAs (below + 1) p = nearest num den) with
      | true =>
        rcases nearer_eq tie below rest unit with h | h
        · simp only [h]
          exact of_decide_eq_true hbelow
        · simp only [h]
          exact of_decide_eq_true habove
      | false => exact of_decide_eq_true hbelow
    | false =>
      cases habove : decide (readsAs (below + 1) p = nearest num den) with
      | true => exact of_decide_eq_true habove
      | false => exact ih _ (by omega)

/-- The shortest decimal of a number other than zero is a point that reads back as it. -/
theorem exists_shortest (tie : Tie) {x : Binary64} (h : x.magnitude ≠ 0) :
    ∃ count places, x.shortest tie = .ofCount count places ∧ 0 < count ∧
      readsAs count places = x.magnitude := by
  have htarget : nearest x.quotient.1 x.quotient.2 = x.magnitude :=
    nearest_absolute x.quotient_pos x.quotient_value
  obtain ⟨coarsest, hcoarsest⟩ : ∃ p, p = -log10Ratio x.quotient.1 x.quotient.2 := ⟨_, rfl⟩
  have hreads := readsAs_searchGrid tie x.quotient.1 (1074 - coarsest).toNat coarsest
    x.quotient_pos x.quotient_dvd (by rw [cast_places]; omega)
  rw [htarget] at hreads
  refine ⟨_, _, ?_, Nat.pos_of_ne_zero fun hzero => h ?_, hreads⟩
  · unfold shortest
    rw [if_neg h, hcoarsest]
    rfl
  · rw [← hreads, hzero, readsAs_zero]

/-- The shortest decimal of a zero, of either sign, is the digit zero. -/
theorem shortest_zero (tie : Tie) {x : Binary64} (h : x.magnitude = 0) :
    x.shortest tie = ⟨['0'], 0⟩ := by
  rw [shortest, if_pos h]

/-- The search for the shortest decimal ends in digits that have no needless zero at their front or
back. -/
theorem wellFormed_shortest (tie : Tie) (x : Binary64) : (x.shortest tie).WellFormed := by
  by_cases h : x.magnitude = 0
  · rw [shortest_zero tie h]
    exact ⟨List.cons_ne_nil _ _, List.forall_mem_singleton.2 rfl, fun _ => ⟨rfl, rfl⟩⟩
  · obtain ⟨count, places, heq, hpos, -⟩ := exists_shortest tie h
    rw [heq]
    exact Scientific.wellFormed_ofCount places hpos

/-- The shortest decimal of a number is rounded to its magnitude. -/
theorem nearest_shortest (tie : Tie) (x : Binary64) :
    ∃ num den : Nat, 0 < den ∧ (num : ℚ) / den = (x.shortest tie).absolute ∧
      nearest num den = x.magnitude := by
  by_cases h : x.magnitude = 0
  · rw [shortest_zero tie h, h]
    refine ⟨0, 1, Nat.one_pos, ?_, nearest_zero 1⟩
    show (0 : Nat) / ((1 : Nat) : ℚ) = (0 : Nat) * _
    rw [Nat.cast_zero, zero_div, zero_mul]
  · obtain ⟨count, places, heq, -, hreads⟩ := exists_shortest tie h
    refine ⟨_, _, gridPoint_pos count places, ?_, (readsAs_eq count places).symm.trans hreads⟩
    rw [gridPoint_value, heq, Scientific.absolute_ofCount]

/-- Powers of two and ten with natural exponents compare as rationals in the way they compare as
naturals. -/
theorem zpow_le_zpow_of_pow {a b : Nat} (h : Nat.pow 2 a ≤ Nat.pow 10 b) :
    (2 : ℚ) ^ (a : Int) ≤ 10 ^ (b : Int) := by
  rw [← cast_powTwo, ← cast_powTen]
  exact Nat.cast_le.2 h

/-- Exponents so small that they are settled without rounding lead to zero. -/
theorem nearest_of_lt_powTen {p : Int} (hden : 0 < den) (hp : p < -330)
    (h : (num : ℚ) / den < 10 ^ p) : nearest num den = 0 := by
  have hleast : (2 : ℚ) ^ ((1075 : Nat) : Int) ≤ 10 ^ ((331 : Nat) : Int) :=
    zpow_le_zpow_of_pow (by decide +kernel)
  refine nearest_of_lt hden (h.trans_le ?_)
  calc (10 : ℚ) ^ p ≤ 10 ^ (-331 : Int) := zpow_le_zpow_right₀ (by norm_num) (by omega)
    _ ≤ 2 ^ (-1075 : Int) := by
      rw [zpow_neg, zpow_neg]
      exact inv_anti₀ (by positivity) hleast

/-- And those so large lead to infinity. -/
theorem infinity_le_nearest_of_powTen_le {p : Int} (hden : 0 < den) (hp : 310 ≤ p)
    (h : (10 : ℚ) ^ p ≤ (num : ℚ) / den) : infinity ≤ nearest num den := by
  have hgreatest : (2 : ℚ) ^ ((1025 : Nat) : Int) ≤ 10 ^ ((310 : Nat) : Int) :=
    zpow_le_zpow_of_pow (by decide +kernel)
  refine infinity_le_nearest hden (hgreatest.trans (le_trans ?_ h))
  exact zpow_le_zpow_right₀ (by norm_num) hp

/-- A decimal lies between the powers of ten that its digits and its exponent say. -/
theorem decimal_bounds {coefficient : Nat} (exponent : Int) (h : 0 < coefficient) :
    ∃ n : Nat, (Nat.toDigits 10 coefficient).length = n + 1 ∧
      (10 : ℚ) ^ (n + exponent) ≤ coefficient * 10 ^ exponent ∧
      (coefficient : ℚ) * 10 ^ exponent < 10 ^ ((n : Int) + 1 + exponent) := by
  have hlength : 0 < (Text.natural coefficient).length :=
    List.length_pos_iff.2 (Text.natural_ne_nil coefficient)
  obtain ⟨n, hn⟩ : ∃ n, (Text.natural coefficient).length = n + 1 :=
    ⟨_, (Nat.sub_add_cancel hlength).symm⟩
  obtain ⟨hlow, hhigh⟩ := Text.powTen_bounds h hn
  have hunit : (0 : ℚ) < 10 ^ exponent := by positivity
  refine ⟨n, hn, ?_, ?_⟩
  · rw [zpow_add₀ (by norm_num), zpow_natCast]
    exact mul_le_mul_of_nonneg_right (by exact_mod_cast hlow) hunit.le
  · rw [zpow_add₀ (by norm_num)]
    exact mul_lt_mul_of_pos_right (by exact_mod_cast hhigh) hunit

/-- The shortcuts for exponents that are far away do not matter: a decimal is rounded by its value.
The number of digits bounds the value by powers of ten, which is what the shortcuts go by. -/
theorem ofDecimal?_eq (negative : Bool) {coefficient : Nat} {exponent : Int}
    (hpos : 0 < coefficient) (hden : 0 < den)
    (h : (num : ℚ) / den = coefficient * 10 ^ exponent) :
    ofDecimal? negative coefficient exponent = if nearest num den < infinity
      then some (ofMagnitude negative (nearest num den)) else none := by
  obtain ⟨n, hn, hlow, hhigh⟩ := decimal_bounds exponent hpos
  rw [← h] at hlow hhigh
  unfold ofDecimal?
  simp only [hn, Nat.cast_add, Nat.cast_one, hpos.ne', false_or]
  by_cases hsmall : (n : Int) + 1 + exponent < -330
  · rw [if_pos hsmall, nearest_of_lt_powTen hden hsmall hhigh, if_pos (by decide)]
  rw [if_neg hsmall]
  by_cases hlarge : 310 < (n : Int) + 1 + exponent
  · have hinfinity := infinity_le_nearest_of_powTen_le hden (by omega) hlow
    rw [if_pos hlarge, if_neg hinfinity.not_gt]
  rw [if_neg hlarge]
  cases exponent with
  | ofNat e =>
    have hvalue : ((coefficient * Nat.pow 10 e : Nat) : ℚ) / (1 : Nat) = (num : ℚ) / den := by
      rw [h, Nat.cast_mul, cast_powTen, Nat.cast_one, div_one]
      rfl
    simp only [nearest_congr Nat.one_pos hden hvalue]
  | negSucc e =>
    have hvalue : (coefficient : ℚ) / (Nat.pow 10 (e + 1) : Nat) = (num : ℚ) / den := by
      rw [h, cast_powTen, zpow_negSucc, ← zpow_natCast, div_eq_mul_inv]
    have hpow : 0 < Nat.pow 10 (e + 1) := Nat.pow_pos (by decide)
    simp only [nearest_congr hpow hden hvalue]

/-- Sign and magnitude make up a number. -/
theorem ofMagnitude_magnitude (x : Binary64) : ofMagnitude x.isNegative x.magnitude = x := by
  have hbits := x.bits.toNat_lt
  have hsum : x.magnitude + (if x.isNegative then signBit else 0) = x.bits.toNat := by
    unfold magnitude isNegative signBit
    split_ifs with h
    · rw [decide_eq_true_iff] at h
      omega
    · rw [decide_eq_true_iff] at h
      omega
  rw [ofMagnitude, hsum, UInt64.ofNat_toNat]

/-- A numeral is rounded by its value. -/
theorem toBinary64?_eq {n : Numeral} (hden : 0 < den) (h : (num : ℚ) / den = n.absolute) :
    n.toBinary64? = if nearest num den < infinity
      then some (ofMagnitude n.negative (nearest num den)) else none := by
  -- zero has no power of ten below it, so the bounds on exponents say nothing of it
  rcases Nat.eq_zero_or_pos (Text.value (n.whole ++ n.fraction)) with hzero | hpos
  · rw [Numeral.absolute, hzero, Nat.cast_zero, zero_mul, div_eq_zero_iff] at h
    have hnum : (num : ℚ) = 0 := h.resolve_right (by positivity)
    rw [Nat.cast_eq_zero.1 hnum, nearest_zero, if_pos (by decide), Numeral.toBinary64?, hzero]
    unfold ofDecimal?
    exact if_pos (Or.inl rfl)
  · exact ofDecimal?_eq n.negative hpos hden h

/-- **A finite number is read back as it was**, from its numeral in any style. -/
theorem toBinary64?_numeral (style : Style) {x : Binary64} (h : x.isFinite) :
    (x.numeral style).toBinary64? = some x := by
  obtain ⟨num, den, hden, hvalue, hnearest⟩ := nearest_shortest style.tie x
  have hdigits := (wellFormed_shortest style.tie x).digits_ne_nil
  have hread := toBinary64?_eq hden
    (hvalue.trans (Scientific.absolute_numeral style x.isNegative hdigits).symm)
  rw [hnearest, if_pos (of_decide_eq_true h), Scientific.negative_numeral,
    ofMagnitude_magnitude] at hread
  exact hread

/-- The numeral of a float is one of the grammar, in each style. -/
theorem wellFormed_numeral (style : Style) (x : Binary64) : (x.numeral style).WellFormed :=
  Scientific.wellFormed_numeral style _ (wellFormed_shortest style.tie x)

end Binary64
end Paging
