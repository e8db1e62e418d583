/-
# Dates of days

The date of a day exists: its month is one of twelve and its day is a day of this month, the leap
day only in leap years (`isValid_ofDays`). And the days of the timestamps lie in the years that a
timestamp may have (`year_ofDays`). Both are read off the place of the day in its cycle, where
years begin in March: a year of 366 days is one before a leap year.
-/
import Mathlib.Tactic.IntervalCases
import Paging.Time.Calendar

namespace Paging
namespace Date

/-- A month has at most 31 days, and only twelve have any. -/
theorem monthLength_le (year : Int) (month : Nat) :
    monthLength year month ≤ 31 ∧ (0 < monthLength year month → month ≤ 12) := by
  unfold monthLength
  split <;> first | omega | (split <;> omega)

/-- The month and the day of a valid date have two digits at most. -/
theorem le_of_isValid {date : Date} (h : date.isValid) : date.month ≤ 12 ∧ date.day ≤ 31 := by
  obtain ⟨hlow, hhigh⟩ := Bool.and_eq_true_iff.1 h
  rw [decide_eq_true_eq] at hlow hhigh
  obtain ⟨hlength, hmonth⟩ := monthLength_le date.year date.month
  exact ⟨hmonth (hlow.trans hhigh), hhigh.trans hlength⟩

/-- A year of 366 days is one before a leap year. -/
theorem yearOfCycle_leap {d : Int} (h : 0 ≤ d ∧ d < 146097)
    (hlast : d - yearStart (yearOfCycle d) = 365) (cycle : Int) :
    isLeapYear (yearOfCycle d + 400 * cycle + 1) := by
  obtain ⟨c, g, y, hyear, hc, hg, hy, -, hleap⟩ := yearOfCycle_split h
  obtain ⟨rfl, hcentury⟩ := hleap hlast
  rw [hyear]
  simp only [isLeapYear, Bool.and_eq_true, Bool.or_eq_true, beq_iff_eq, bne_iff_ne]
  omega

/-- The months have the days that the starts of the months leave them, and February has a last one
in leap years. The last month of a year that begins in March is February, the only one whose length
varies. -/
theorem day_le_monthLength {n month year : Int} (hn : 0 ≤ n ∧ n ≤ 365)
    (hmonth : monthFromMarch n = month) (hleap : n = 365 → isLeapYear (year + 1)) :
    (if month < 10 then (⟨year, (month + 3).toNat, (n - monthStart month + 1).toNat⟩ : Date)
      else ⟨year + 1, (month - 9).toNat, (n - monthStart month + 1).toNat⟩).isValid := by
  obtain ⟨⟨hlow, hhigh⟩, hday⟩ := monthFromMarch_bounds hn
  rw [hmonth] at hlow hhigh hday
  unfold monthFromMarch at hmonth
  unfold monthStart at hday ⊢
  by_cases hfebruary : month = 11
  · subst hfebruary
    rw [if_neg (by decide)]
    show (decide (1 ≤ _) && decide (_ ≤ if isLeapYear (year + 1) then 29 else 28)) = true
    by_cases h : isLeapYear (year + 1)
    · simp only [h, if_true, Bool.and_eq_true, decide_eq_true_eq]
      omega
    · have hn' : n ≠ 365 := fun heq => h (hleap heq)
      simp only [h, Bool.false_eq_true, if_false, Bool.and_eq_true, decide_eq_true_eq]
      omega
  · have hmonth' : month < 11 := by omega
    clear hhigh hfebruary
    interval_cases month <;>
    · simp only [Int.reduceLT, if_true, if_false, isValid, monthLength, Int.reduceAdd,
        Int.reduceSub, Int.reduceToNat, Bool.and_eq_true, decide_eq_true_eq]
      omega

/-- **The date of a day exists.** -/
theorem isValid_ofDays (days : Int) : (ofDays days).isValid := by
  obtain ⟨-, hn⟩ := yearOfCycle_bounds (d := (days + cycleOffset) % 146097) (by omega)
  exact day_le_monthLength hn rfl fun h => yearOfCycle_leap (by omega) h _

/-- **The days of the timestamps lie in their years.** -/
theorem year_ofDays (days : Int) (h : -96465292 ≤ days ∧ days ≤ 95026236) :
    -262143 ≤ (ofDays days).year ∧ (ofDays days).year ≤ 262142 := by
  obtain ⟨hy, hn⟩ := yearOfCycle_bounds (d := (days + cycleOffset) % 146097) (by omega)
  obtain ⟨d, hd⟩ : ∃ d, (days + cycleOffset) % 146097 = d := ⟨_, rfl⟩
  obtain ⟨year, hyear⟩ : ∃ y, yearOfCycle d = y := ⟨_, rfl⟩
  obtain ⟨n, hn'⟩ : ∃ n, d - yearStart year = n := ⟨_, rfl⟩
  obtain ⟨month, hmonth⟩ : ∃ m, monthFromMarch n = m := ⟨_, rfl⟩
  obtain ⟨cycle, hcycle⟩ : ∃ c, (days + cycleOffset) / 146097 = c := ⟨_, rfl⟩
  simp only [hd, hyear, hn'] at hy hn
  simp only [ofDays, hd, hyear, hn', hmonth, hcycle]
  unfold monthFromMarch at hmonth
  unfold yearStart at hn'
  unfold cycleOffset at hd hcycle
  -- only the first and the last cycle reach beyond the years
  have hends : cycle = -656 ∨ (-655 ≤ cycle ∧ cycle ≤ 654) ∨ cycle = 655 := by omega
  clear hyear
  split_ifs with hten
  · show -262143 ≤ year + 400 * cycle ∧ year + 400 * cycle ≤ 262142
    rcases hends with rfl | hinner | rfl <;> omega
  · show -262143 ≤ year + 400 * cycle + 1 ∧ year + 400 * cycle + 1 ≤ 262142
    rcases hends with rfl | hinner | rfl <;> omega

end Date
end Paging
