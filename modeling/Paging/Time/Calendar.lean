/-
# The Gregorian calendar

Days are counted from 1 January 1970 and dates run over all years, with year `0` before year `1`.
The calendar repeats every 400 years, so a day is placed by the number of whole cycles before it
and its place inside one; inside a cycle years begin on 1 March, which puts the leap day last.
Main statement: `toDays_ofDays`, counting the days up to the date of a day gives the day back.
-/

namespace Paging

/-- A year, a month from 1 and a day of the month from 1. -/
structure Date where
  year : Int
  month : Nat
  day : Nat
  deriving DecidableEq, Repr

namespace Date

/-- Whether a year has a leap day. -/
def isLeapYear (year : Int) : Bool :=
  year % 4 == 0 && (year % 100 != 0 || year % 400 == 0)

/-- The number of days in a month of a year, `0` for a number that is no month. -/
def monthLength (year : Int) : Nat → Nat
  | 1 | 3 | 5 | 7 | 8 | 10 | 12 => 31
  | 4 | 6 | 9 | 11 => 30
  | 2 => if isLeapYear year then 29 else 28
  | _ => 0

/-- Whether the month and the day exist. -/
def isValid (date : Date) : Bool :=
  decide (1 ≤ date.day) && decide (date.day ≤ monthLength date.year date.month)

/-- The days before 1 January 1970 since the 1 March that begins the cycle of year `0`. -/
def cycleOffset : Int := 719468

/-- The year of the cycle in which a day of the cycle lies. Centuries have 36524 days but for the
last, which ends in a leap day; groups of four years have 1461, and years 365 but for the last. -/
def yearOfCycle (dayOfCycle : Int) : Int :=
  let century := min (dayOfCycle / 36524) 3
  let dayOfCentury := dayOfCycle - 36524 * century
  let group := dayOfCentury / 1461
  let year := min ((dayOfCentury - 1461 * group) / 365) 3
  100 * century + 4 * group + year

/-- The day of the cycle on which a year of the cycle begins. -/
def yearStart (year : Int) : Int :=
  365 * year + year / 4 - year / 100

/-- The month, counted from March as `0`, in which a day of the year lies. -/
def monthFromMarch (dayOfYear : Int) : Int :=
  (5 * dayOfYear + 2) / 153

/-- The day of the year on which a month begins, both counted from March. -/
def monthStart (month : Int) : Int :=
  (153 * month + 2) / 5

/-- The date of a day, counted from 1 January 1970. -/
def ofDays (days : Int) : Date :=
  let cycle := (days + cycleOffset) / 146097
  let dayOfCycle := (days + cycleOffset) % 146097
  let year := yearOfCycle dayOfCycle
  let dayOfYear := dayOfCycle - yearStart year
  let month := monthFromMarch dayOfYear
  let day := (dayOfYear - monthStart month + 1).toNat
  if month < 10 then ⟨year + 400 * cycle, (month + 3).toNat, day⟩
  else ⟨year + 400 * cycle + 1, (month - 9).toNat, day⟩

/-- The number of days from 1 January 1970 to a date, negative before it. -/
def toDays (date : Date) : Int :=
  let year := if date.month ≤ 2 then date.year - 1 else date.year
  let month : Int := if date.month ≤ 2 then date.month + 9 else date.month - 3
  year / 400 * 146097 + yearStart (year % 400) + monthStart month + date.day - 1 - cycleOffset

/-- The first day of a year of the cycle, by centuries, groups of four years and years of a group.
-/
theorem yearStart_split {c g y : Int} (hg : 0 ≤ g ∧ g ≤ 24) (hy : 0 ≤ y ∧ y ≤ 3) :
    yearStart (100 * c + 4 * g + y) = 36524 * c + 1461 * g + 365 * y := by
  have h₁ : (100 * c + 4 * g + y) / 4 = 25 * c + g := by omega
  have h₂ : (100 * c + 4 * g + y) / 100 = c := by omega
  unfold yearStart
  omega

/-- The century, the group of four years and the year of the group in which a day of the cycle
lies. Only the last year of a group has a day more than 365, and then the group is not the last of
a century, unless the century is the last of the cycle. -/
theorem yearOfCycle_split {d : Int} (h : 0 ≤ d ∧ d < 146097) :
    ∃ c g y, yearOfCycle d = 100 * c + 4 * g + y ∧
      (0 ≤ c ∧ c ≤ 3) ∧ (0 ≤ g ∧ g ≤ 24) ∧ (0 ≤ y ∧ y ≤ 3) ∧
      (0 ≤ d - yearStart (yearOfCycle d) ∧ d - yearStart (yearOfCycle d) ≤ 365) ∧
      (d - yearStart (yearOfCycle d) = 365 → y = 3 ∧ (g = 24 → c = 3)) := by
  obtain ⟨c, hc⟩ : ∃ c, min (d / 36524) 3 = c := ⟨_, rfl⟩
  obtain ⟨r, hr⟩ : ∃ r, d - 36524 * c = r := ⟨_, rfl⟩
  obtain ⟨g, hg⟩ : ∃ g, r / 1461 = g := ⟨_, rfl⟩
  obtain ⟨y, hy⟩ : ∃ y, min ((r - 1461 * g) / 365) 3 = y := ⟨_, rfl⟩
  have hc' : 0 ≤ c ∧ c ≤ 3 ∧ 0 ≤ r ∧ r ≤ 36524 := by omega
  have hg' : 0 ≤ g ∧ g ≤ 24 ∧ 0 ≤ r - 1461 * g ∧ r - 1461 * g ≤ 1460 := by omega
  have hy' : 0 ≤ y ∧ y ≤ 3 ∧ 0 ≤ r - 1461 * g - 365 * y ∧ r - 1461 * g - 365 * y ≤ 365 := by omega
  have hyear : yearOfCycle d = 100 * c + 4 * g + y := by
    simp only [yearOfCycle, hc, hr, hg, hy]
  have hstart : yearStart (yearOfCycle d) = 36524 * c + 1461 * g + 365 * y := by
    rw [hyear, yearStart_split ⟨hg'.1, hg'.2.1⟩ ⟨hy'.1, hy'.2.1⟩]
  rw [hstart]
  exact ⟨c, g, y, hyear, by omega, by omega, by omega, by omega, by omega⟩

/-- A day of the cycle lies in one of its four hundred years, at most 365 days behind the first of
that year. -/
theorem yearOfCycle_bounds {d : Int} (h : 0 ≤ d ∧ d < 146097) :
    (0 ≤ yearOfCycle d ∧ yearOfCycle d < 400) ∧
      (0 ≤ d - yearStart (yearOfCycle d) ∧ d - yearStart (yearOfCycle d) ≤ 365) := by
  obtain ⟨c, g, y, hyear, hc, hg, hy, hday, -⟩ := yearOfCycle_split h
  exact ⟨by omega, hday⟩

/-- A day of a year lies in one of its twelve months, not before the first of that month. -/
theorem monthFromMarch_bounds {n : Int} (h : 0 ≤ n ∧ n ≤ 365) :
    (0 ≤ monthFromMarch n ∧ monthFromMarch n < 12) ∧ 0 ≤ n - monthStart (monthFromMarch n) := by
  unfold monthStart monthFromMarch
  omega

/-- The days up to a date that is given by its cycle, its year of the cycle and its month from
March. -/
theorem toDays_march {cycle year month n : Int} (hy : 0 ≤ year ∧ year < 400)
    (hm : 0 ≤ month ∧ month < 12) (hn : 0 ≤ n - monthStart month) :
    toDays (if month < 10 then
        ⟨year + 400 * cycle, (month + 3).toNat, (n - monthStart month + 1).toNat⟩
      else ⟨year + 400 * cycle + 1, (month - 9).toNat, (n - monthStart month + 1).toNat⟩) =
      cycle * 146097 + yearStart year + n - cycleOffset := by
  have h₁ : (year + 400 * cycle) / 400 = cycle := by omega
  have h₂ : (year + 400 * cycle) % 400 = year := by omega
  split
  · have hmonth : ¬ (month + 3).toNat ≤ 2 := by omega
    simp only [toDays, hmonth, if_false, h₁, h₂]
    rw [Int.toNat_of_nonneg (by omega), Int.toNat_of_nonneg (by omega), Int.add_sub_cancel]
    omega
  · have hmonth : (month - 9).toNat ≤ 2 := by omega
    simp only [toDays, hmonth, if_true, Int.add_sub_cancel, h₁, h₂]
    rw [Int.toNat_of_nonneg (by omega), Int.toNat_of_nonneg (by omega), Int.sub_add_cancel]
    omega

/-- **The date of a day lies as many days from the start as the day.** -/
theorem toDays_ofDays (days : Int) : (ofDays days).toDays = days := by
  obtain ⟨hy, hn⟩ := yearOfCycle_bounds (d := (days + cycleOffset) % 146097) (by omega)
  obtain ⟨hm, hd⟩ := monthFromMarch_bounds hn
  rw [ofDays, toDays_march hy hm hd]
  omega

/-- The first day of the count, a leap day, and a day before year `0`. -/
example : ofDays 0 = ⟨1970, 1, 1⟩ ∧ ofDays 11016 = ⟨2000, 2, 29⟩ ∧
    ofDays (-719529) = ⟨-1, 12, 31⟩ := by
  decide

end Date
end Paging
