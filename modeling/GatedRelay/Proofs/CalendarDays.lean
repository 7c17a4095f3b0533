import GatedRelay.Time.Calendar
import Mathlib.Algebra.Order.Ring.Int
import Mathlib.Tactic.IntervalCases

/-!
# Days of the Gregorian calendar

The number of a day is found by counting years and months up to it, and each day number has its
date.
-/

namespace GatedRelay.Calendar

def daysInYear (year : Int) : Nat := if isLeapYear year then 366 else 365

/-- The days of so many years, from a first one on. -/
def daysInYears (first : Int) : Nat → Nat
  | 0 => 0
  | count + 1 => daysInYears first count + daysInYear (first + count)

/-- The days of the first so many months of a year. -/
def daysInMonths (year : Int) : Nat → Nat
  | 0 => 0
  | count + 1 => daysInMonths year count + daysInMonth year (count + 1)

/-- Days from the first of January 1970 to that of another year, counted year by year. -/
def daysToYear (year : Int) : Int :=
  (daysInYears 1970 (year - 1970).toNat : Int) - daysInYears year (1970 - year).toNat

/-- The days since the first of January 1970. -/
def days (year month day : Int) : Int :=
  daysToYear year + daysInMonths year (month - 1).toNat + (day - 1)

/-! ### Counting -/

/-- The day that a leap year has more is one of every fourth year, but not of every hundredth unless
it is a four hundredth. -/
lemma leapDay_eq (year : Int) : (if isLeapYear year then 1 else 0 : Int) =
    (year / 4 - (year - 1) / 4) - (year / 100 - (year - 1) / 100) +
      (year / 400 - (year - 1) / 400) := by
  simp only [isLeapYear, Bool.and_eq_true, Bool.or_eq_true, decide_eq_true_eq]
  split <;> omega

lemma daysInYear_eq (year : Int) :
    (daysInYear year : Int) = 365 + if isLeapYear year then 1 else 0 := by
  rw [daysInYear]
  split <;> rfl

lemma daysInMonth_two_eq (year : Int) :
    (daysInMonth year 2 : Int) = 28 + if isLeapYear year then 1 else 0 := by
  rw [daysInMonth, if_pos rfl]
  split <;> rfl

lemma dayNumber_next_year (year : Int) :
    dayNumber ⟨year + 1, 1, 1⟩ = dayNumber ⟨year, 1, 1⟩ + daysInYear year := by
  simp only [dayNumber, daysInYear_eq, leapDay_eq]
  norm_num
  omega

lemma dayNumber_add_years (year : Int) (count : Nat) :
    dayNumber ⟨year + count, 1, 1⟩ = dayNumber ⟨year, 1, 1⟩ + daysInYears year count := by
  induction count with
  | zero => simp [daysInYears]
  | succ count ih =>
    rw [Nat.cast_add_one, ← add_assoc, dayNumber_next_year, ih, daysInYears]
    omega

lemma daysToYear_eq (year : Int) : daysToYear year = dayNumber ⟨year, 1, 1⟩ := by
  have hepoch : dayNumber ⟨1970, 1, 1⟩ = 0 := by decide
  unfold daysToYear
  by_cases h : 1970 ≤ year
  · have hyear : 1970 + ((year - 1970).toNat : Int) = year := by omega
    have hnone : (1970 - year).toNat = 0 := by omega
    have hadd := dayNumber_add_years 1970 (year - 1970).toNat
    rw [hyear, hepoch] at hadd
    rw [hadd, hnone, daysInYears]
    omega
  · have hyear : year + ((1970 - year).toNat : Int) = 1970 := by omega
    have hnone : (year - 1970).toNat = 0 := by omega
    have hadd := dayNumber_add_years year (1970 - year).toNat
    rw [hyear, hepoch] at hadd
    rw [hnone, daysInYears]
    omega

lemma dayNumber_next_month {year : Int} {month : Nat} (hfirst : 1 ≤ month) (hlast : month < 12) :
    dayNumber ⟨year, month + 1, 1⟩ = dayNumber ⟨year, month, 1⟩ + daysInMonth year month := by
  by_cases h : month = 2
  · -- After February the count goes on in another year from March to February.
    subst h
    simp only [dayNumber, daysBeforeMonth, daysInMonth_two_eq, leapDay_eq]
    norm_num
    omega
  · interval_cases month <;> simp [dayNumber, daysBeforeMonth, daysInMonth] at h ⊢ <;> omega

lemma dayNumber_add_months (year : Int) {count : Nat} (hcount : count < 12) :
    dayNumber ⟨year, count + 1, 1⟩ = dayNumber ⟨year, 1, 1⟩ + daysInMonths year count := by
  induction count with
  | zero => simp [daysInMonths]
  | succ count ih =>
    rw [dayNumber_next_month (Nat.le_add_left 1 count) hcount, ih (by omega), daysInMonths]
    omega

/-- The number of a day is its distance from the first of January 1970. -/
theorem days_eq_dayNumber {date : Date} (hfirst : 1 ≤ date.month) (hlast : date.month ≤ 12) :
    days date.year date.month date.day = dayNumber date := by
  obtain ⟨count, hmonth⟩ := Nat.exists_eq_add_of_le' hfirst
  have hmonths := dayNumber_add_months date.year (hmonth ▸ hlast)
  have hcount : ((date.month : Int) - 1).toNat = count := by omega
  rw [← hmonth] at hmonths
  rw [days, daysToYear_eq, hcount, ← hmonths]
  simp only [dayNumber]
  omega

/-! ### Dates -/

/-- The months of the calendar and the days that they have. -/
structure IsDate (date : Date) : Prop where
  first_month : 1 ≤ date.month
  last_month : date.month ≤ 12
  first_day : 1 ≤ date.day
  last_day : date.day ≤ daysInMonth date.year date.month

lemma daysInMonth_le (year : Int) (month : Nat) : daysInMonth year month ≤ 31 := by
  unfold daysInMonth
  split_ifs <;> decide

namespace IsDate

variable {date : Date}

theorem dayOfYear_eq (h : IsDate date) :
    dayOfYear date = days date.year date.month date.day - days date.year 1 1 := by
  have hfirst := @days_eq_dayNumber ⟨date.year, 1, 1⟩ le_rfl (Nat.le_add_left 1 11)
  rw [dayOfYear, days_eq_dayNumber h.first_month h.last_month, ← hfirst]
  rfl

lemma natAbs_dayOfYear_le (h : IsDate date) : (dayOfYear date).natAbs ≤ 400 := by
  have hmonth := h.last_month
  have hday := h.last_day.trans (daysInMonth_le _ _)
  simp only [dayOfYear, dayNumber, daysBeforeMonth, Nat.one_le_ofNat, if_true]
  split <;> omega

end IsDate

/-- A day of 400 years is so many days after the start of a year. Only a year that ends with a leap
day has a day 365. -/
lemma splitEra_spec {day years dayOfYear : Nat} (hday : day < 146097)
    (h : splitEra day = (years, dayOfYear)) :
    day + years / 100 = 365 * years + years / 4 + dayOfYear ∧ years < 400 ∧ dayOfYear ≤ 365 ∧
      (dayOfYear = 365 → (years + 1) % 4 = 0 ∧ ((years + 1) % 100 ≠ 0 ∨ (years + 1) % 400 = 0)) := by
  obtain ⟨rfl, rfl⟩ := Prod.mk.inj h
  -- Four hundred years are three centuries and a longer one, which is one day longer than they are.
  obtain ⟨century, hcentury⟩ : ∃ century, century = min (day / 36524) 3 := ⟨_, rfl⟩
  obtain ⟨rest, hrest⟩ : ∃ rest, rest = day - 36524 * century := ⟨_, rfl⟩
  have hbound : century ≤ 3 ∧ day = 36524 * century + rest ∧ rest ≤ 36524 ∧
      (century < 3 → rest < 36524) := by omega
  obtain ⟨year, hyear⟩ : ∃ year, year = min (rest % 1461 / 365) 3 := ⟨_, rfl⟩
  rw [← hcentury, ← hrest, ← hyear]
  have hquad : rest = 1461 * (rest / 1461) + rest % 1461 := (Nat.div_add_mod rest 1461).symm
  have hyears4 : (100 * century + 4 * (rest / 1461) + year) / 4 = 25 * century + rest / 1461 := by
    omega
  have hyears100 : (100 * century + 4 * (rest / 1461) + year) / 100 = century := by omega
  rw [hyears4, hyears100]
  refine ⟨by omega, by omega, by omega, fun hlast => ?_⟩
  have hlastDay : year = 3 ∧ rest % 1461 = 1460 := by omega
  omega

/-- The date of a day of a year that starts in March. -/
def marchDate (year : Int) (dayOfYear : Nat) : Date :=
  let m := (5 * dayOfYear + 2) / 153
  let month := if m < 10 then m + 3 else m - 9
  ⟨if month ≤ 2 then year + 1 else year, month, dayOfYear - daysBeforeMonth m + 1⟩

/-- Where a day lies in a year that starts in March. -/
lemma marchMonth_spec {dayOfYear : Nat} (hday : dayOfYear ≤ 365) :
    (5 * dayOfYear + 2) / 153 ≤ 11 ∧
      daysBeforeMonth ((5 * dayOfYear + 2) / 153) ≤ dayOfYear ∧
      dayOfYear < daysBeforeMonth ((5 * dayOfYear + 2) / 153 + 1) := by
  unfold daysBeforeMonth
  omega

lemma daysBeforeMonth_succ (year : Int) {m : Nat} (hm : m < 11) :
    daysBeforeMonth (m + 1) =
      daysBeforeMonth m + daysInMonth year (if m < 10 then m + 3 else m - 9) := by
  interval_cases m <;> rfl

lemma isDate_marchDate {year : Int} {dayOfYear : Nat} (hday : dayOfYear ≤ 365)
    (hleap : dayOfYear = 365 → isLeapYear (year + 1) = true) :
    IsDate (marchDate year dayOfYear) := by
  obtain ⟨hm, hlow, hhigh⟩ := marchMonth_spec hday
  unfold marchDate
  generalize (5 * dayOfYear + 2) / 153 = m at hm hlow hhigh
  by_cases h : m < 11
  · rw [daysBeforeMonth_succ (if (if m < 10 then m + 3 else m - 9) ≤ 2 then year + 1 else year) h]
      at hhigh
    constructor
    · dsimp only
      split <;> omega
    · dsimp only
      split <;> omega
    · exact Nat.succ_pos _
    · dsimp only
      omega
  · obtain rfl : m = 11 := by omega
    refine ⟨Nat.le_succ 1, Nat.le_add_left 2 10, Nat.succ_pos _, ?_⟩
    change dayOfYear - 337 + 1 ≤ if isLeapYear (year + 1) then 29 else 28
    split
    · omega
    · next hcommon =>
      have hne : dayOfYear ≠ 365 := fun hlast => hcommon (hleap hlast)
      omega

lemma dayNumber_marchDate {year : Int} {dayOfYear : Nat} (hday : dayOfYear ≤ 365) :
    dayNumber (marchDate year dayOfYear) =
      365 * year + year / 4 - year / 100 + year / 400 + dayOfYear + marchEpoch := by
  obtain ⟨hm, hlow, -⟩ := marchMonth_spec hday
  unfold marchDate
  generalize (5 * dayOfYear + 2) / 153 = m at hm hlow
  by_cases h : m < 10
  · simp only [dayNumber, h, if_true]
    rw [if_neg (by omega), if_neg (by omega), if_neg (by omega), Nat.add_sub_cancel]
    omega
  · simp only [dayNumber, h, if_false]
    rw [if_pos (by omega), if_pos (by omega), if_pos (by omega), Nat.sub_add_cancel (by omega)]
    omega

/-- The date of a day number, as a day of a year that starts in March. -/
lemma exists_marchDate (n : Int) :
    ∃ (year : Int) (dayOfYear : Nat), ofDayNumber n = marchDate year dayOfYear ∧
      dayOfYear ≤ 365 ∧ (dayOfYear = 365 → isLeapYear (year + 1) = true) ∧
      n = 365 * year + year / 4 - year / 100 + year / 400 + dayOfYear + marchEpoch := by
  have hday : ((n - marchEpoch) % 146097).toNat < 146097 := by omega
  obtain ⟨years, dayOfYear, hsplit⟩ : ∃ years dayOfYear,
      splitEra ((n - marchEpoch) % 146097).toNat = (years, dayOfYear) := ⟨_, _, rfl⟩
  obtain ⟨hsum, hyears, hle, hlast⟩ := splitEra_spec hday hsplit
  refine ⟨400 * ((n - marchEpoch) / 146097) + years, dayOfYear, ?_, hle, fun h => ?_, ?_⟩
  · rw [ofDayNumber, hsplit]
    rfl
  · obtain ⟨hfour, hhundred⟩ := hlast h
    simp only [isLeapYear, Bool.and_eq_true, Bool.or_eq_true, decide_eq_true_eq]
    omega
  · have hfour : (400 * ((n - marchEpoch) / 146097) + (years : Int)) / 4 =
        100 * ((n - marchEpoch) / 146097) + years / 4 := by omega
    have hhundred : (400 * ((n - marchEpoch) / 146097) + (years : Int)) / 100 =
        4 * ((n - marchEpoch) / 146097) + years / 100 := by omega
    have hera : (400 * ((n - marchEpoch) / 146097) + (years : Int)) / 400 =
        (n - marchEpoch) / 146097 := by omega
    rw [hfour, hhundred, hera]
    omega

lemma natAbs_year_ofDayNumber_le (n : Int) : (ofDayNumber n).year.natAbs ≤ n.natAbs + 1970 := by
  obtain ⟨year, dayOfYear, hdate, hday, -, hn⟩ := exists_marchDate n
  rw [hdate, marchDate]
  rw [marchEpoch] at hn
  dsimp only
  split <;> omega

theorem isDate_ofDayNumber (n : Int) : IsDate (ofDayNumber n) := by
  obtain ⟨year, dayOfYear, hdate, hday, hleap, -⟩ := exists_marchDate n
  rw [hdate]
  exact isDate_marchDate hday hleap

theorem dayNumber_ofDayNumber (n : Int) : dayNumber (ofDayNumber n) = n := by
  obtain ⟨year, dayOfYear, hdate, hday, -, hn⟩ := exists_marchDate n
  rw [hdate, dayNumber_marchDate hday, ← hn]

/-- The date of a day number is the one that it counts the days to. -/
theorem days_ofDayNumber (n : Int) :
    days (ofDayNumber n).year (ofDayNumber n).month (ofDayNumber n).day = n := by
  have hdate := isDate_ofDayNumber n
  rw [days_eq_dayNumber hdate.first_month hdate.last_month, dayNumber_ofDayNumber]

end GatedRelay.Calendar
