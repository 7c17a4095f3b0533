/-!
The proleptic Gregorian calendar: dates and day numbers, counted from 1970-01-01. Internally a
year starts in March, so that a leap day is the last day of its year.
-/

namespace GatedRelay

structure Date where
  year : Int
  month : Nat
  day : Nat
  deriving DecidableEq

namespace Calendar

def isLeapYear (year : Int) : Bool := year % 4 = 0 && (year % 100 ≠ 0 || year % 400 = 0)

def daysInMonth (year : Int) (month : Nat) : Nat :=
  if month = 2 then if isLeapYear year then 29 else 28
  else if month = 4 ∨ month = 6 ∨ month = 9 ∨ month = 11 then 30
  else 31

/-- The day number of 1 March of year 0. -/
def marchEpoch : Int := -719468

/-- Days before a month of a year that starts in March. -/
def daysBeforeMonth (monthFromMarch : Nat) : Nat := (153 * monthFromMarch + 2) / 5

def dayNumber (date : Date) : Int :=
  let y := if date.month ≤ 2 then date.year - 1 else date.year
  let m := if date.month ≤ 2 then date.month + 9 else date.month - 3
  365 * y + y / 4 - y / 100 + y / 400 + (daysBeforeMonth m : Int) + (date.day : Int) - 1 +
    marchEpoch

/-- Of a day of 400 years, the number of whole years before it and the day within the year. -/
def splitEra (day : Nat) : Nat × Nat :=
  let century := min (day / 36524) 3
  let dayOfCentury := day - 36524 * century
  let quad := dayOfCentury / 1461
  let dayOfQuad := dayOfCentury % 1461
  let year := min (dayOfQuad / 365) 3
  (100 * century + 4 * quad + year, dayOfQuad - 365 * year)

def ofDayNumber (n : Int) : Date :=
  let shifted := n - marchEpoch
  let era := shifted / 146097
  let (years, dayOfYear) := splitEra (shifted % 146097).toNat
  let m := (5 * dayOfYear + 2) / 153
  let month := if m < 10 then m + 3 else m - 9
  let y := 400 * era + years
  ⟨if month ≤ 2 then y + 1 else y, month, dayOfYear - daysBeforeMonth m + 1⟩

/-- Sunday is zero. -/
def dayOfWeek (n : Int) : Nat := ((n + 4) % 7).toNat

/-- The first of January is zero. -/
def dayOfYear (date : Date) : Int := dayNumber date - dayNumber ⟨date.year, 1, 1⟩

end Calendar

end GatedRelay
