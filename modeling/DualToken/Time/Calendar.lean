/-!
# The calendar

Days are counted from the first of January 1970, and years are those of the Gregorian calendar
carried on in both directions. A cycle of four hundred years has 146097 days; inside it a century
has 36524 days but the last, four years have 1461 days but the last of a century, and a year has 365
days but the last of four. So the year of a day is found by dividing and, at the end of a cycle,
keeping to the last part.
-/

set_option autoImplicit false

namespace DualToken.Calendar

/-- Whether a year has a twenty-ninth of February. -/
def isLeap (year : Int) : Bool :=
  year % 4 = 0 && (year % 100 ≠ 0 || year % 400 = 0)

/-- The lengths of the months. -/
def monthLengths (leap : Bool) : List Nat :=
  [31, if leap then 29 else 28, 31, 30, 31, 30, 31, 31, 30, 31, 30, 31]

/-- The days from the first of January of the year 1 to that of 1970. -/
def daysBefore1970 : Int := 719162

/-- The number of the first day of a year. -/
def firstDay (year : Int) : Int :=
  let past := year - 1
  365 * past + past / 4 - past / 100 + past / 400 - daysBefore1970

/-- A day of the calendar. -/
structure Date where
  year : Int
  /-- How many months of the year are over. -/
  month : Nat
  /-- The day of the month, from 1 on. -/
  day : Nat
  deriving DecidableEq, Repr

/-- The days in the first months of a year. -/
def daysInMonths (leap : Bool) (months : Nat) : Nat :=
  ((monthLengths leap).take months).foldr (· + ·) 0

/-- The number of a day. -/
def Date.number (date : Date) : Int :=
  firstDay date.year + daysInMonths (isLeap date.year) date.month + (date.day - 1)

/-- The year of a day, and how many of its days are over. -/
def yearOf (number : Int) : Int × Nat :=
  let days := number + daysBefore1970
  let cycle := days / 146097
  let inCycle := days % 146097
  let century := min 3 (inCycle / 36524)
  let inCentury := inCycle - century * 36524
  let four := inCentury / 1461
  let inFour := inCentury % 1461
  let single := min 3 (inFour / 365)
  (400 * cycle + 100 * century + 4 * four + single + 1, (inFour - single * 365).toNat)

/-- The month and the day of the month behind so many days, in months of the given lengths; `passed`
months have passed before. -/
def monthOf : (lengths : List Nat) → (passed days : Nat) → Nat × Nat
  | [], passed, days => (passed, days + 1)
  | length :: later, passed, days =>
    if days < length then (passed, days + 1) else monthOf later (passed + 1) (days - length)

/-- The date of a day. -/
def Date.ofNumber (number : Int) : Date :=
  let (year, days) := yearOf number
  let (month, day) := monthOf (monthLengths (isLeap year)) 0 days
  ⟨year, month, day⟩

/-- The day of the week, counted from Monday. -/
def weekday (number : Int) : Nat :=
  ((number + 3) % 7).toNat

end DualToken.Calendar
