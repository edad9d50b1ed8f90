/-! The Gregorian calendar, extended without change to all years.

Days are counted from the first of January of year one. `Date.toDays` and
`Date.ofDays` go between dates and that count. The year of a day is guessed from the
mean length of a year and corrected by at most one. -/
namespace DocQuery.Calendar

def isLeap (year : Int) : Bool := year % 4 == 0 && (year % 100 != 0 || year % 400 == 0)

/-- Days before the first day of a year. -/
def daysBeforeYear (year : Int) : Int :=
  let past := year - 1
  365 * past + past / 4 - past / 100 + past / 400

/-- Days of a year before the first day of a month, by a table and a leap day. -/
def daysBeforeMonth (leap : Bool) (month : Nat) : Nat :=
  let table := [0, 0, 31, 59, 90, 120, 151, 181, 212, 243, 273, 304, 334, 365]
  (table[month]?).getD 365 + if leap && 2 < month then 1 else 0

def daysInMonth (leap : Bool) (month : Nat) : Nat :=
  daysBeforeMonth leap (month + 1) - daysBeforeMonth leap month

/-- A day of a year of the calendar. Months and days count from one. -/
structure Date where
  year : Int
  month : Nat
  day : Nat
  deriving DecidableEq, Repr

/-- The first and the last year that dates can have. -/
def firstYear : Int := -262143
def lastYear : Int := 262142

namespace Date

def isValid (date : Date) : Bool :=
  firstYear ≤ date.year && date.year ≤ lastYear && 1 ≤ date.month && date.month ≤ 12 &&
    1 ≤ date.day && date.day ≤ daysInMonth (isLeap date.year) date.month

/-- Days from the first day of year one. -/
def toDays (date : Date) : Int :=
  daysBeforeYear date.year + (daysBeforeMonth (isLeap date.year) date.month + date.day : Nat) - 1

end Date

/-- The year that a day lies in. -/
def yearOfDay (days : Int) : Int :=
  let guess := 400 * days / 146097 + 1
  if days < daysBeforeYear guess then guess - 1
  else if daysBeforeYear (guess + 1) ≤ days then guess + 1
  else guess

/-- The last month from `month` down that starts at or before the day of the year. -/
def monthOfDay (leap : Bool) (ordinal : Nat) : Nat → Nat
  | 0 => 1
  | month + 1 =>
    if daysBeforeMonth leap (month + 1) ≤ ordinal then month + 1
    else monthOfDay leap ordinal month

namespace Date

def ofDays (days : Int) : Date :=
  let year := yearOfDay days
  let ordinal := (days - daysBeforeYear year).toNat
  let month := monthOfDay (isLeap year) ordinal 12
  ⟨year, month, ordinal - daysBeforeMonth (isLeap year) month + 1⟩

/-- The day of the year, from one. -/
def ordinal (date : Date) : Nat := daysBeforeMonth (isLeap date.year) date.month + date.day

end Date

/-- The day of the week, from one for Monday; year one began on a Monday. -/
def weekday (days : Int) : Nat := (days % 7).toNat + 1

end DocQuery.Calendar
