import DocQuery.Time.Calendar
import DocQuery.Time.Zone

/-! Moments.

A moment is an instant, in seconds and nanoseconds from the start of 1970, with the
offset of the zone in which it is read. Clock and calendar show the local time. -/
namespace DocQuery

/-- Days from the first day of year one to the start of 1970. -/
def epochDay : Int := Calendar.daysBeforeYear 1970

structure Moment where
  seconds : Int
  nanos : Nat
  offset : Int
  deriving DecidableEq, Repr

/-- A time of day. Nanoseconds from `10 ^ 9` on belong to a leap second. -/
structure Clock where
  hour : Nat
  minute : Nat
  second : Nat
  nanos : Nat
  deriving DecidableEq, Repr

/-- Within a day that has no leap second. -/
def Clock.isValid (clock : Clock) : Bool :=
  clock.hour < 24 && clock.minute < 60 && clock.second < 60

/-- Seconds from the start of 1970 to a day and a second of it. -/
def secondsOf (days : Int) (secondOfDay : Int) : Int := (days - epochDay) * 86400 + secondOfDay

namespace Moment

def firstSecond : Int := secondsOf (Calendar.Date.toDays ⟨Calendar.firstYear, 1, 1⟩) 0

def lastSecond : Int := secondsOf (Calendar.Date.toDays ⟨Calendar.lastYear, 12, 31⟩) 86399

/-- The instant lies in the years that dates can have. -/
def inRange (seconds : Int) : Bool := firstSecond ≤ seconds && seconds ≤ lastSecond

/-! ### Local time -/

def localSeconds (m : Moment) : Int := m.seconds + m.offset

/-- The local day, counted from the first day of year one. -/
def day (m : Moment) : Int := m.localSeconds / 86400 + epochDay

def date (m : Moment) : Calendar.Date := .ofDays m.day

def secondOfDay (m : Moment) : Nat := (m.localSeconds % 86400).toNat

def hour (m : Moment) : Nat := m.secondOfDay / 3600

def minute (m : Moment) : Nat := m.secondOfDay / 60 % 60

def second (m : Moment) : Nat := m.secondOfDay % 60

/-- The instant of a local date and time, unless it is out of range. -/
def ofLocal? (date : Calendar.Date) (clock : Clock) (offset : Int) : Option Moment :=
  let seconds :=
    secondsOf date.toDays ((clock.hour * 60 + clock.minute) * 60 + clock.second : Nat) - offset
  if inRange seconds then some ⟨seconds, clock.nanos, offset⟩ else none

/-! ### Seconds as numbers -/

/-- Nanoseconds as a part of a second. -/
def fraction (nanos : Nat) : Extended := (Extended.ofInt nanos).div (.ofInt (10 ^ 9))

/-- Seconds from the start of 1970. -/
def epoch (m : Moment) : Extended := (Extended.ofInt m.seconds).add (fraction m.nanos)

/-- The moment a number of seconds from the start of 1970. Nanoseconds are rounded, but
never up into the next second. -/
def ofEpoch (seconds : Extended) (offset : Int) : Except Fault Moment :=
  let whole := seconds.floor
  let nanos := ((seconds.sub whole).mul (.ofInt (10 ^ 9))).round
  let instant := whole.toInt64
  if inRange instant then .ok ⟨instant, (nanos.clampedTo 0 999999999).toNat, offset⟩
  else .error (.timeOutOfRange seconds)

end Moment

end DocQuery
