import DocQuery.Text.Blank
import DocQuery.Time.Moment

/-! Dates and times as ISO 8601 text.

Two forms are read. `moment?` takes the strict form with a zone: all fields at full
width, a `T` or a blank between date and time. `localTime` takes a lenient form
without a zone: fields may be short, and blanks may stand before each. -/
namespace DocQuery.Iso

/-- Why a text is no date and time. -/
inductive Defect where
  | outOfRange | invalid | tooShort | tooLong
  deriving DecidableEq, Repr

def Defect.text : Defect → String
  | .outOfRange => "input is out of range"
  | .invalid => "input contains invalid characters"
  | .tooShort => "premature end of input"
  | .tooLong => "trailing input"

/-- A reader takes something from the front of a text and gives the rest. -/
abbrev Reader (α : Type) := StateT (List Char) (Except Defect) α

/-! ### Parts -/

/-- A number of at least `least` digits; digits after the first `most` are left. -/
def number (least most : Nat) : Reader Nat := do
  let text ← get
  let digits := (text.take most).takeWhile Char.isDigit
  if digits.length < least then
    throw (if text.length < least then .tooShort else .invalid)
  set (text.drop digits.length)
  return Extended.digitsValue digits

/-- One character of a set. -/
def oneOf (wanted : List Char) : Reader Unit := do
  match ← get with
  | [] => throw .tooShort
  | c :: rest => if wanted.contains c then set rest else throw .invalid

/-- A number within bounds. -/
def bounded (low high : Nat) (reader : Reader Nat) : Reader Nat := do
  let n ← reader
  if low ≤ n ∧ n ≤ high then return n else throw .outOfRange

/-- A point and digits, of which nine count; without a point there are no nanoseconds. -/
def nanoseconds : Reader Nat := do
  match ← get with
  | '.' :: rest =>
    set rest
    let n ← number 1 9
    let taken := rest.length - (← get).length
    modify fun text => text.dropWhile Char.isDigit
    return n * 10 ^ (9 - taken)
  | _ => return 0

/-- Hours and minutes east of Greenwich, in seconds. -/
def offsetAfter (negative : Bool) (rest : List Char) : Reader Int := do
  set rest
  let hours ← number 2 2
  oneOf [':']
  let minutes ← bounded 0 59 (number 2 2)
  let seconds : Int := hours * 3600 + minutes * 60
  if hours ≤ 23 then return if negative then -seconds else seconds
  else throw .outOfRange

/-- A zone, with a hyphen or a minus sign for west. -/
def zone : Reader Int := do
  match ← get with
  | [] => throw .tooShort
  | c :: rest =>
    if c = 'Z' ∨ c = 'z' then
      set rest
      return 0
    else if c = '+' then offsetAfter false rest
    else if c = '-' ∨ c.toNat = 0x2212 then offsetAfter true rest
    else throw .invalid

def finish : Reader Unit := do
  unless (← get).isEmpty do throw .tooLong

/-- A sixtieth second is a leap second of the fifty-ninth. -/
def clock (hour minute second nanos : Nat) : Clock :=
  if second = 60 then ⟨hour, minute, 59, nanos + 10 ^ 9⟩ else ⟨hour, minute, second, nanos⟩

/-! ### The form with a zone -/

def zoned : Reader (Calendar.Date × Clock × Int) := do
  let year ← number 4 4
  oneOf ['-']
  let month ← bounded 1 12 (number 2 2)
  oneOf ['-']
  let day ← bounded 1 31 (number 2 2)
  oneOf ['T', 't', ' ']
  let hour ← bounded 0 23 (number 2 2)
  oneOf [':']
  let minute ← bounded 0 59 (number 2 2)
  oneOf [':']
  let second ← bounded 0 60 (number 2 2)
  let nanos ← nanoseconds
  let offset ← zone
  finish
  return (⟨year, month, day⟩, clock hour minute second nanos, offset)

/-- The moment that a text with a zone names. -/
def moment? (text : List Char) : Option Moment :=
  match zoned.run text with
  | .ok ((date, clock, offset), _) =>
    if date.isValid then Moment.ofLocal? date clock offset else none
  | .error _ => none

/-! ### The form without a zone -/

/-- A number of at most two digits after blanks. -/
def short (low high : Nat) : Reader Nat := do
  modify Text.trimStart
  bounded low high (number 1 2)

/-- The years that can be written; the calendar does not reach as far. -/
def isYear (year : Int) : Bool := -2 ^ 31 ≤ year && year < 2 ^ 31

/-- A year of four digits, or of any number of digits after a sign. -/
def year : Reader Int := do
  modify Text.trimStart
  let text ← get
  let year ← (do
    match text with
    | '-' :: rest =>
      set rest
      return -(← number 1 rest.length)
    | '+' :: rest =>
      set rest
      return ← number 1 rest.length
    | _ => return ← number 1 4 : Reader Int)
  if isYear year then return year else throw .outOfRange

def unzoned : Reader (Calendar.Date × Clock) := do
  let year ← year
  oneOf ['-']
  let month ← short 1 12
  oneOf ['-']
  let day ← short 1 31
  oneOf ['T']
  let hour ← short 0 23
  oneOf [':']
  let minute ← short 0 59
  oneOf [':']
  let second ← short 0 60
  let nanos ← nanoseconds
  finish
  if Calendar.Date.isValid ⟨year, month, day⟩ then
    return (⟨year, month, day⟩, clock hour minute second nanos)
  else throw .outOfRange

/-- The local date and time that a text without a zone names. -/
def localTime (text : String) : Except Fault (Calendar.Date × Clock) :=
  match unzoned.run text.toList with
  | .ok (value, _) => .ok value
  | .error defect => .error (.isoInvalid text defect.text)

/-! ### Writing -/

def padded (width n : Nat) : List Char :=
  let digits := (toString n).toList
  List.replicate (width - digits.length) '0' ++ digits

/-- Four digits, or a sign and at least four digits outside the years 0 to 9999. -/
def yearText (year : Int) : List Char :=
  if 0 ≤ year ∧ year ≤ 9999 then padded 4 year.toNat
  else (if year < 0 then '-' else '+') :: padded 4 year.natAbs

/-- Local date and time to the millisecond, and the zone. -/
def text (m : Moment) : String :=
  let date := m.date
  String.ofList (yearText date.year ++ '-' :: padded 2 date.month ++ '-' :: padded 2 date.day
    ++ 'T' :: padded 2 m.hour ++ ':' :: padded 2 m.minute ++ ':' :: padded 2 m.second
    ++ '.' :: padded 3 (m.nanos / 10 ^ 6)) ++ Zone.text m.offset

end DocQuery.Iso
