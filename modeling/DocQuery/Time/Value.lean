import DocQuery.Time.Iso
import DocQuery.Value.Kind

/-! Times as values.

A time is an object tagged `TIME` with the seconds from the start of 1970 and a zone.
Without a zone it is read at Greenwich. -/
namespace DocQuery.Time

/-- The value of a moment. -/
def ofMoment (m : Moment) : Except Fault Json := do
  return .object [(tagKey, .string "TIME"), ("epoch_time", ← m.epoch.toJson),
    ("timezone", .string (Zone.text m.offset))]

/-- The seconds of a time that has them. -/
def epoch? (value : Json) : Option Binary64 :=
  if value.isTime then ((value.field? "epoch_time").bind Json.number?).map Number.toBinary64
  else none

def epoch (value : Json) : Except Fault Binary64 :=
  if value.isTime then
    match epoch? value with
    | some x => .ok x
    | none => .error .epochMissing
  else .error (.expectedTime value)

def moment (value : Json) : Except Fault Moment := do
  let seconds ← epoch value
  let offset ← match (value.field? "timezone").bind Json.string? with
    | some zone => Zone.read zone
    | none => pure 0
  Moment.ofEpoch (.finite seconds) offset

/-- The time a number of seconds later, in the same zone. -/
def shift (value : Json) (seconds : Extended) : Except Fault Json := do
  let m ← moment value
  let start ← epoch value
  ofMoment (← Moment.ofEpoch ((Extended.finite start).add seconds) m.offset)

/-! ### Making times -/

/-- The number without its fraction as an integer of 32 bits without a sign. -/
def word32 (x : Extended) : Nat := (x.clampedTo 0 (2 ^ 32 - 1)).toNat

/-- The date of three numbers. -/
def dateOf (year month day : Extended) : Calendar.Date :=
  ⟨year.clampedTo (-2 ^ 31) (2 ^ 31 - 1), word32 month, word32 day⟩

/-- The clock of three numbers, to the whole second. -/
def clockOf (hour minute second : Extended) : Clock :=
  ⟨word32 hour, word32 minute, word32 second, 0⟩

/-- Date, clock and fraction of the second of three or six fields. -/
def parts : List Extended → Option (Calendar.Date × Clock × Extended)
  | [year, month, day] => some (dateOf year month day, ⟨0, 0, 0, 0⟩, .ofInt 0)
  | [year, month, day, hour, minute, second] =>
    some (dateOf year month day, clockOf hour minute second, second.fract)
  | _ => none

/-- The zone at the end of the arguments, if there is one, and the other arguments. -/
def splitZone (args : List Json) : Except Fault (List Json × Int) :=
  match args.getLast? with
  | some (.string zone) => do return (args.dropLast, ← Zone.read zone)
  | _ => .ok (args, 0)

/-- A time from a year, month and day, then perhaps hour, minute and second, then
perhaps a zone. Parts after the point count in the seconds only. -/
def ofArguments (args : List Json) : Except Fault Json := do
  let (fields, offset) ← splitZone args
  unless fields.length = 3 ∨ fields.length = 6 do throw (.dateFieldCount fields.length)
  let numbers ← fields.mapM Json.asNumber
  match parts (numbers.map .finite) with
  | none => throw (.dateFieldCount fields.length)
  | some (date, clock, fraction) =>
    unless date.isValid && clock.isValid do throw .dateFieldsInvalid
    match Moment.ofLocal? date clock offset with
    | none => throw .dateFieldsInvalid
    | some m => ofMoment (← Moment.ofEpoch ((Extended.ofInt m.seconds).add fraction) offset)

def ofEpoch (seconds : Json) : Except Fault Json := do
  ofMoment (← Moment.ofEpoch (.finite (← seconds.asNumber)) 0)

/-- A time from text. The default zone is read only if the text names none. -/
def ofIso (text : Json) (defaultZone : Option Json) : Except Fault Json := do
  let text ← text.asString
  match Iso.moment? text.toList with
  | some m => ofMoment m
  | none =>
    let (date, clock) ← Iso.localTime text
    match defaultZone with
    | none => throw (.isoZoneMissing text)
    | some zone =>
      let offset ← Zone.read (← zone.asString)
      match Moment.ofLocal? date clock offset with
      | some m => ofMoment m
      | none => throw (.localTimeAmbiguous text)

/-! ### Taking times apart -/

/-- The same instant in another zone. -/
def inZone (value zone : Json) : Except Fault Json := do
  let offset ← Zone.read (← zone.asString)
  ofMoment { ← moment value with offset := offset }

def isoText (value : Json) : Except Fault Json := do
  return .string (Iso.text (← moment value))

/-- Midnight of the local day. -/
def date (value : Json) : Except Fault Json := do
  let m ← moment value
  match Moment.ofLocal? m.date ⟨0, 0, 0, 0⟩ m.offset with
  | some midnight => ofMoment midnight
  | none => throw .dateOutOfRange

/-- Seconds since local midnight. -/
def timeOfDay (value : Json) : Except Fault Json := do
  let m ← moment value
  ((Extended.ofInt m.secondOfDay).add (Moment.fraction m.nanos)).toJson

/-- A part of the local date or time, by the name of its accessor. -/
def component (value : Json) (accessor : String) : Except Fault Json := do
  let m ← moment value
  match accessor with
  | "year" => return .ofInt m.date.year
  | "month" => return .ofNat m.date.month
  | "day" => return .ofNat m.date.day
  | "dayOfWeek" => return .ofNat (Calendar.weekday m.day)
  | "dayOfYear" => return .ofNat m.date.ordinal
  | "hours" => return .ofNat m.hour
  | "minutes" => return .ofNat m.minute
  | "seconds" => ((Extended.ofInt m.second).add (Moment.fraction m.nanos)).toJson
  | other => throw (.unsupported s!"time accessor `{other}`")

/-- The time lies between two others; each end can be open or closed. -/
def during (value start stop : Json) (leftOpen rightClosed : Bool) : Except Fault Json := do
  let instant ← epoch value
  let start ← epoch start
  let stop ← epoch stop
  let afterStart := instant.order start == .gt || (!leftOpen && instant.order start == .eq)
  let beforeStop := instant.order stop == .lt || (rightClosed && instant.order stop == .eq)
  return .bool (afterStart && beforeStop)

end DocQuery.Time
