import DocQuery.Fault

/-! Time zones as offsets.

An offset is a number of seconds east of Greenwich, a whole number of minutes less
than a day. It is written as a sign, two digits of hours and two of minutes. Reading
is more lenient: `Z` is no offset, minutes can be left out, and each part is a decimal
integer of any length. -/
namespace DocQuery.Zone

/-- A decimal integer with an optional sign. -/
def integer? (text : List Char) : Option Int :=
  let (negative, digits) := Extended.splitSign text
  if digits.isEmpty || !digits.all Char.isDigit then none
  else
    let value : Int := Extended.digitsValue digits
    some (if negative then -value else value)

/-- The parts before and after the first colon; without one the minutes are zero. -/
def splitMinutes (text : List Char) : List Char × List Char :=
  match text.dropWhile (· != ':') with
  | _ :: minutes => (text.takeWhile (· != ':'), minutes)
  | [] => (text, ['0'])

/-- Hours and minutes in seconds. -/
def unsigned? (text : List Char) : Option Int := do
  let (hours, minutes) := splitMinutes text
  let hours ← integer? hours
  let minutes ← integer? minutes
  if 0 ≤ hours ∧ hours ≤ 23 ∧ 0 ≤ minutes ∧ minutes ≤ 59 then
    some (hours * 3600 + minutes * 60)
  else none

def offset? : List Char → Option Int
  | ['Z'] => some 0
  | '+' :: rest => unsigned? rest
  | '-' :: rest => (unsigned? rest).map (- ·)
  | _ => none

/-- The offset that a text names. -/
def read (text : String) : Except Fault Int :=
  match offset? text.toList with
  | some offset => .ok offset
  | none => .error (.zoneInvalid text)

/-- A number of at least two digits. -/
def twoDigits (n : Nat) : List Char :=
  let digits := (toString n).toList
  List.replicate (2 - digits.length) '0' ++ digits

/-- The text of an offset. -/
def text (offset : Int) : String :=
  let seconds := offset.natAbs
  let sign := if offset < 0 then '-' else '+'
  String.ofList (sign :: (twoDigits (seconds / 3600) ++ ':' :: twoDigits (seconds % 3600 / 60)))

end DocQuery.Zone
