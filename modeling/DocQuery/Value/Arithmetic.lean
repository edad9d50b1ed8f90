import DocQuery.Time.Value

/-! Arithmetic on values.

Numbers are added, subtracted, multiplied and divided as binary64; the remainder is
one of 64-bit integers. Strings and arrays can be joined, an array can be repeated,
and times can be shifted and subtracted. -/
namespace DocQuery
namespace Json

/-- An array length that is not above the limit. -/
def boundedLength (length : Nat) : Except Fault Nat :=
  if length ≤ arrayLimit then .ok length else .error .arrayTooLong

def add (left right : Json) : Except Fault Json :=
  match left, right with
  | .number a, .number b => (a.toExtended.add b.toExtended).toJson
  | .string a, .string b => .ok (.string (a ++ b))
  | .array a, .array b => .ok (.array (a ++ b))
  | .object _, .number seconds =>
    if left.isTime then Time.shift left seconds.toExtended
    else .error (.cannotAdd left.kind right.kind)
  | _, _ => .error (.cannotAdd left.kind right.kind)

def sub (left right : Json) : Except Fault Json :=
  match left, right with
  | .number a, .number b => (a.toExtended.sub b.toExtended).toJson
  | .object _, .number seconds =>
    if left.isTime then Time.shift left seconds.toExtended.negate
    else .error (.cannotSubtract left.kind right.kind)
  | .object _, .object _ =>
    if left.isTime && right.isTime then do
      let a ← Time.epoch left
      let b ← Time.epoch right
      ((Extended.finite a).sub (.finite b)).toJson
    else .error (.cannotSubtract left.kind right.kind)
  | _, _ => .error (.cannotSubtract left.kind right.kind)

/-- The items one after another, a number of times. -/
def repeated (items : List Json) (times : Json) : Except Fault Json := do
  let times := (← times.asInteger).toNat
  let _ ← boundedLength (items.length * times)
  return .array (if items.isEmpty then [] else (List.replicate times items).flatten)

def mul (left right : Json) : Except Fault Json :=
  match left, right with
  | .number a, .number b => (a.toExtended.mul b.toExtended).toJson
  | .array items, .number _ => repeated items right
  | .number _, .array items => repeated items left
  | _, _ => .error (.cannotMultiply left.kind right.kind)

def div (left right : Json) : Except Fault Json := do
  let divisor ← right.asNumber
  if divisor.ulps = 0 then throw .divisionByZero
  let dividend ← left.asNumber
  ((Extended.finite dividend).div (.finite divisor)).toJson

/-- The remainder, with the sign of the dividend. -/
def modulo (left right : Json) : Except Fault Json := do
  let divisor ← right.asInteger
  if divisor = 0 then throw .moduloZero
  let dividend ← left.asInteger
  if dividend = -2 ^ 63 ∧ divisor = -1 then throw .moduloOverflow
  return .ofInt (dividend.tmod divisor)

/-- The sum of numbers, rounded after each addition. -/
def total (values : List Json) : Except Fault Extended := do
  let numbers ← values.mapM asNumber
  return numbers.foldl (fun sum x => sum.add (.finite x)) (.ofInt 0)

end Json

end DocQuery
