import DocQuery.Digest.Uuid
import DocQuery.Json.Reader
import DocQuery.Run.Call
import DocQuery.Value.Arithmetic

/-! Control flow, and operations that make values. -/
namespace DocQuery.Call

/-! ### Choosing what is run -/

/-- The first case whose test holds, else the last argument. Only what is chosen is
run. -/
def choose (otherwise : Argument) : (cases : List Argument) → Run Datum
  | test :: result :: rest => do
    if (← test.value).truthy then result.run else choose otherwise rest
  | _ => otherwise.run

def branch (call : Call) : Run Datum := do
  match call.args.getLast? with
  | none => throw .elseMissing
  | some otherwise =>
    let cases := call.args.dropLast
    if cases.isEmpty || cases.length % 2 != 0 then throw .evenBranch
    choose otherwise cases

/-- Stands in for `null` and for missing data, of which a function is told. -/
def default (call : Call) : Run Json := do
  let fallback ← call.arg 1
  let value ← call.arg 0
  match ← Run.caught Fault.isMissing value.value with
  | .ok .null => fallback.apply [.null]
  | .ok value => return value
  | .error fault => fallback.apply [.string fault.message]

/-- The first value that does not hold, else the last one. -/
def allHold (last : Json) : List Argument → Run Json
  | [] => return last
  | arg :: rest => do
    let value ← arg.value
    if value.truthy then allHold value rest else return value

/-- The first value that holds, else `false`. -/
def someHolds : List Argument → Run Json
  | [] => return .bool false
  | arg :: rest => do
    let value ← arg.value
    if value.truthy then return value else someHolds rest

/-- Calls the first argument on the values of the others. -/
def invoke (call : Call) : Run Json := do
  match call.args with
  | [] => throw (.functionMissing .funcall)
  | function :: args => function.apply (← values args)

def error {α : Type} (call : Call) : Run α := do
  match call.args.head? with
  | some message => throw (.user (← message.string))
  | none => throw (.user "User error.")

/-! ### Making values -/

/-- A marker that holds a value, or none. -/
def literal (call : Call) : Run Json := do
  let held ← match call.args.head? with
    | some value => pure [("value", ← value.value)]
    | none => pure []
  return .ofFields ((tagKey, .string "LITERAL") :: held)

/-- Fields from keys and values in turn, each key once. -/
def pairUp (fields : Fields Json) : List Json → Except Fault (Fields Json)
  | key :: value :: rest => do
    let key ← key.asString
    if fields.has key then throw (.duplicateKey key)
    pairUp (fields.insert key value) rest
  | _ => return fields

def object (call : Call) : Run Json := do
  let values ← values call.args
  if values.length % 2 != 0 then throw .oddObject
  return .object (← pairUp [] values)

/-- The integers from one up to another, if they are not too many and their distance
is one of 64 bits. -/
def integers (start stop : Int) : Except Fault Json := do
  if stop - start < -2 ^ 63 then throw .arrayTooLong
  let length ← Json.boundedLength (stop - start).toNat
  return .array ((List.range length).map fun (i : Nat) => .ofInt (start + i))

def range (call : Call) : Run Json := do
  match call.args with
  | [] => throw .infiniteRange
  | [stop] => integers 0 (← stop.integer)
  | start :: stop :: _ =>
    let start ← start.integer
    integers start (← stop.integer)

def identifier (call : Call) : Run Json := do
  match call.args.head? with
  | some name => return .string (Uuid.text (Uuid.ofName (← name.string)))
  | none => return .string (Uuid.text (Uuid.ofRandom (← Run.draw)))

def readJson (call : Call) : Run Json := do
  match Json.read? (← (← call.arg 0).string) with
  | some value => return value
  | none => throw .unreadableJson

/-! ### Random numbers -/

/-- A random number from zero up to one, in steps of `2 ^ -53`. -/
def unit : Run Extended := return .ofFraction false ((← Run.draw) % 2 ^ 53) (2 ^ 53)

/-- A random real number from one number up to another. A sum that is rounded up to the
upper one counts as the lower one. -/
def randomReal (lower upper : Binary64) : Run Json := do
  unless lower.order upper == .lt do throw .randomBounds
  let width := (Extended.finite upper).sub (.finite lower)
  match ((← unit).mul width).add (.finite lower) with
  | .finite x => (Extended.finite (if x.order upper == .lt then x else lower)).toJson
  | other => other.toJson

def randomInteger (lower upper : Int) : Run Json := do
  unless lower < upper do throw .randomBounds
  return .ofInt (lower + (← Run.draw) % (upper - lower))

/-- A random number below a bound or between two; a whole one unless reals are asked
for. -/
def random (call : Call) : Run Json := do
  let bounds (lower upper : Json) : Run Json := do
    if call.flag "float" then
      let lower ← lower.asNumber
      randomReal lower (← upper.asNumber)
    else
      let lower ← lower.asInteger
      randomInteger lower (← upper.asInteger)
  match ← values call.args with
  | [] => (← unit).toJson
  | [upper] => bounds (.ofNat 0) upper
  | lower :: upper :: _ => bounds lower upper

end DocQuery.Call
