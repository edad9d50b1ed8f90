import DocQuery.Run.Call
import DocQuery.Value.Arithmetic

/-! Operations that bring many items down to one value.

A selector names what counts of an item. Items that lack what it names are left out of
sums and extremes, and are grouped under `null`. -/
namespace DocQuery.Call

/-! ### Folding -/

def reduce (call : Call) (receiver : Json) : Run Json := do
  let function ← call.arg 1
  match ← receiver.asArray with
  | [] => throw .emptyReduce
  | first :: rest => rest.foldlM (fun sum item => function.apply [sum, item]) first

def fold (call : Call) (receiver : Json) : Run Json := do
  if (call.option? "emit").isSome then throw (.unsupported "FOLD with `emit`")
  let base ← (← call.arg 1).value
  let function ← call.arg 2
  (← receiver.asArray).foldlM (fun sum item => function.apply [sum, item]) base

/-! ### Counting and adding -/

/-- Counts the items that equal a value or pass a function's test. -/
def countItems (call : Call) (items : List Json) : Run Nat := do
  match call.args[1]? with
  | none => return items.length
  | some arg =>
    match arg.call? with
    | some f => items.foldlM (fun n item => do
        return if (← f [item]).truthy then n + 1 else n) 0
    | none =>
      let wanted ← arg.value
      return items.countP (Json.equals · wanted)

/-- The number of characters, fields or items. -/
def count (call : Call) (receiver : Json) : Run Json := do
  match receiver with
  | .string text => return .ofNat text.length
  | .array items => return .ofNat (← call.countItems items)
  | .object fields =>
    if Fields.has fields tagKey then throw (.notSequence receiver.kind)
    else return .ofNat fields.length
  | other => throw (.notSequence other.kind)

/-- What the selector finds in the items that have it; all items without a selector. -/
def projected (call : Call) (receiver : Json) : Run (List Json) := do
  let items ← receiver.asArray
  match call.args[1]? with
  | none => return items
  | some selector =>
    return (← items.mapM fun item => Run.found? (selector.select item)).filterMap id

def sum (call : Call) (receiver : Json) : Run Json := do
  (← Json.total (← call.projected receiver)).toJson

def average (call : Call) (receiver : Json) : Run Json := do
  let found ← call.projected receiver
  let total ← Json.total found
  if found.isEmpty then throw .emptyAverage
  (total.div (.ofInt found.length)).toJson

/-! ### Extremes -/

/-- What the extreme is taken of: the argument, the field of the `index` option, or the
items themselves. -/
def extremeSelector (call : Call) : Run (Option Operand) := do
  match call.args[1]? with
  | some arg => return some arg.toOperand
  | none => return (← call.index?).map fun (field, _) => .ofValue (.string field)

/-- The key of an item, unless it lacks it. -/
def keyFor (selector? : Option Operand) (item : Json) : Run (Option Json) :=
  match selector? with
  | some selector => Run.found? (selector.select item)
  | none => return some item

/-- Of two items with their keys, the later one if its key goes beyond the other's. -/
def better (wanted : Ordering) (best : Option (Json × Json)) (key item : Json) :
    Option (Json × Json) :=
  match best with
  | some (current, _) => if key.order current == wanted then some (key, item) else best
  | none => some (key, item)

/-- The first item whose key is smallest, or largest. -/
def extreme (call : Call) (wanted : Ordering) (receiver : Json) : Run Json := do
  let selector? ← call.extremeSelector
  let best ← (← receiver.asArray).foldlM (fun best item => do
    match ← keyFor selector? item with
    | some key => return better wanted best key item
    | none => return best) none
  match best with
  | some (_, item) => return item
  | none => throw (.emptyExtreme call.op)

/-! ### Distinct items and groups -/

def distinct (call : Call) (receiver : Json) : Run Json := do
  match ← call.index? with
  | some (field, _) =>
    return .array (Json.distinct ((← receiver.asArray).filterMap (·.field? field)))
  | none => return .array (Json.distinct (← receiver.asArray))

/-- Groups with their keys, each with its items from the last to the first. -/
abbrev Groups := List (Json × List Json)

/-- Adds an item to the first group whose key equals its own, or as a new group. -/
def Groups.add (groups : Groups) (key item : Json) : Groups :=
  match groups with
  | [] => [(key, [item])]
  | (k, items) :: rest =>
    if k.equals key then (k, item :: items) :: rest else (k, items) :: Groups.add rest key item

/-- The groups as a value, in order of their keys. -/
def Groups.toJson (groups : Groups) : Json :=
  let sorted := Sorting.stable (fun a b => a.1.order b.1) groups
  .ofFields [(tagKey, .string "GROUPED_DATA"),
    ("data", .array (sorted.map fun (key, items) => .array [key, .array items.reverse]))]

/-- The key of an item: one value, or the list of several. -/
def groupKey (selectors : List Operand) (item : Json) : Run Json := do
  let keys ← selectors.mapM fun selector =>
    return (← Run.found? (selector.select item)).getD .null
  return match keys with
    | [key] => key
    | keys => .array keys

def group (call : Call) (receiver : Json) : Run Json := do
  let indexSelector := (← call.index?).map fun (field, _) => Operand.ofValue (.string field)
  let selectors := indexSelector.toList ++ call.rest.map Argument.toOperand
  if selectors.isEmpty then throw .selectorMissing
  let groups ← (← receiver.asArray).foldlM (fun (groups : Groups) item =>
    return groups.add (← groupKey selectors item) item) []
  return groups.toJson

/-- The groups as a list of objects. Whatever is not a pair is left out. -/
def ungroup (receiver : Json) : Except Fault Json := do
  unless receiver.isGrouped do throw (.expected "GROUPED_DATA" receiver.kind)
  let data := ((receiver.field? "data").bind Json.array?).getD []
  return .array <| data.filterMap fun
    | .array [key, items] => some (.ofFields [("group", key), ("reduction", items)])
    | _ => none

end DocQuery.Call
