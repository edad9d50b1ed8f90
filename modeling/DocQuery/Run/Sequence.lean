import DocQuery.Run.Call
import DocQuery.Value.Document
import DocQuery.Value.Index

/-! Operations on arrays as sequences.

Functions are called on the items from the first to the last, and the first fault
ends the operation. -/
namespace DocQuery.Call

/-! ### Mapping -/

/-- Item by item through several sequences, as far as the shortest one goes. -/
def columnsToRows : List (List Json) → List (List Json)
  | [] => []
  | [column] => column.map ([·])
  | column :: rest => column.zipWith (· :: ·) (columnsToRows rest)

/-- Calls the last argument on the items of all sequences before it. -/
def map (call : Call) (receiver : Json) : Run Json := do
  match call.rest.getLast? with
  | none => throw (.functionMissing .map)
  | some function =>
    let first ← receiver.asArray
    let others ← call.rest.dropLast.mapM fun arg => do (← arg.run).sequence
    return .array (← (columnsToRows (first :: others)).mapM function.apply)

/-- Calls a function that gives lists, and joins them. -/
def concatMap (call : Call) (receiver : Json) : Run Json := do
  let function ← call.arg 1
  let lists ← (← receiver.asArray).mapM fun item => do
    match ← function.apply [item] with
    | .array items => return items
    | other => throw (.notSequence other.kind)
  return .array lists.flatten

/-! ### Searching -/

/-- The test that an argument makes: a call of a function, or equality with a value
that is worked out once. -/
def matcher (arg : Argument) : Run (Json → Run Bool) := do
  match arg.call? with
  | some f => return fun item => return (← f [item]).truthy
  | none =>
    let wanted ← arg.value
    return fun item => return item.equals wanted

/-- The positions at which a list says yes. -/
def positions (verdicts : List Bool) : List Nat :=
  verdicts.zipIdx.filterMap fun (verdict, position) => if verdict then some position else none

def offsetsOf (call : Call) (receiver : Json) : Run Json := do
  let test ← matcher (← call.arg 1)
  let verdicts ← (← receiver.asArray).mapM test
  return .array ((positions verdicts).map Json.ofNat)

/-- Some item passes the test; the items after it are not tested. -/
def anyPasses (test : Json → Run Bool) : List Json → Run Bool
  | [] => return false
  | item :: rest => do if ← test item then return true else anyPasses test rest

/-- Every argument is among the items; the first that is not ends the search. -/
def allContained (items : List Json) : List Argument → Run Bool
  | [] => return true
  | arg :: rest => do
    let test ← matcher arg
    if ← anyPasses test items then allContained items rest else return false

def contains (call : Call) (receiver : Json) : Run Json := do
  return .bool (← allContained (← receiver.asArray) call.rest)

/-! ### Joining and choosing -/

def union (call : Call) (receiver : Json) : Run Json := do
  let first ← receiver.asArray
  let others ← call.rest.mapM fun arg => do (← arg.run).sequence
  return .array (first ++ others.flatten)

/-- Gives each item a random number and takes those with the smallest ones. -/
def sample (call : Call) (receiver : Json) : Run Json := do
  let count := (← (← call.arg 1).integer).toNat
  let tickets ← (← receiver.asArray).mapM fun item => return (← Run.draw, item)
  return .array (((tickets.mergeSort fun a b => a.1 ≤ b.1).map Prod.snd).take count)

/-! ### Positions -/

def bracket (call : Call) (receiver : Json) : Run Json := do
  match ← (← call.arg 1).value with
  | .string key => receiver.fieldOrFields key
  | .number n =>
    let items ← receiver.asArray
    match n.int64? with
    | some index => Json.itemAt items index
    | none => throw (.notWholeIndex n)
  | other => throw (.notBracketKey other.kind)

def insertAt (call : Call) (receiver : Json) : Run Json := do
  let items ← receiver.asArray
  let gap ← Json.gapIn items (← (← call.arg 1).integer)
  return .array (Json.splicedAt items gap [← (← call.arg 2).value])

def spliceAt (call : Call) (receiver : Json) : Run Json := do
  let items ← receiver.asArray
  let gap ← Json.gapIn items (← (← call.arg 1).integer)
  return .array (Json.splicedAt items gap (← (← (← call.arg 2).value).asArray))

def changeAt (call : Call) (receiver : Json) : Run Json := do
  let items ← receiver.asArray
  let position ← Json.indexIn items (← (← call.arg 1).integer)
  return .array (Json.changedAt items position (← (← call.arg 2).value))

/-- Deletes one item, or those up to an index that is cut off at the ends. -/
def deleteAt (call : Call) (receiver : Json) : Run Json := do
  let items ← receiver.asArray
  let start ← Json.indexIn items (← (← call.arg 1).integer)
  let stop ← match call.args[2]? with
    | some stop => (Position.clamp · items.length) <$> stop.integer
    | none => pure (start + 1)
  return .array (Json.deletedAt items start stop)

/-! ### Arrays and operands -/

/-- An operation on the items and a value. -/
def withValue (call : Call) (receiver : Json) (join : List Json → Json → List Json) :
    Run Json := do
  let items ← receiver.asArray
  return .array (join items (← (← call.arg 1).value))

/-- An operation on the items and those of another array. -/
def withArray (call : Call) (receiver : Json) (join : List Json → List Json → List Json) :
    Run Json := do
  let items ← receiver.asArray
  return .array (join items (← (← (← call.arg 1).value).asArray))

end DocQuery.Call
