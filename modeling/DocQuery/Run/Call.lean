import DocQuery.Run.Basic
import DocQuery.Term.Node

/-! Arguments and calls.

An operation never looks at the terms of its arguments. It sees what can be done with
them: an `Operand` can be run, and a function can be called. Of an `Argument` it also
sees the operation at its head and the first operand below it, since orderings,
open ends and spliced lists are written as calls and read by the operation around
them. -/
namespace DocQuery

structure Operand where
  run : Run Datum
  /-- What a call does, if this is a function. -/
  call? : Option (List Json → Run Json)

instance : Inhabited Operand := ⟨⟨pure default, none⟩⟩

structure Argument extends Operand where
  /-- The operation, if this is a call of one. -/
  head : Option Operation
  /-- The first operand of that operation. -/
  first : Option Operand

instance : Inhabited Argument := ⟨⟨default, none, none⟩⟩

/-- An operation with its arguments, about to be run. -/
structure Call where
  op : Operation
  args : List Argument
  options : Fields Json

/-! ### Operands -/

namespace Operand

def value (operand : Operand) : Run Json := do (← operand.run).materialize

def string (operand : Operand) : Run String := do (← operand.value).asString

def integer (operand : Operand) : Run Int := do (← operand.value).asInteger

/-- Calls a function; anything else stands for its value. -/
def apply (operand : Operand) (args : List Json) : Run Json :=
  match operand.call? with
  | some call => call args
  | none => operand.value

/-- What a selector gives for a row: a function's result, or the field of a name. -/
def select (operand : Operand) (row : Json) : Run Json :=
  match operand.call? with
  | some call => call [row]
  | none => do
    match ← operand.value with
    | .string key => row.getField key
    | found => throw (.notSelector found)

/-- A function's verdict on a row, a pattern that it matches, or a constant. -/
def test (operand : Operand) (row : Json) : Run Bool :=
  match operand.call? with
  | some call => return (← call [row]).truthy
  | none => do
    match ← operand.value with
    | .object pattern => return row.matchesPattern (.object pattern)
    | constant => return constant.truthy

/-- A plain value. -/
def ofValue (value : Json) : Operand := ⟨return .value value, none⟩

end Operand

namespace Argument

def ofValue (value : Json) : Argument := ⟨.ofValue value, none, none⟩

/-- An argument that only stands for an operand. -/
def ofOperand (operand : Operand) : Argument := ⟨operand, none, none⟩

end Argument

def values (args : List Argument) : Run (List Json) := args.mapM fun arg => arg.value

/-! ### Calls -/

namespace Call

/-- The argument at a place, which has to be there. -/
def arg (call : Call) (index : Nat) : Run Argument :=
  match call.args[index]? with
  | some arg => return arg
  | none => throw (.argumentMissing call.op index)

/-- The arguments after the receiver. -/
def rest (call : Call) : List Argument := call.args.drop 1

def option? (call : Call) (name : String) : Option Json := call.options.get? name

def flag (call : Call) (name : String) : Bool := (call.option? name).any Json.truthy

/-- The first operand below an argument that is a call. -/
def firstBelow (op : Operation) (arg : Argument) : Run Operand :=
  match arg.first with
  | some operand => return operand
  | none => throw (.argumentMissing op 0)

/-- One end of a range is closed. -/
def isClosed (call : Call) (name default : String) : Except Fault Bool := do
  let bound ← match call.option? name with
    | some value => value.asString
    | none => .ok default
  match bound with
  | "closed" => return true
  | "open" => return false
  | other => throw (.boundUnknown name other)

def leftClosed (call : Call) : Except Fault Bool := call.isClosed "left_bound" "closed"

def rightClosed (call : Call) : Except Fault Bool := call.isClosed "right_bound" "open"

/-- The argument with the list that it splices in, or itself. -/
def spliced (arg : Argument) : Run (List Argument) :=
  if arg.head = some .args then do
    let list ← (← firstBelow .args arg).value
    return (← list.asArray).map .ofValue
  else return [arg]

/-- The call with spliced lists in the places of the arguments that name them. -/
def splice (call : Call) : Run Call := do
  if call.args.any fun arg => arg.head = some .args then
    return { call with args := (← call.args.mapM spliced).flatten }
  else return call

end Call

/-! ### Orderings -/

/-- A selector of sort values, and whether they go downward. -/
structure SortKey where
  selector : Operand
  descending : Bool

/-- The field that an `index` option names: bare, or inside an ordering term. -/
def indexField (index : Json) : Except Fault (String × Bool) :=
  match index with
  | .string name => .ok (name, false)
  | .array (code :: .array args :: _) =>
    match Operation.ofHead? code, args.head?.bind Json.string? with
    | some .asc, some name => .ok (name, false)
    | some .desc, some name => .ok (name, true)
    | _, _ => .error (.notIndexName index)
  | other => .error (.notIndexName other)

namespace Call

/-- The field of the `index` option, if there is one. -/
def index? (call : Call) : Except Fault (Option (String × Bool)) :=
  match call.option? "index" with
  | some index => return some (← indexField index)
  | none => return none

end Call

end DocQuery
