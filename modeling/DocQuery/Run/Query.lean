import DocQuery.Query.Evaluate
import DocQuery.Run.Dispatch

/-! Queries.

A handle becomes an argument by recursion on its structure (`Handle.argument`), given
what a call of a function does. A call binds the arguments, evaluates the body and
runs the handle that comes of it. Functions made by a body stand below that body, so
calls nest no deeper than bodies do, and `Handle.callDepth` allows for all of them. -/
namespace DocQuery

namespace Handle
variable (call : Function → List Json → Run Json)

mutual

def argument : Handle → Argument
  | .datum value => .ofValue value
  | .array items =>
    .ofOperand ⟨return .value (.array (← values (arguments items))), none⟩
  | .object fields =>
    .ofOperand ⟨return .value (.object (← fieldArguments fields)), none⟩
  | .call op args options =>
    let args := arguments args
    { run := Call.run ⟨op, args, options⟩, call? := none, head := some op
      first := args.head?.map Argument.toOperand }
  | .func f => .ofOperand ⟨return .function f.arity, some (call f)⟩

def arguments : List Handle → List Argument
  | [] => []
  | handle :: rest => argument handle :: arguments rest

def fieldArguments : List (String × Handle) → Run (Fields Json)
  | [] => return []
  | (key, handle) :: rest => do
    let value ← (argument handle).value
    return (key, value) :: (← fieldArguments rest)

end

end Handle

/-- Calls a function, with calls nested at most so deep. -/
def Function.apply : (depth : Nat) → Function → List Json → Run Json
  | 0, _, _ => throw .callDepth
  | depth + 1, f, args => do ((← f.call args).argument (Function.apply depth)).value

/-- Runs a handle to its value. -/
def Handle.run (handle : Handle) : Run Json :=
  (handle.argument (Function.apply handle.callDepth)).value

/-- A term with the settings that it is evaluated under. -/
structure Query where
  term : Json
  settings : Settings := {}

namespace Query

def build (query : Query) : Except Fault Handle := DocQuery.build query.settings query.term

/-- Builds and runs a query: its result, and the store and chance after it. -/
def run (query : Query) (context : Run.Context) (state : Run.State) :
    Except Fault Json × Run.State :=
  match query.build with
  | .ok handle => handle.run context state
  | .error fault => (.error fault, state)

end Query

end DocQuery
