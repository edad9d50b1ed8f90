import DocQuery.Query.Scope

/-! Handles: queries that are composed and not yet run.

Building a term gives a handle. A function in it keeps its body as a raw term, with
the scope and the settings under which the body is evaluated at each call. `toWire`
writes a handle as a term again. -/
namespace DocQuery

/-- What a term is evaluated under. -/
structure Settings where
  /-- The database of tables that name none. -/
  database : String := "test"
  /-- Every database term means `database`, whatever name it asks for. -/
  pinned : Bool := true
  deriving DecidableEq

/-- A function, not called yet. -/
structure Function where
  params : List Nat
  body : Json
  scope : Scope
  settings : Settings

inductive Handle where
  | datum (value : Json)
  | array (items : List Handle)
  | object (fields : List (String × Handle))
  | call (op : Operation) (args : List Handle) (options : Fields Json)
  | func (f : Function)

instance : Inhabited Handle := ⟨.datum .null⟩

namespace Function

def arity (f : Function) : Nat := f.params.length

/-- The parameters by name and the body. -/
def text (f : Function) : String :=
  "Function(" ++ ", ".intercalate (f.params.map Fault.variableName) ++ ") " ++ f.body.compact

end Function

namespace Handle

/-- The database term of a name. -/
def database (name : String) : Handle := .call .db [.datum (.string name)] []

/-- A node of an operation. -/
def node (op : Operation) (args : List Json) : List Json := [.ofNat op.code, .array args]

mutual

/-- The handle as a term. -/
def toWire : Handle → Json
  | .datum (.array items) => .array (node .makeArray items)
  | .datum value => value
  | .array items => .array (node .makeArray (toWireAll items))
  | .object fields => .array (node .makeObject [] ++ [.object (toWireFields fields)])
  | .call op args options =>
    .array (node op (toWireAll args) ++ if options.isEmpty then [] else [.object options])
  | .func f =>
    .array (node .func [.array (node .makeArray (f.params.map Json.ofNat)), f.body])

def toWireAll : List Handle → List Json
  | [] => []
  | handle :: rest => toWire handle :: toWireAll rest

def toWireFields : List (String × Handle) → List (String × Json)
  | [] => []
  | (key, handle) :: rest => (key, toWire handle) :: toWireFields rest

end

end Handle

/-! ### How deep calls can go -/

namespace Json

mutual

/-- How deep arrays and objects are nested. -/
def height : Json → Nat
  | .array items => heightOfItems items + 1
  | .object fields => heightOfFields fields + 1
  | _ => 0

def heightOfItems : List Json → Nat
  | [] => 0
  | item :: rest => max (height item) (heightOfItems rest)

def heightOfFields : List (String × Json) → Nat
  | [] => 0
  | (_, value) :: rest => max (height value) (heightOfFields rest)

end

end Json

namespace Handle

mutual

/-- A bound on how deep calls of the handle's functions nest: a function that a body
makes stands below that body. -/
def callDepth : Handle → Nat
  | .datum _ => 0
  | .array items => callDepthOfAll items
  | .object fields => callDepthOfFields fields
  | .call _ args _ => callDepthOfAll args
  | .func f => f.body.height + 1

def callDepthOfAll : List Handle → Nat
  | [] => 0
  | handle :: rest => max (callDepth handle) (callDepthOfAll rest)

def callDepthOfFields : List (String × Handle) → Nat
  | [] => 0
  | (_, handle) :: rest => max (callDepth handle) (callDepthOfFields rest)

end

end Handle

end DocQuery
