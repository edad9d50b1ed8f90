import DocQuery.Query.Handle
import DocQuery.Term.Check

/-! From terms to handles.

The meaning of a term is a handle in every scope. `evaluate` gives it by recursion on
the term: `assemble` composes the handle of a node from the meanings of its arguments
and of its options, and never looks below them. Literals, arguments of `DATUM` and the
elements of arrays are data; only arrays that are themselves made arrays are looked
into. -/
namespace DocQuery

/-- A handle in every scope. -/
abbrev Meaning := Scope → Except Fault Handle

namespace Evaluation

/-! ### Parameters and variables -/

/-- The id that a variable's payload names: a number, or the first of a list. -/
def variableId (operator : Operator) : Except Fault Nat :=
  let payload := operator.payload.terms.head?
  let id := match payload with
    | some (.array ids) => ids.head?.bind Json.natural?
    | some value => value.natural?
    | none => none
  match id with
  | some id => .ok id
  | none => .error (.variableNotId payload)

def parameterId (value : Json) : Except Fault Nat :=
  match value.natural? with
  | some id => .ok id
  | none => .error (.parameterNotId value)

/-- The parameters of a function, written as a made array of ids. -/
def parameterIds (params : Json) : Except Fault (List Nat) := do
  match ← classify params with
  | .operator ⟨.makeArray, .data (.array ids), _⟩ => ids.mapM parameterId
  | .operator ⟨.makeArray, .list _, _⟩ => return []
  | _ => throw (.parametersNotArray params)

/-! ### Nodes by consumption -/

def evaluateAll (meanings : List Meaning) (scope : Scope) : Except Fault (List Handle) :=
  meanings.mapM (· scope)

/-- A constructed call. Times, ranges, objects and identifiers without a name take no
options. -/
def constructed (op : Operation) (args : List Handle) (options : Fields Json) : Handle :=
  let plain := op = .time ∨ op = .range ∨ op = .object ∨ (op = .uuid ∧ args.isEmpty)
  .call op args (if plain then [] else options)

/-- A call of a method: the first argument is the receiver. -/
def method (op : Operation) (arguments : List Meaning) (options : Fields Json) : Meaning :=
  fun scope => do
    let args ← evaluateAll arguments scope
    if args.isEmpty then throw (.receiverMissing op)
    return .call op args options

/-- A node whose elements are an operation's code and a list. -/
def isMadeArray : Json → Bool
  | .array (head :: .array _ :: _) => head.natural? = some Operation.makeArray.code
  | _ => false

/-- Elements stay literal unless they are made arrays themselves. -/
def madeItem (element : Json) (meaning : Meaning) (scope : Scope) : Except Fault Handle :=
  if isMadeArray element then meaning scope else .ok (.datum element)

def madeArray (payload : Payload) (elements : List Meaning) : Meaning := fun scope =>
  match payload with
  | .list _ => .ok (.array [])
  | .data (.array items) => do
    return .array (← (items.zip elements).mapM fun (item, meaning) => madeItem item meaning scope)
  | .data other => .error (.itemsNotArray other)

def madeObject (fields : List (String × Meaning)) : Meaning := fun scope => do
  return .object (← fields.mapM fun (key, meaning) => do return (key, ← meaning scope))

def function (settings : Settings) (operator : Operator) : Meaning := fun scope =>
  match operator.payload.terms with
  | params :: body :: _ => do
    let ids ← parameterIds params
    check body
    return .func ⟨ids, body, scope, settings⟩
  | _ => .error .functionIncomplete

/-- A pinned database does not even evaluate the name it is asked for. -/
def database (settings : Settings) (arguments : List Meaning) : Meaning := fun scope => do
  if settings.pinned then return .database settings.database
  return .call .db (← evaluateAll arguments scope) []

/-- A table that names no database is in the database of the settings. -/
def table (settings : Settings) (arguments : List Meaning) (options : Fields Json) : Meaning :=
  fun scope => do
    match arguments with
    | [name] => return .call .table [.database settings.database, ← name scope] options
    | [db, name] => return .call .table [← db scope, ← name scope] options
    | _ => throw .tableNameMissing

/-- Operations with an evaluation rule of their own. -/
def special (settings : Settings) (operator : Operator) (arguments : List Meaning)
    (fields : List (String × Meaning)) : Meaning := fun scope =>
  match operator.operation with
  | .datum => .ok (.datum ((operator.arg? 0).getD .null))
  | .makeArray => madeArray operator.payload arguments scope
  | .makeObject => madeObject fields scope
  | .var => do return .datum (← scope.resolve (← variableId operator))
  | .implicitVar => do return .datum (← scope.implicit)
  | .func => function settings operator scope
  | .funcall => do return .call .funcall (← evaluateAll arguments scope) []
  | .db => database settings arguments scope
  | .table => table settings arguments operator.options scope
  | op => .error (.ruleMissing op)

/-- The handle of a node, from the meanings of its arguments and of its options. -/
def assemble (settings : Settings) (items : List Json) (arguments : List Meaning)
    (fields : List (String × Meaning)) : Meaning := fun scope => do
  let operator ← Operator.ofItems items
  let op := operator.operation
  let d := op.descriptor
  if d.consumption = .forbidden then throw (.illegalOperation op)
  unless d.accepts operator.payload.count do
    throw (.arity op d.minArgs d.maxArgs operator.payload.count)
  unless d.takesOptions || operator.options.isEmpty do throw (.optionsRefused op)
  match d.consumption with
  | .nullary => return .call op [] []
  | .constructor => return constructed op (← evaluateAll arguments scope) operator.options
  | .fixed | .variadic => method op arguments [] scope
  | .keyed => method op arguments operator.options scope
  | .special => special settings operator arguments fields scope
  | .forbidden => throw (.illegalOperation op)

end Evaluation

/-! ### Terms -/

open Evaluation in
mutual

/-- The handle that a term means in a scope. -/
def evaluate (settings : Settings) : Json → Meaning
  | .array items => assemble settings items (argumentMeanings settings items)
      (optionMeanings settings items)
  | value => fun _ => .ok (.datum value)

/-- The meanings of the argument terms of a node. -/
def argumentMeanings (settings : Settings) : List Json → List Meaning
  | _ :: .array terms :: _ => meanings settings terms
  | _ :: term :: _ => [evaluate settings term]
  | _ => []

/-- The meanings of the options of a node, taken as terms. -/
def optionMeanings (settings : Settings) : List Json → List (String × Meaning)
  | _ :: _ :: .object fields :: _ => fieldMeanings settings fields
  | _ => []

def meanings (settings : Settings) : List Json → List Meaning
  | [] => []
  | term :: rest => evaluate settings term :: meanings settings rest

def fieldMeanings (settings : Settings) : List (String × Json) → List (String × Meaning)
  | [] => []
  | (key, term) :: rest => (key, evaluate settings term) :: fieldMeanings settings rest

end

/-- The handle of a query. -/
def build (settings : Settings) (term : Json) : Except Fault Handle :=
  evaluate settings term Scope.root

/-- The handle of a function's body with its parameters bound to values. -/
def Function.call (f : Function) (args : List Json) : Except Fault Handle := do
  evaluate f.settings f.body (← f.scope.bind f.params args)

end DocQuery
