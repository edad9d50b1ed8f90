import DocQuery.Fault

/-! Scopes of variables.

A scope is a chain of frames, innermost first. Each call of a function binds its
parameters in one new frame; nothing is ever changed in a frame, so scopes that share
an outer part do not see each other's bindings. Variables hold plain values, never
functions. -/
namespace DocQuery

/-- The bindings of one call, in the order of the parameters. -/
abbrev Frame := List (Nat × Json)

abbrev Scope := List Frame

namespace Scope

def root : Scope := []

def depth (scope : Scope) : Nat := scope.length

/-- A new innermost frame, with one argument for each parameter. -/
def bind (scope : Scope) (params : List Nat) (args : List Json) : Except Fault Scope :=
  if params.length = args.length then .ok (params.zip args :: scope)
  else .error (.arity .func params.length (some params.length) args.length)

/-- The value of a variable in the innermost frame that binds it; in one frame the
first binding counts. -/
def resolve (scope : Scope) (id : Nat) : Except Fault Json :=
  match scope.findSome? (·.lookup id) with
  | some value => .ok value
  | none => .error (.unresolved id)

/-- The argument of the innermost call, if it has exactly one. -/
def implicit : Scope → Except Fault Json
  | [(_, value)] :: _ => .ok value
  | frame :: _ => .error (.implicitAmong frame.length)
  | [] => .error .implicitOutside

end Scope

end DocQuery
