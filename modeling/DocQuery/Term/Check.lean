import DocQuery.Term.Node

/-! Codes checked ahead of evaluation.

`check` rejects unknown and forbidden codes anywhere in a term. It looks where terms
can stand: in lists of arguments and in the fields of a made object. Payloads that are
data and all other options are not looked into. -/
namespace DocQuery

mutual

def check : Json → Except Fault Unit
  | .array items => do
    let operator ← Operator.ofItems items
    if operator.operation.isForbidden then
      throw (.illegalOperation operator.operation)
    match operator.payload with
    | .list _ => checkArguments items
    | .data _ => pure ()
    if operator.operation = .makeObject then checkMadeFields items
  | _ => .ok ()

/-- The argument terms of a node. -/
def checkArguments : List Json → Except Fault Unit
  | _ :: .array terms :: _ => checkAll terms
  | _ => .ok ()

/-- The fields of a node that makes an object. -/
def checkMadeFields : List Json → Except Fault Unit
  | _ :: _ :: .object fields :: _ => checkFields fields
  | _ => .ok ()

def checkAll : List Json → Except Fault Unit
  | [] => .ok ()
  | term :: rest => do
    check term
    checkAll rest

def checkFields : List (String × Json) → Except Fault Unit
  | [] => .ok ()
  | (_, term) :: rest => do
    check term
    checkFields rest

end

end DocQuery
