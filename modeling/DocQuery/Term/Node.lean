import DocQuery.Fault

/-! Terms on the wire.

A term is a JSON value. A value that is no array is a literal. An array is a node: the
code of an operation, a payload and options. The payload is a list of argument terms,
unless the operation keeps it as data (`Operation.keepsPayload`) or it is no array.

`shape` splits any array and never fails; `classify` also demands a known code and
options that are an object. -/
namespace DocQuery

/-- An array node taken apart, whatever its elements are. -/
structure Shape where
  head : Option Json
  operation : Option Operation
  payload : Option Json
  options : Option Json

/-- The payload of a node: a list of argument terms, or data that is passed on as it is. -/
inductive Payload where
  | list (terms : List Json)
  | data (value : Json)

/-- A node whose code is known. -/
structure Operator where
  operation : Operation
  payload : Payload
  options? : Option (Fields Json)

inductive Term where
  | literal (value : Json)
  | operator (operator : Operator)

/-- The operation that a head names. -/
def Operation.ofHead? (head : Json) : Option Operation := head.natural?.bind ofCode?

/-! ### Shape -/

namespace Shape

def ofItems (items : List Json) : Shape where
  head := items[0]?
  operation := items[0]?.bind Operation.ofHead?
  payload := items[1]?
  options := items[2]?

/-- The payload is data by the rule of the operation. -/
def keepsPayload (shape : Shape) : Bool := shape.operation.any Operation.keepsPayload

end Shape

/-- The shape of an array; other values have none. -/
def shape : Json → Option Shape
  | .array items => some (.ofItems items)
  | _ => none

/-! ### Classification -/

namespace Payload

/-- The payload that an operation makes of its element of the node. -/
def ofElement (op : Operation) : Option Json → Payload
  | none => .list []
  | some (.array terms) => if op.keepsPayload then .data (.array terms) else .list terms
  | some value => .data value

/-- The argument terms. Data is one of them. -/
def terms : Payload → List Json
  | .list terms => terms
  | .data value => [value]

def count (payload : Payload) : Nat := payload.terms.length

def data? : Payload → Option Json
  | .list _ => none
  | .data value => some value

end Payload

namespace Operator

/-- The options of a node; `null` stands for none. -/
def readOptions (op : Operation) : Option Json → Except Fault (Option (Fields Json))
  | none | some .null => .ok none
  | some (.object fields) => .ok (some fields)
  | some other => .error (.optionsNotObject op other)

/-- The operator that the elements of an array make. -/
def ofItems (items : List Json) : Except Fault Operator :=
  match items with
  | [] => .error (.unknownTerm .null)
  | head :: _ =>
    match Operation.ofHead? head with
    | none => .error (.unknownTerm head)
    | some op => do
      let options? ← readOptions op items[2]?
      return ⟨op, .ofElement op items[1]?, options?⟩

def descriptor (operator : Operator) : Descriptor := operator.operation.descriptor

/-- The options, none of them if there is no options element. -/
def options (operator : Operator) : Fields Json := operator.options?.getD []

def arg? (operator : Operator) (index : Nat) : Option Json := operator.payload.terms[index]?

end Operator

/-- A literal or an operator; an array is never a literal. -/
def classify : Json → Except Fault Term
  | .array items => do return .operator (← Operator.ofItems items)
  | value => .ok (.literal value)

end DocQuery
