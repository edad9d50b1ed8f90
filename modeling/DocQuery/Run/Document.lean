import DocQuery.Run.Call
import DocQuery.Value.Document

/-! Operations on documents, alone or in sequences. -/
namespace DocQuery.Call

/-- A change of documents, made to one or to each of a list. -/
def eachDocument (receiver : Json) (change : Json → Run Json) : Run Json := do
  match ← receiver.present with
  | .array rows => return .array (← rows.mapM change)
  | document => change document

def pluck (call : Call) (receiver : Json) : Run Json := do
  let selectors ← values call.rest
  eachDocument receiver fun document => document.pluck selectors

def without (call : Call) (receiver : Json) : Run Json := do
  let selectors ← values call.rest
  eachDocument receiver fun document => document.without selectors

/-- Merges patches one after another. A patch that is a function sees the document as
it was. -/
def merge (call : Call) (receiver : Json) : Run Json :=
  eachDocument receiver fun document =>
    call.rest.foldlM (fun merged patch => return merged.merge (← patch.apply [document])) document

def hasFields (call : Call) (receiver : Json) : Run Json := do
  let selectors ← values call.rest
  return match receiver with
    | .array rows => .array (rows.filter (·.hasFields selectors))
    | document => .bool (document.hasFields selectors)

/-- The selected fields of those documents that have all of them. -/
def withFields (call : Call) (receiver : Json) : Run Json := do
  let selectors ← values call.rest
  let rows := (← receiver.asArray).filter (·.hasFields selectors)
  return .array (← rows.mapM fun row => row.pluck selectors)

def getField (call : Call) (receiver : Json) : Run Json := do
  receiver.fieldOrFields (← (← call.arg 1).string)

def keys (receiver : Json) : Except Fault Json := do
  return .array ((← (← receiver.present).asObject).map fun field => .string field.1)

def fieldValues (receiver : Json) : Except Fault Json := do
  return .array ((← (← receiver.present).asObject).map Prod.snd)

end DocQuery.Call
