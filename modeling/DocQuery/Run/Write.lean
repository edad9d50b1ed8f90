import DocQuery.Digest.Uuid
import DocQuery.Run.Call

/-! Writing documents.

An update, replacement or deletion first finds the effect on every row, from the rows
as they were read, and then writes all of them. A row whose new document cannot be
found or is not allowed is counted as failed and does not stop the others. -/
namespace DocQuery.Call

/-- What a row and the value computed for it come to. No row stands for `null`. -/
def settle (op : Operation) (primaryKey : String) (old computed : Json) : Effect :=
  let new :=
    if op = .update then if computed.isNull then old else old.merge computed
    else computed
  match old.isNull, new.isNull with
  | true, true => .skipped
  | false, true => .deleted old
  | missing, false =>
    if !new.isObject then .failed (.expected "OBJECT" new.kind)
    else if !missing && !sameKey primaryKey old new then .failed (.keyChanged primaryKey)
    else if new.same old then .unchanged
    else if missing then .inserted new
    else .replaced old new
where
  /-- Both documents have the key, and it is the same, or neither has it. -/
  sameKey (primaryKey : String) (old new : Json) : Bool :=
    match old.field? primaryKey, new.field? primaryKey with
    | some a, some b => a.same b
    | none, none => true
    | _, _ => false

/-- The effect of the write on one row. A replacement also takes a row that is
missing, as `null`. -/
def effectOn (call : Call) (primaryKey : String) (row? : Option Json) : Run Effect := do
  if call.op = .delete then
    return match row? with
      | some old => .deleted old
      | none => .skipped
  let old? := if call.op = .replace then some (row?.getD .null) else row?
  match old? with
  | none => return .skipped
  | some old =>
    let change ← call.arg 1
    match ← Run.counted (change.apply [old]) with
    | .ok computed => return settle call.op primaryKey old computed
    | .error fault => return .failed fault

/-- The summary of effects, with a log or without. -/
def summarize (logged : Bool) (effects : List Effect) : Summary :=
  effects.foldl Summary.record (.start logged)

/-- Updates, replaces or deletes the rows of a table, a selection or a single lookup. -/
def write (call : Call) (receiver : Datum) : Run Datum := do
  let (name, rows) ← receiver.targets
  let table ← (← Run.store).table name
  let effects ← rows.mapM (call.effectOn table.primaryKey)
  Run.setStore (← (← Run.store).apply name (effects.filterMap table.writeOf?))
  return .value (summarize (call.flag "return_changes") effects).toJson

/-! ### Inserting -/

def insert (call : Call) (receiver : Datum) : Run Datum := do
  let name ← receiver.asTable
  let documents ← match ← (← call.arg 1).value with
    | .array documents => pure documents
    | document => pure [document]
  let conflict ← match call.option? "conflict" with
    | some conflict => liftExcept (conflict.asString >>= Conflict.ofName)
    | none => pure .error
  let context ← read
  let s ← get
  let fresh (index : Nat) : String := Uuid.text (Uuid.ofRandom (context.random (s.drawn + index)))
  let (done, store) ← s.store.insert name documents conflict (call.flag "return_changes") fresh
  set { s with store, drawn := s.drawn + done.drawn }
  return .value done.summary.toJson

/-! ### Writing for each row -/

/-- Adds up the summaries that a function's result holds: one or a list of them. -/
def addSummaries (total : Summary) (results : List Json) : Except Fault Summary :=
  results.foldlM (fun total result => do
    unless result.isObject do throw (.notWriteResult result.kind)
    match Summary.ofJson? result with
    | some summary => return total.absorb summary
    | none => throw .unreadableJson) total

/-- Calls a function that writes for every row, and adds up the summaries. -/
def forEach (call : Call) (receiver : Json) : Run Json := do
  let function ← call.arg 1
  let total ← (← receiver.asArray).foldlM (fun total row => do
    match ← function.apply [row] with
    | .array results => addSummaries total results
    | single => addSummaries total [single]) ({} : Summary)
  return total.toJson

end DocQuery.Call
