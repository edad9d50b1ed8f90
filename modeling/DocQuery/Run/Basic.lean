import DocQuery.Store.Basic
import DocQuery.Time.Value

/-! Running queries.

A run reads a context that does not change (the time and a source of random numbers),
threads a state (the store and how many random numbers were drawn) and ends with a
result or a fault. A fault keeps the state that it was reached in: writes that were
done before it stay done.

What a part of a query gives is a `Datum`: a value, or something that is still tied to
the store. -/
namespace DocQuery

/-- What a run reads. -/
structure Run.Context where
  /-- The time, the same throughout a run. -/
  now : Moment
  /-- Random numbers of 128 bits. -/
  random : Nat → Nat

/-- What a run changes. -/
structure Run.State where
  store : Store
  /-- How many random numbers were drawn. -/
  drawn : Nat := 0
  deriving DecidableEq

abbrev Run := ReaderT Run.Context (ExceptT Fault (StateM Run.State))

inductive Datum where
  | value (v : Json)
  | database (name : String)
  | table (name : TableName)
  /-- Rows read from a table, which can still be written. -/
  | selection (table : TableName) (rows : List Json)
  /-- One row looked up by its key. -/
  | row (table : TableName) (row? : Option Json)
  | function (arity : Nat)
  deriving DecidableEq

instance : Inhabited Datum := ⟨.value .null⟩

def Datum.kind : Datum → Kind
  | .value v => v.kind
  | .database _ => .database
  | .table _ => .table
  | .selection .. => .stream
  | .row .. => .row
  | .function _ => .function

namespace Run

/-! ### Store and chance -/

def store : Run Store := return (← get).store

def setStore (store : Store) : Run Unit := modify fun s => { s with store }

def draw : Run Nat := do
  let index := (← get).drawn
  modify fun s => { s with drawn := index + 1 }
  return (← read).random index

/-! ### Catching faults -/

/-- The result, or the fault if it is one of those that are caught. -/
def caught {α : Type} (catches : Fault → Bool) (x : Run α) : Run (Except Fault α) :=
  tryCatch (.ok <$> x) fun fault =>
    if catches fault then pure (.error fault) else throw fault

/-- The result, or nothing if data is missing. -/
def found? {α : Type} (x : Run α) : Run (Option α) :=
  Except.toOption <$> caught Fault.isMissing x

/-- The result, or the fault if it is one that a row-wise write counts. -/
def counted {α : Type} (x : Run α) : Run (Except Fault α) := caught Fault.isCounted x

end Run

/-! ### Views of data -/

namespace Datum

/-- The value that a datum ends as. -/
def materialize : Datum → Run Json
  | .value v => return v
  | .table name => return .array (← (← Run.store).documents name)
  | .selection _ rows => return .array rows
  | .row _ row? => return row?.getD .null
  | other => throw (.notResult other.kind)

/-- The rows of a sequence, with the table they were read from. -/
def rows : Datum → Run (Option TableName × List Json)
  | .table name => return (some name, ← (← Run.store).documents name)
  | .selection name rows => return (some name, rows)
  | .value (.array items) => return (none, items)
  | other => throw (.notSequence other.kind)

def sequence (datum : Datum) : Run (List Json) := return (← datum.rows).2

/-- Rows tied to the table they were read from, if there is one. -/
def ofRows : Option TableName → List Json → Datum
  | some name, rows => .selection name rows
  | none, rows => .value (.array rows)

def asTable : Datum → Run TableName
  | .table name => return name
  | other => throw (.expected "TABLE" other.kind)

/-- The rows that a write applies to; a row that was looked up may be missing. -/
def targets : Datum → Run (TableName × List (Option Json))
  | .table name => return (name, (← (← Run.store).documents name).map some)
  | .selection name rows => return (name, rows.map some)
  | .row name row? => return (name, [row?])
  | other => throw (.expected "SELECTION" other.kind)

end Datum

end DocQuery
