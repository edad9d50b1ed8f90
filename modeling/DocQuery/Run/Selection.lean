import DocQuery.Run.Call
import DocQuery.Value.Index

/-! Reading tables and selecting rows.

These operations keep their rows tied to the table that they were read from, so that
what they give can still be written. -/
namespace DocQuery.Call

/-! ### Tables and rows by key -/

def database (call : Call) : Run Datum := do
  let name ← (← call.arg 0).string
  unless (← Run.store).hasDatabase name do throw (.noDatabase name)
  return .database name

def table (call : Call) (receiver : Datum) : Run Datum := do
  match receiver with
  | .database db =>
    let name : TableName := ⟨db, ← (← call.arg 1).string⟩
    let _ ← (← Run.store).table name
    return .table name
  | other => throw (.expected "DB" other.kind)

def get (call : Call) (receiver : Datum) : Run Datum := do
  let name ← receiver.asTable
  let key ← (← call.arg 1).value
  return .row name (← (← Run.store).get name key)

/-- The field that an operation looks rows up by: that of the option, or the key. -/
def lookupField (call : Call) (name : TableName) : Run String := do
  match ← call.index? with
  | some (field, _) => return field
  | none => (← Run.store).primaryKey name

/-- The rows of each key in turn. -/
def rowsOfKeys (field : String) (keys rows : List Json) : List Json :=
  keys.flatMap fun key => rows.filter fun row => (row.field? field).any (Json.equals · key)

def getAll (call : Call) (receiver : Datum) : Run Datum := do
  let name ← receiver.asTable
  let keys ← values call.rest
  let field ← call.lookupField name
  return .selection name (rowsOfKeys field keys (← (← Run.store).documents name))

/-! ### Ranges -/

/-- An end of a range; the smallest and the largest value leave it open. -/
def bound (arg : Argument) : Run (Option Json) :=
  if arg.head = some .minVal ∨ arg.head = some .maxVal then return none
  else return some (← arg.value)

/-- The key is not below the lower end. -/
def isAbove (lower : Option Json) (closed : Bool) (key : Json) : Bool :=
  lower.all fun lower =>
    let order := key.order lower
    order == .gt || (closed && order == .eq)

/-- The key is not above the upper end. -/
def isBelow (upper : Option Json) (closed : Bool) (key : Json) : Bool :=
  upper.all fun upper =>
    let order := key.order upper
    order == .lt || (closed && order == .eq)

def between (call : Call) (receiver : Datum) : Run Datum := do
  match ← receiver.rows with
  | (none, _) => throw .expectedSlice
  | (some name, rows) =>
    let field ← call.lookupField name
    let lower ← bound (← call.arg 1)
    let upper ← bound (← call.arg 2)
    let leftClosed ← call.leftClosed
    let rightClosed ← call.rightClosed
    return .selection name <| rows.filter fun row =>
      (row.field? field).any fun key =>
        isAbove lower leftClosed key && isBelow upper rightClosed key

/-! ### Filtering and sorting -/

/-- Keeps the rows that pass. Whether a row passes that lacks data which the test needs
is an option. -/
def filter (call : Call) (receiver : Datum) : Run Datum := do
  let (name, rows) ← receiver.rows
  let predicate ← call.arg 1
  let byDefault := call.flag "default"
  let kept ← rows.filterM fun row => return (← Run.found? (predicate.test row)).getD byDefault
  return .ofRows name kept

/-- The orderings of a call: the field of the `index` option, then the arguments, which
may be turned upward or downward. -/
def sortKeys (call : Call) : Run (List SortKey) := do
  let indexKey := (← call.index?).map fun (field, descending) =>
    SortKey.mk (.ofValue (.string field)) descending
  let keys ← call.rest.mapM fun arg =>
    match arg.head with
    | some .asc => return SortKey.mk (← firstBelow .asc arg) false
    | some .desc => return SortKey.mk (← firstBelow .desc arg) true
    | _ => return SortKey.mk arg.toOperand false
  return indexKey.toList ++ keys

/-- The first key in which two rows differ decides. -/
def orderBySortValues : (directions : List Bool) → List Json → List Json → Ordering
  | descending :: directions, a :: as, b :: bs =>
    (if descending then (a.order b).swap else a.order b).then
      (orderBySortValues directions as bs)
  | _, _, _ => .eq

/-- Missing data sorts as `null`. -/
def sortValues (keys : List SortKey) (row : Json) : Run (List Json) :=
  keys.mapM fun key => return (← Run.found? (key.selector.select row)).getD .null

def orderBy (call : Call) (receiver : Datum) : Run Datum := do
  let (name, rows) ← receiver.rows
  let keys ← call.sortKeys
  if keys.isEmpty then throw .orderingMissing
  let decorated ← rows.mapM fun row => return (← sortValues keys row, row)
  let directions := keys.map SortKey.descending
  let sorted := Sorting.stable (fun a b => orderBySortValues directions a.1 b.1) decorated
  return .ofRows name (sorted.map Prod.snd)

/-! ### Stretches -/

def skip (call : Call) (receiver : Datum) : Run Datum := do
  let (name, rows) ← receiver.rows
  return .ofRows name (rows.drop (← (← call.arg 1).integer).toNat)

def limit (call : Call) (receiver : Datum) : Run Datum := do
  let (name, rows) ← receiver.rows
  return .ofRows name (rows.take (← (← call.arg 1).integer).toNat)

def bounds (call : Call) (length : Nat) : Run (Nat × Nat) := do
  let start ← (← call.arg 1).integer
  let stop ← match call.args[2]? with
    | some stop => some <$> stop.integer
    | none => pure none
  let leftClosed ← call.leftClosed
  let rightClosed ← call.rightClosed
  return Position.bounds length start stop leftClosed rightClosed

/-- The rows, or the characters of a string, between two positions. -/
def slice (call : Call) (receiver : Datum) : Run Datum := do
  match receiver with
  | .value (.string text) =>
    let chars := text.toList
    return .value (.string (String.ofList (Position.stretch chars (← call.bounds chars.length))))
  | receiver =>
    let (name, rows) ← receiver.rows
    return .ofRows name (Position.stretch rows (← call.bounds rows.length))

def nth (call : Call) (receiver : Datum) : Run Datum := do
  let (name, rows) ← receiver.rows
  let row ← Json.itemAt rows (← (← call.arg 1).integer)
  return match name with
    | some name => .row name (some row)
    | none => .value row

/-! ### Describing -/

def databaseInfo (name : String) : Json :=
  .ofFields [("name", .string name), ("type", .string "DB")]

def info (receiver : Datum) : Run Json := do
  let kind := ("type", Json.string receiver.kind.text)
  match receiver with
  | .database name => return databaseInfo name
  | .table name =>
    return .ofFields [kind, ("name", .string name.table),
      ("primary_key", .string (← (← Run.store).primaryKey name)), ("db", databaseInfo name.db)]
  | .function arity => return .ofFields [kind, ("params", .ofNat arity)]
  | .selection name _ | .row name _ =>
    return .ofFields [kind,
      ("table", .ofFields [("name", .string name.table), ("db", .string name.db)])]
  | .value v => return .ofFields [kind, ("value", .string v.compact)]

end DocQuery.Call
