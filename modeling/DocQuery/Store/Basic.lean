import DocQuery.Store.Table

/-! The store: databases of tables.

Databases come into being with their first table. Reading asks for the database first
and then for the table; writing only asks for the table. -/
namespace DocQuery

/-- The name of a table in its database. -/
structure TableName where
  db : String
  table : String
  deriving DecidableEq, Repr

namespace TableName

def text (name : TableName) : String := s!"{name.db}.{name.table}"

def missing (name : TableName) : Fault := .noTable name.db name.table

end TableName

structure Store where
  databases : Fields (Fields Table) := []
  deriving DecidableEq

namespace Store

def empty : Store := {}

instance : Inhabited Store := ⟨empty⟩

/-! ### Reading -/

def hasDatabase (store : Store) (db : String) : Bool := store.databases.has db

def table? (store : Store) (name : TableName) : Option Table := do
  (← store.databases.get? name.db).get? name.table

def table (store : Store) (name : TableName) : Except Fault Table :=
  match store.databases.get? name.db with
  | none => .error (.noDatabase name.db)
  | some tables =>
    match tables.get? name.table with
    | some table => .ok table
    | none => .error name.missing

def documents (store : Store) (name : TableName) : Except Fault (List Json) :=
  (store.table name).map Table.documents

def primaryKey (store : Store) (name : TableName) : Except Fault String :=
  (store.table name).map Table.primaryKey

def get (store : Store) (name : TableName) (key : Json) : Except Fault (Option Json) :=
  (store.table name).map (·.get key)

/-! ### Writing -/

/-- Puts a table in the place of the one of its name. -/
def setTable (store : Store) (name : TableName) (table : Table) : Store :=
  let tables := (store.databases.get? name.db).getD []
  { databases := store.databases.insert name.db (tables.insert name.table table) }

/-- An empty table, also if there was one of that name. -/
def createTable (store : Store) (name : TableName) (primaryKey : String) : Store :=
  store.setTable name { primaryKey }

/-- The table that a write goes to. -/
def target (store : Store) (name : TableName) : Except Fault Table :=
  match store.table? name with
  | some table => .ok table
  | none => .error name.missing

def apply (store : Store) (name : TableName) (writes : List Write) : Except Fault Store := do
  return store.setTable name ((← store.target name).apply writes)

def insert (store : Store) (name : TableName) (documents : List Json) (conflict : Conflict)
    (logged : Bool) (fresh : Nat → String) : Except Fault (Table.Insertion × Store) := do
  let done := (← store.target name).insert documents conflict logged fresh
  return (done, store.setTable name done.table)

/-- A table with documents, put in one after another. -/
def addTable (store : Store) (name : TableName) (primaryKey : String)
    (documents : List Json) : Store :=
  store.setTable name (Table.apply { primaryKey } (documents.map .put))

end Store

end DocQuery
