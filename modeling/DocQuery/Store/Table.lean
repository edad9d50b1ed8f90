import DocQuery.Store.Summary
import DocQuery.Value.Document
import DocQuery.Value.Order

/-! Tables.

A table is a list of documents, which are found by the field that is its primary key.
Of documents with equal keys the first one counts. Writes keep the place of a document
that they replace and put new ones at the end. -/
namespace DocQuery

structure Table where
  primaryKey : String
  documents : List Json := []
  deriving DecidableEq

/-- A write that has been worked out. -/
inductive Write where
  | put (document : Json)
  | remove (key : Json)
  deriving DecidableEq

/-- How an insertion treats a document whose key is taken. -/
inductive Conflict where
  | error | replace | update
  deriving DecidableEq, Repr

def Conflict.ofName (name : String) : Except Fault Conflict :=
  match name with
  | "error" => .ok .error
  | "replace" => .ok .replace
  | "update" => .ok .update
  | other => .error (.conflictUnknown other)

namespace Table

/-! ### Looking up -/

def keyOf? (table : Table) (document : Json) : Option Json := document.field? table.primaryKey

/-- A document without a key goes by `null`. -/
def keyOf (table : Table) (document : Json) : Json := (table.keyOf? document).getD .null

/-- The document has the key. -/
def hasKey (table : Table) (key document : Json) : Bool :=
  (table.keyOf? document).any (Json.equals · key)

def position (table : Table) (key : Json) : Option Nat :=
  table.documents.findIdx? (table.hasKey key)

def get (table : Table) (key : Json) : Option Json := table.documents.find? (table.hasKey key)

/-! ### Writing -/

def append (table : Table) (document : Json) : Table :=
  { table with documents := table.documents ++ [document] }

def setAt (table : Table) (position : Nat) (document : Json) : Table :=
  { table with documents := table.documents.set position document }

def eraseAt (table : Table) (position : Nat) : Table :=
  { table with documents := table.documents.eraseIdx position }

/-- Puts a document in the place of the one that has its key, or at the end. -/
def put (table : Table) (document : Json) : Table :=
  match table.position (table.keyOf document) with
  | some position => table.setAt position document
  | none => table.append document

def remove (table : Table) (key : Json) : Table :=
  match table.position key with
  | some position => table.eraseAt position
  | none => table

def write (table : Table) : Write → Table
  | .put document => table.put document
  | .remove key => table.remove key

/-- Writes in order. -/
def apply (table : Table) (writes : List Write) : Table := writes.foldl write table

/-- The write that brings an effect about. -/
def writeOf? (table : Table) : Effect → Option Write
  | .inserted new | .replaced _ new => some (.put new)
  | .deleted old => some (.remove (table.keyOf old))
  | .skipped | .unchanged | .failed _ => none

/-! ### Inserting -/

/-- An insertion on its way: the table so far, the summary so far, and how many keys
were made up. -/
structure Insertion where
  table : Table
  summary : Summary
  drawn : Nat := 0

/-- What becomes of a document whose key is taken by an old one. -/
def collision (conflict : Conflict) (table : Table) (old document : Json) : Effect :=
  let settle (new : Json) : Effect :=
    if old.same new then .unchanged else .replaced old new
  match conflict with
  | .error => .failed (.keyExists table.primaryKey (table.keyOf document))
  | .replace => settle document
  | .update => settle (old.merge document)

/-- The effect of a document that has a key, and the table after it. -/
def insertKeyed (conflict : Conflict) (table : Table) (document : Json) : Effect × Table :=
  match table.position (table.keyOf document) with
  | none => (.inserted document, table.append document)
  | some position =>
    match collision conflict table (table.documents[position]?.getD .null) document with
    | .replaced old new => (.replaced old new, table.setAt position new)
    | effect => (effect, table)

/-- Inserts one document. An object without a key gets a fresh one. -/
def Insertion.step (conflict : Conflict) (fresh : Nat → String) (i : Insertion)
    (document : Json) : Insertion :=
  match document with
  | .object fields =>
    if Fields.has fields i.table.primaryKey then
      let (effect, table) := insertKeyed conflict i.table document
      { i with table, summary := i.summary.record effect }
    else
      let key := fresh i.drawn
      let keyed := Json.object (Fields.insert fields i.table.primaryKey (.string key))
      let (effect, table) := insertKeyed conflict i.table keyed
      let noted := { i.summary with generatedKeys := i.summary.generatedKeys ++ [key] }
      { table, summary := noted.record effect, drawn := i.drawn + 1 }
  | other => { i with summary := i.summary.record (.failed (.expectedDocument other)) }

/-- Inserts documents one after another. -/
def insert (table : Table) (documents : List Json) (conflict : Conflict) (logged : Bool)
    (fresh : Nat → String) : Insertion :=
  documents.foldl (Insertion.step conflict fresh) { table, summary := .start logged }

end Table

end DocQuery
