import DocQuery.FileTree
import DocQuery.Json.Reader
import DocQuery.Store.Basic

/-! A store read from files.

Each folder of a tree is a database, and each file with the extension `json` in it is a
table, whose documents are the items of an array. All other entries are passed over, so
a folder without tables makes no database. -/
namespace DocQuery

/-- The table that a file name stands for. The extension is what comes after the last
point, in exactly these letters, and a name that begins with its only point has none. -/
def tableOfFile? (fileName : String) : Option String :=
  let chars := fileName.toList
  let stem := chars.take (chars.length - 5)
  if stem ≠ [] ∧ chars.drop stem.length = ".json".toList then some (String.ofList stem)
  else none

namespace FileTree

def text (tree : FileTree) : Except Fault String :=
  match tree.text? with
  | some text => .ok text
  | none => .error .unreadableFile

/-- The documents of a file. -/
def documents (tree : FileTree) : Except Fault (List Json) := do
  match Json.read? (← tree.text) with
  | some (.array documents) => .ok documents
  | _ => .error .unreadableJson

end FileTree

namespace Store

/-- Adds the table that an entry of a database stands for. -/
def loadTable (db : String) (store : Store) (entry : String × FileTree) : Except Fault Store :=
  match tableOfFile? entry.1 with
  | some table => return store.addTable ⟨db, table⟩ "id" (← entry.2.documents)
  | none => return store

/-- Adds the tables of a folder. -/
def loadDatabase (store : Store) (entry : String × FileTree) : Except Fault Store :=
  entry.2.entries.foldlM (loadTable entry.1) store

/-- The databases of a folder. -/
def load : FileTree → Except Fault Store
  | .folder entries => entries.foldlM loadDatabase empty
  | _ => .error .unreadableFile

end Store

end DocQuery
