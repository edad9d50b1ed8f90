import DocQuery.Json.Value

/-! Files in folders.

A tree is what can be seen of a folder. A path is a list of parts: a name goes to an
entry, `..` goes back to the folder that was come from, and an empty part or `.` stays.
Every part, also one that stays, needs a folder to go on from. -/
namespace DocQuery

inductive FileTree where
  | file (text : String)
  | folder (entries : List (String × FileTree))
  /-- What is neither listed nor read as text. -/
  | closed

namespace FileTree

def empty : FileTree := .folder []

instance : Inhabited FileTree := ⟨empty⟩

/-- The entries of a folder; nothing else has any. -/
def entries : FileTree → Fields FileTree
  | .folder entries => entries
  | _ => []

/-- A part of a path that stays where it is. -/
def stays (part : String) : Bool := part = "" ∨ part = "."

/-- Writes a file, and the folders on the way to it. -/
def put (tree : FileTree) (text : String) : (path : List String) → FileTree
  | [] => .file text
  | name :: rest =>
    let entry := (tree.entries.get? name).getD empty
    .folder (Fields.insert tree.entries name (entry.put text rest))

/-- What a path leads to from a tree, with the folders that were come through. -/
def follow (above : List FileTree) : FileTree → (path : List String) → Option FileTree
  | tree, [] => some tree
  | .folder entries, part :: rest =>
    if stays part then follow above (.folder entries) rest
    else if part = ".." then
      match above with
      | parent :: above => follow above parent rest
      | [] => none
    else
      match Fields.get? entries part with
      | some entry => follow (.folder entries :: above) entry rest
      | none => none
  | _, _ :: _ => none

/-- The parts of a path between slashes. -/
def parts (path : String) : List String := path.splitOn "/"

/-- What a path leads to. Nothing above the tree can be seen, so a path from the top of
all folders leads nowhere. -/
def at? (tree : FileTree) (path : String) : Option FileTree :=
  if path.startsWith "/" then none else tree.follow [] (parts path)

def text? : FileTree → Option String
  | .file text => some text
  | _ => none

/-- A tree with these files, each with its path and its text. -/
def ofFiles (files : List (String × String)) : FileTree :=
  files.foldl (fun tree (path, text) => tree.put text ((parts path).filter (!stays ·))) empty

end FileTree

end DocQuery
