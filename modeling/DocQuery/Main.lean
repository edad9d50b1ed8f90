import DocQuery.Command.Outcome
import DocQuery.Digest.Sha1
import Std.Time.DateTime.Timestamp

/-! The command line: looks at the paths that a request names, and prints its outcome. -/
namespace DocQuery.Command

def readText (entry : IO.FS.DirEntry) : IO FileTree := do
  try return .file (← IO.FS.readFile entry.path)
  catch _ => return .closed

/-- The entries of a folder, with folders in it down to a depth and the text of files
that stand for tables. A link is read as a file, wherever it leads. -/
def listFolder : (depth : Nat) → IO.FS.DirEntry → IO FileTree
  | 0, _ => return .closed
  | depth + 1, folder => do
    try
      let entries ← (← folder.path.readDir).toList.mapM fun entry => do
        let tree ←
          if (← entry.path.symlinkMetadata).type matches .dir then listFolder depth entry
          else if (tableOfFile? entry.fileName).isSome then readText entry
          else pure .closed
        return (entry.fileName, tree)
      return .folder (Fields.ofList entries)
    catch _ => return .closed

/-- What a path leads to: a folder of databases, or else a file. -/
def lookAt (path : String) : IO FileTree := do
  match ← listFolder 2 ⟨path, "."⟩ with
  | .folder entries => return .folder entries
  | _ => try return .file (← IO.FS.readFile path) catch _ => return .closed

/-- The time of the clock and random numbers that follow from a random seed. -/
def currentContext : IO Run.Context := do
  let nanos := (← Std.Time.Timestamp.now).toNanosecondsSinceUnixEpoch.val
  let seed ← IO.getRandomBytes 16
  return {
    now := ⟨nanos / 10 ^ 9, (nanos % 10 ^ 9).toNat, 0⟩
    random := fun index =>
      let digest := Sha1.digest (seed.toList ++ Sha1.bigEndian 8 index)
      (digest.take 16).foldl (fun sum byte => 256 * sum + byte.toNat) 0 }

def runWords (words : List String) : IO Outcome := do
  let paths :=
    match Request.ofWords words with
    | .ok request => request.paths
    | .error _ => []
  let seen ← paths.mapM fun path => return (path, ← lookAt path)
  return outcome words (fun path => seen.lookup path) (← currentContext)

end DocQuery.Command

def main (words : List String) : IO UInt32 := do
  let outcome ← DocQuery.Command.runWords words
  IO.print outcome.output
  IO.eprint outcome.complaint
  return UInt32.ofNat outcome.code
