import DocQuery.Regex.Ledger

/-! Trees of literals.

Alternatives that are all literals become one tree over their bytes, in which those that
begin alike share a path. Where a literal ends the paths so far are closed, so that later
literals are only tried after it. -/
namespace DocQuery.Regex

inductive LiteralTree where
  /-- The paths that were closed, the last ones first, and those that are open. -/
  | node (closed : List (List (Nat × LiteralTree))) (paths : List (Nat × LiteralTree))

namespace LiteralTree

def leaf : LiteralTree := node [] []

instance : Inhabited LiteralTree := ⟨leaf⟩

/-- No path leads on. -/
def isLeaf : LiteralTree → Bool
  | node closed paths => paths.isEmpty && closed.all List.isEmpty

/-- Adds a literal by its bytes. -/
def add : (bytes : List Nat) → LiteralTree → LiteralTree
  | [], node closed paths =>
    if (node closed paths).isLeaf && !closed.isEmpty then node closed paths
    else node (paths :: closed) []
  | byte :: rest, node closed paths =>
    if paths.any (·.1 == byte) then
      node closed (paths.map fun path => if path.1 == byte then (byte, add rest path.2) else path)
    else node closed (paths ++ [(byte, add rest leaf)])

def ofLiterals (literals : List (List Nat)) : LiteralTree :=
  literals.foldl (fun tree bytes => tree.add bytes) leaf

/-- Adds the state of a bundle of paths, unless it is empty. -/
def addBundle (paths : List (Nat × LiteralTree)) (l : Ledger) : Ledger :=
  match paths with
  | [] => l
  | [_] => l.add 1
  | paths => l.addRanges paths.length

mutual

/-- Adds the states of a tree: those of its bundles of paths, and one that tries the bundles
and the ends between them. -/
def tally : LiteralTree → Ledger → Ledger
  | node closed paths, l =>
    let bundles := (paths :: closed).countP (!·.isEmpty)
    (addBundle paths (tallyPaths paths (tallyClosed closed l))).addFork (closed.length + bundles)

def tallyClosed : List (List (Nat × LiteralTree)) → Ledger → Ledger
  | [], l => l
  | paths :: rest, l => addBundle paths (tallyPaths paths (tallyClosed rest l))

/-- Adds the states that paths lead to. -/
def tallyPaths : List (Nat × LiteralTree) → Ledger → Ledger
  | [], l => l
  | (_, tree) :: rest, l => tallyPaths rest (if tree.isLeaf then l else tally tree l)

end

end LiteralTree

end DocQuery.Regex
