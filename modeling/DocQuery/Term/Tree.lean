import DocQuery.Term.Node

/-! The binary view of a term.

A node shows its head with its first two arguments as children; a payload that is data
is a single left leaf. Four orders visit the values of a tree, and `nested` writes the
tree as arrays. -/
namespace DocQuery

inductive Tree where
  | node (value : Json) (left right : Option Tree)

namespace Tree

def leaf (value : Json) : Tree := .node value none none

def value : Tree → Json
  | .node value _ _ => value

mutual

/-- The binary view of a term. A value that is no array, and an array without a head,
is a leaf. -/
def ofTerm : Json → Tree
  | .array (head :: rest) => ofHead head ((Operation.ofHead? head).any Operation.keepsPayload) rest
  | value => leaf value

/-- The view of a node from the elements after its head. -/
def ofHead (head : Json) (keepsPayload : Bool) : List Json → Tree
  | .array terms :: _ =>
    if keepsPayload then .node head (some (leaf (.array terms))) none
    else .node head (firstOf terms) (secondOf terms)
  | _ => leaf head

def firstOf : List Json → Option Tree
  | term :: _ => some (ofTerm term)
  | [] => none

def secondOf : List Json → Option Tree
  | _ :: term :: _ => some (ofTerm term)
  | _ => none

end

/-! ### Equality -/

mutual

/-- The same shape, with values that are the same at each node. -/
def same : Tree → Tree → Bool
  | .node a left right, .node b left' right' =>
    a.same b && sameChild left left' && sameChild right right'

def sameChild : Option Tree → Option Tree → Bool
  | none, none => true
  | some a, some b => same a b
  | _, _ => false

end

/-! ### Orders -/

inductive Order where
  | postorder | preorder | inorder | levelorder
  deriving DecidableEq, Repr

/-- One thing a walk does at a node. -/
inductive Step where
  | left | node | right
  deriving DecidableEq, Repr

mutual

/-- Takes the steps at the root, and the same steps at every node that a child leads to. -/
def walk (steps : List Step) : Tree → List Json
  | .node value left right => steps.flatMap fun
    | .left => walkChild steps left
    | .node => [value]
    | .right => walkChild steps right

def walkChild (steps : List Step) : Option Tree → List Json
  | none => []
  | some tree => walk steps tree

end

/-- Children before their node. -/
def postorder : Tree → List Json := walk [.left, .right, .node]

/-- Children after their node. -/
def preorder : Tree → List Json := walk [.node, .left, .right]

/-- The node between its children. -/
def inorder : Tree → List Json := walk [.left, .node, .right]

mutual

def size : Tree → Nat
  | .node _ left right => 1 + sizeOfChild left + sizeOfChild right

def sizeOfChild : Option Tree → Nat
  | none => 0
  | some tree => size tree

end

def children : Tree → List Tree
  | .node _ left right => left.toList ++ right.toList

/-- Visits the front of a queue and puts its children at the end. A tree is visited
once, so the number of nodes is fuel enough. -/
def visitQueue : Nat → List Tree → List Json
  | 0, _ => []
  | _ + 1, [] => []
  | fuel + 1, tree :: queue => tree.value :: visitQueue fuel (queue ++ tree.children)

/-- From the root down, each level from left to right. -/
def levelorder (tree : Tree) : List Json := visitQueue tree.size [tree]

def visit (tree : Tree) : Order → List Json
  | .postorder => tree.postorder
  | .preorder => tree.preorder
  | .inorder => tree.inorder
  | .levelorder => tree.levelorder

/-! ### Nested arrays -/

/-- A value as it stands in the nested view; an array is put into an object. -/
def tagged : Json → Json
  | .array items => .ofFields [("array", .array items)]
  | value => value

/-- The tree as arrays: the value alone, before a left child, or between two children. -/
def nested : Tree → Json
  | .node value left right => .array (between (tagged value) (ofChild left) (ofChild right))
where
  ofChild : Option Tree → Option Json
    | none => none
    | some tree => some (nested tree)
  between (value : Json) : Option Json → Option Json → List Json
    | some left, some right => [left, value, right]
    | some left, none => [value, left]
    | none, some right => [value, right]
    | none, none => [value]

end Tree

end DocQuery
