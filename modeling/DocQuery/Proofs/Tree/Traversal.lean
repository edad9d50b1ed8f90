import DocQuery.Term.Tree
import Mathlib.Algebra.GroupWithZero.Nat

/-! What the four orders visit.

Three orders are one walk under a table of steps, the fourth is a loop over a queue. Each visits
the value of every node once (`visit_perm_nodes`). The queue holds the rest of one level in front
of the children that are already known from it (`visitQueue_append`), so a pass over what stands
in it at first leaves exactly the next level (`visitQueue_levels`). -/
namespace DocQuery.Tree

mutual

/-- All nodes, each as the tree below it. -/
def nodes : Tree → List Tree
  | .node value left right => .node value left right :: (nodesOfChild left ++ nodesOfChild right)

def nodesOfChild : Option Tree → List Tree
  | none => []
  | some tree => nodes tree

end

/-- The nodes at a depth, from left to right. -/
def level : Nat → Tree → List Tree
  | 0, tree => [tree]
  | depth + 1, tree => tree.children.flatMap (level depth)

mutual

/-- How many levels have a node. -/
def height : Tree → Nat
  | .node _ left right => max (heightOfChild left) (heightOfChild right) + 1

def heightOfChild : Option Tree → Nat
  | none => 0
  | some tree => height tree

end

/-! ### A node and its children -/

@[simp] theorem children_node (value : Json) (left right : Option Tree) :
    (node value left right).children = left.toList ++ right.toList := rfl

theorem nodesOfChild_eq (child : Option Tree) :
    nodesOfChild child = child.toList.flatMap nodes := by
  cases child <;> simp [nodesOfChild]

theorem nodes_eq (tree : Tree) : tree.nodes = tree :: tree.children.flatMap nodes := by
  cases tree
  simp [nodes, nodesOfChild_eq]

theorem sizeOfChild_eq (child : Option Tree) : sizeOfChild child = (child.toList.map size).sum := by
  cases child <;> simp [sizeOfChild]

theorem size_eq (tree : Tree) : tree.size = (tree.children.map size).sum + 1 := by
  cases tree
  simp only [size, sizeOfChild_eq, children_node, List.map_append, List.sum_append]
  omega

theorem height_le_succ_iff {tree : Tree} {n : Nat} :
    tree.height ≤ n + 1 ↔ ∀ child ∈ tree.children, child.height ≤ n := by
  obtain ⟨value, left, right⟩ := tree
  have hchild (child : Option Tree) :
      heightOfChild child ≤ n ↔ ∀ tree ∈ child.toList, tree.height ≤ n := by
    cases child <;> simp [heightOfChild]
  rw [height, children_node, List.forall_mem_append, ← hchild left, ← hchild right]
  omega

theorem height_pos (tree : Tree) : 0 < tree.height := by
  cases tree
  simp [height]

/-! ### Each node once -/

mutual

/-- A table that lists every step once visits every node once. -/
theorem walk_perm_nodes {steps : List Step} (h : steps.Perm [.node, .left, .right]) :
    ∀ tree : Tree, (walk steps tree).Perm (tree.nodes.map value)
  | .node value left right => by
    have hleft := walkChild_perm_nodes h left
    have hright := walkChild_perm_nodes h right
    rw [walk]
    refine (h.flatMap_right _).trans ?_
    simpa [nodes, Tree.value] using hleft.append hright

theorem walkChild_perm_nodes {steps : List Step} (h : steps.Perm [.node, .left, .right]) :
    ∀ child : Option Tree, (walkChild steps child).Perm ((nodesOfChild child).map value)
  | none => by simp [walkChild, nodesOfChild]
  | some tree => by simpa [walkChild, nodesOfChild] using walk_perm_nodes h tree

end

/-- The queue gives out each node that it holds and each node below one. -/
theorem visitQueue_perm_nodes {fuel : Nat} {queue : List Tree} (h : (queue.map size).sum ≤ fuel) :
    (visitQueue fuel queue).Perm ((queue.flatMap nodes).map value) := by
  induction fuel generalizing queue with
  | zero =>
    cases queue with
    | nil => simp [visitQueue]
    | cons tree queue =>
      rw [List.map_cons, List.sum_cons, size_eq] at h
      omega
  | succ fuel ih =>
    cases queue with
    | nil => simp [visitQueue]
    | cons tree queue =>
      have hrest : ((queue ++ tree.children).map size).sum ≤ fuel := by
        rw [List.map_cons, List.sum_cons, size_eq] at h
        rw [List.map_append, List.sum_append]
        omega
      rw [visitQueue, List.flatMap_cons, nodes_eq, List.cons_append, List.map_cons]
      refine .cons _ ((ih hrest).trans ?_)
      rw [List.flatMap_append]
      exact .map _ List.perm_append_comm

theorem visit_perm_nodes (tree : Tree) (order : Order) :
    (tree.visit order).Perm (tree.nodes.map value) := by
  cases order with
  | postorder => exact walk_perm_nodes (by decide) tree
  | preorder => exact walk_perm_nodes (by decide) tree
  | inorder => exact walk_perm_nodes (by decide) tree
  | levelorder =>
    have hfuel : ([tree].map size).sum ≤ tree.size := by simp
    simpa [visit, levelorder] using visitQueue_perm_nodes hfuel

/-! ### Level by level -/

/-- The trees at the front are visited before anything that is behind them, and their children
come to stand behind that. -/
theorem visitQueue_append (front back : List Tree) (fuel : Nat) :
    visitQueue (front.length + fuel) (front ++ back) =
      front.map value ++ visitQueue fuel (back ++ front.flatMap children) := by
  induction front generalizing back with
  | nil => simp
  | cons tree front ih =>
    have hfuel : (tree :: front).length + fuel = front.length + fuel + 1 := by
      simp only [List.length_cons]
      omega
    rw [hfuel, List.cons_append, visitQueue, List.append_assoc, ih]
    simp

theorem length_add_size_children (queue : List Tree) :
    queue.length + ((queue.flatMap children).map size).sum = (queue.map size).sum := by
  induction queue with
  | nil => rfl
  | cons tree queue ih =>
    simp only [List.length_cons, List.flatMap_cons, List.map_append, List.sum_append, List.map_cons,
      List.sum_cons, size_eq tree]
    omega

/-- A queue of trees of at most `depth` levels is visited level by level across all of them. -/
theorem visitQueue_levels {depth fuel : Nat} {queue : List Tree}
    (hheight : ∀ tree ∈ queue, tree.height ≤ depth) (hfuel : (queue.map size).sum ≤ fuel) :
    visitQueue fuel queue =
      (List.range depth).flatMap fun d => (queue.flatMap (level d)).map value := by
  induction depth generalizing fuel queue with
  | zero =>
    cases queue with
    | nil => cases fuel <;> simp [visitQueue]
    | cons tree queue =>
      have hpos := tree.height_pos
      have hzero := hheight tree List.mem_cons_self
      omega
  | succ depth ih =>
    have hsize := length_add_size_children queue
    obtain ⟨rest, rfl⟩ : ∃ rest, fuel = queue.length + rest := ⟨fuel - queue.length, by omega⟩
    have hbelow : ∀ tree ∈ queue.flatMap children, tree.height ≤ depth := by
      intro child hchild
      obtain ⟨tree, htree, hchild⟩ := List.mem_flatMap.mp hchild
      exact height_le_succ_iff.mp (hheight tree htree) child hchild
    have hpass := visitQueue_append queue [] rest
    rw [List.append_nil, List.nil_append] at hpass
    rw [hpass, ih hbelow (by omega), List.range_succ_eq_map, List.flatMap_cons, List.flatMap_map]
    simp [level, List.flatMap_assoc]

theorem level_eq_nil_iff {tree : Tree} {depth : Nat} :
    level depth tree = [] ↔ tree.height ≤ depth := by
  induction depth generalizing tree with
  | zero =>
    have hpos := tree.height_pos
    simp only [level, List.cons_ne_nil, false_iff]
    omega
  | succ depth ih => simp [level, ih, height_le_succ_iff]

/-- All orders visit the same values, one for each node. From the root down, the values at depth
`0` come first, then those at depth `1` and so on, at each depth from left to right; the depths
below the height are those that have a node. -/
theorem visit_same_nodes (tree : Tree) :
    (∀ order order' : Order, (tree.visit order).Perm (tree.visit order')) ∧
      (∀ order : Order, (tree.visit order).Perm (tree.nodes.map value)) ∧
      tree.visit .levelorder =
        (List.range tree.height).flatMap (fun depth => (level depth tree).map value) ∧
      ∀ depth, level depth tree = [] ↔ tree.height ≤ depth := by
  refine ⟨fun order order' => ?_, tree.visit_perm_nodes, ?_, fun _ => level_eq_nil_iff⟩
  · exact (tree.visit_perm_nodes order).trans (tree.visit_perm_nodes order').symm
  · have hheight : ∀ t ∈ [tree], t.height ≤ tree.height := by simp
    have hfuel : ([tree].map size).sum ≤ tree.size := by simp
    simpa [visit, levelorder] using visitQueue_levels hheight hfuel

end DocQuery.Tree
