import DocQuery.Proofs.Tree.Traversal
import DocQuery.Proofs.Tree.View
import DocQuery.Proofs.Value.Same
import Mathlib.Data.List.Forall2

/-! The nested view determines the tree.

A node is written as an array of one, two or three elements, so the length says which children
it has, unless a node has a child on the right only: that one is written like a node with a child
on the left only. The view of a term has no such node (`ofTerm_leftFirst`). The values are read
back from their places because an array among them is put into an object. An object that looks
like one which was made for an array is the exception that remains. -/
namespace DocQuery

/-- What the nested view needs of an equality of values. -/
structure Json.Equality (eq : Json → Json → Prop) : Prop where
  symm : ∀ {a b}, eq a b → eq b a
  items : ∀ {as b}, eq (.array as) b → ∃ bs, b = .array bs ∧ List.Forall₂ eq as bs
  field : ∀ {key a b}, eq (.object [(key, a)]) b → ∃ c, b = .object [(key, c)] ∧ eq a c

namespace Json

theorem Equality.arrays {eq : Json → Json → Prop} (heq : Equality eq) {as bs : List Json}
    (h : eq (.array as) (.array bs)) : List.Forall₂ eq as bs := by
  obtain ⟨_, ⟨⟩, hitems⟩ := heq.items h
  exact hitems

theorem Equality.eq : Equality Eq where
  symm h := h.symm
  items := by
    rintro as _ rfl
    exact ⟨as, rfl, List.forall₂_same.mpr fun _ _ => rfl⟩
  field := by
    rintro key a _ rfl
    exact ⟨a, rfl, rfl⟩

theorem Equality.same : Equality (fun a b => a.same b = true) where
  symm {a b} h := by rw [same_comm b a, h]
  items {as b} h := by
    cases b with
    | array bs => exact ⟨bs, rfl, forall₂_of_sameItems h⟩
    | _ => simp [Json.same] at h
  field {key a b} h := by
    cases b with
    | object fields =>
      match fields with
      | [(key', c)] =>
        obtain ⟨rfl, hvalue⟩ : key = key' ∧ a.same c = true := by
          simpa [Json.same, sameFields] using h
        exact ⟨c, rfl, hvalue⟩
      | [] | _ :: _ :: _ => simp [Json.same, sameFields] at h
    | _ => simp [Json.same] at h

end Json

namespace Tree

mutual

/-- The same shape, with equal values at each node. -/
def Alike (eq : Json → Json → Prop) : Tree → Tree → Prop
  | .node a left right, .node b left' right' =>
    eq a b ∧ AlikeChild eq left left' ∧ AlikeChild eq right right'

def AlikeChild (eq : Json → Json → Prop) : Option Tree → Option Tree → Prop
  | none, none => True
  | some a, some b => Alike eq a b
  | _, _ => False

end

mutual

theorem alike_eq_iff : ∀ s t : Tree, Alike Eq s t ↔ s = t
  | .node a left right, .node b left' right' => by
    simp [Alike, alikeChild_eq_iff left left', alikeChild_eq_iff right right']

theorem alikeChild_eq_iff : ∀ s t : Option Tree, AlikeChild Eq s t ↔ s = t
  | none, none => by simp [AlikeChild]
  | some s, some t => by simp [AlikeChild, alike_eq_iff s t]
  | none, some _ | some _, none => by simp [AlikeChild]

end

mutual

theorem alike_same_iff : ∀ s t : Tree, Alike (fun a b => a.same b = true) s t ↔ s.same t = true
  | .node a left right, .node b left' right' => by
    simp [Alike, same, alikeChild_same_iff left left', alikeChild_same_iff right right', and_assoc]

theorem alikeChild_same_iff : ∀ s t : Option Tree,
    AlikeChild (fun a b => a.same b = true) s t ↔ sameChild s t = true
  | none, none => by simp [AlikeChild, sameChild]
  | some s, some t => by simp [AlikeChild, sameChild, alike_same_iff s t]
  | none, some _ | some _, none => by simp [AlikeChild, sameChild]

end

/-! ### The view of a term -/

/-- No node has a child on the right only. -/
inductive LeftFirst : Tree → Prop
  | leaf (value : Json) : LeftFirst (leaf value)
  | one (value : Json) {left : Tree} : LeftFirst left → LeftFirst (.node value (some left) none)
  | two (value : Json) {left right : Tree} :
    LeftFirst left → LeftFirst right → LeftFirst (.node value (some left) (some right))

mutual

theorem ofTerm_leftFirst : ∀ term : Json, LeftFirst (ofTerm term)
  | .array (head :: rest) => by
    rw [ofTerm]
    exact ofHead_leftFirst head _ rest
  | .array [] | .null | .bool _ | .number _ | .string _ | .object _ => .leaf _

theorem ofHead_leftFirst (head : Json) (keepsPayload : Bool) :
    ∀ rest : List Json, LeftFirst (ofHead head keepsPayload rest)
  | .array terms :: _ => by
    rw [ofHead]
    cases keepsPayload with
    | true => exact .one head (.leaf _)
    | false => exact arguments_leftFirst head terms
  | [] | .null :: _ | .bool _ :: _ | .number _ :: _ | .string _ :: _ | .object _ :: _ => .leaf head

theorem arguments_leftFirst (head : Json) :
    ∀ terms : List Json, LeftFirst (.node head (firstOf terms) (secondOf terms))
  | [] => .leaf head
  | [first] => .one head (ofTerm_leftFirst first)
  | first :: second :: _ => .two head (ofTerm_leftFirst first) (ofTerm_leftFirst second)

end

/-! ### Reading the nested view back -/

/-- No value looks like one that was put into an object for being an array. -/
def Plain (tree : Tree) : Prop :=
  ∀ node ∈ tree.nodes, ∀ content, node.value ≠ .object [("array", content)]

theorem plain_iff {tree : Tree} :
    tree.Plain ↔ (∀ content, tree.value ≠ .object [("array", content)]) ∧
      ∀ child ∈ tree.children, child.Plain := by
  simp only [Plain, nodes_eq tree, List.forall_mem_cons, List.mem_flatMap]
  refine and_congr_right fun _ => ⟨fun h child hchild node hnode => ?_, ?_⟩
  · exact h node ⟨child, hchild, hnode⟩
  · rintro h node ⟨child, hchild, hnode⟩
    exact h child hchild node hnode

variable {eq : Json → Json → Prop} {s t : Tree}

theorem tagged_array (items : List Json) :
    tagged (.array items) = .object [("array", .array items)] := rfl

theorem tagged_of_ne {value : Json} (h : ∀ items, value ≠ .array items) : tagged value = value := by
  cases value with
  | array items => exact absurd rfl (h items)
  | _ => rfl

/-- What is read back as an array was one. -/
theorem array_of_tagged (heq : Json.Equality eq) {items : List Json} {b : Json}
    (hb : ∀ content, b ≠ .object [("array", content)]) (h : eq (tagged (.array items)) (tagged b)) :
    eq (.array items) b := by
  obtain ⟨content, hcontent, hitems⟩ := heq.field h
  cases b with
  | array bs =>
    rw [tagged_array] at hcontent
    cases hcontent
    exact hitems
  | _ => exact absurd hcontent (hb content)

theorem eq_of_tagged (heq : Json.Equality eq) {a b : Json}
    (ha : ∀ content, a ≠ .object [("array", content)])
    (hb : ∀ content, b ≠ .object [("array", content)]) (h : eq (tagged a) (tagged b)) : eq a b := by
  by_cases harray : ∃ items, a = .array items
  · obtain ⟨items, rfl⟩ := harray
    exact array_of_tagged heq hb h
  · by_cases harray' : ∃ items, b = .array items
    · obtain ⟨items, rfl⟩ := harray'
      exact heq.symm (array_of_tagged heq ha (heq.symm h))
    · rw [not_exists] at harray harray'
      rwa [tagged_of_ne harray, tagged_of_ne harray'] at h

theorem alike_of_nested (heq : Json.Equality eq) (hs : LeftFirst s) (ht : LeftFirst t)
    (hplain : s.Plain) (hplain' : t.Plain) (h : eq s.nested t.nested) : Alike eq s t := by
  induction hs generalizing t with
  | leaf a =>
    obtain ⟨ha, -⟩ := plain_iff.mp hplain
    obtain ⟨hb, -⟩ := plain_iff.mp hplain'
    cases ht with
    | leaf b =>
      obtain _ | ⟨hvalue, -⟩ := heq.arrays h
      exact ⟨eq_of_tagged heq ha hb hvalue, trivial, trivial⟩
    | one b hleft => cases (heq.arrays h).length_eq
    | two b hleft hright => cases (heq.arrays h).length_eq
  | one a hleft ih =>
    obtain ⟨ha, hchildren⟩ := plain_iff.mp hplain
    obtain ⟨hb, hchildren'⟩ := plain_iff.mp hplain'
    cases ht with
    | leaf b => cases (heq.arrays h).length_eq
    | one b hleft' =>
      obtain _ | ⟨hvalue, _ | ⟨hl, -⟩⟩ := heq.arrays h
      exact ⟨eq_of_tagged heq ha hb hvalue,
        ih hleft' (hchildren _ (by simp)) (hchildren' _ (by simp)) hl, trivial⟩
    | two b hleft' hright' => cases (heq.arrays h).length_eq
  | two a hleft hright ihleft ihright =>
    obtain ⟨ha, hchildren⟩ := plain_iff.mp hplain
    obtain ⟨hb, hchildren'⟩ := plain_iff.mp hplain'
    cases ht with
    | leaf b => cases (heq.arrays h).length_eq
    | one b hleft' => cases (heq.arrays h).length_eq
    | two b hleft' hright' =>
      obtain _ | ⟨hl, _ | ⟨hvalue, _ | ⟨hr, -⟩⟩⟩ := heq.arrays h
      exact ⟨eq_of_tagged heq ha hb hvalue,
        ihleft hleft' (hchildren _ (by simp)) (hchildren' _ (by simp)) hl,
        ihright hright' (hchildren _ (by simp)) (hchildren' _ (by simp)) hr⟩

/-- Terms with the same nested view have the same view as a tree, both for structural equality
and for the one that does not tell the two zeros apart. -/
theorem ofTerm_eq_of_nested {a b : Json} (ha : (ofTerm a).Plain) (hb : (ofTerm b).Plain) :
    ((ofTerm a).nested = (ofTerm b).nested → ofTerm a = ofTerm b) ∧
      ((ofTerm a).nested.same (ofTerm b).nested = true → (ofTerm a).same (ofTerm b) = true) := by
  have hleft := ofTerm_leftFirst a
  have hright := ofTerm_leftFirst b
  exact ⟨fun h => (alike_eq_iff ..).mp (alike_of_nested .eq hleft hright ha hb h),
    fun h => (alike_same_iff ..).mp (alike_of_nested .same hleft hright ha hb h)⟩

/-- Two sums that begin alike. The third term of one is in neither view. -/
theorem ofTerm_eq_of_nested_sums :
    let made := Json.array (Handle.node .makeArray [.null])
    let a := Json.array (Handle.node .add [made, .string "x"])
    let b := Json.array (Handle.node .add [made, .string "x", .null])
    (ofTerm a).Plain ∧ (ofTerm b).Plain ∧ (ofTerm a).nested = (ofTerm b).nested ∧
      ofTerm a = ofTerm b ∧ (ofTerm a).same (ofTerm b) = true := by
  intro made a b
  have hmade : ofTerm made = .node (.ofNat 2) (some (leaf (.array [.null]))) none :=
    ofTerm_kept (Query.ofHead?_code .makeArray) rfl
  have hsum (rest : List Json) :
      ofTerm (.array (Handle.node .add (made :: .string "x" :: rest))) =
        .node (.ofNat 24) (some (.node (.ofNat 2) (some (leaf (.array [.null]))) none))
          (some (leaf (.string "x"))) := by
    refine (ofTerm_list (Query.ofHead?_code .add) rfl).trans ?_
    simp only [List.getElem?_cons_zero, List.getElem?_cons_succ, Option.map_some, hmade]
    rfl
  have ha : ofTerm a = _ := hsum []
  have hb : ofTerm b = _ := hsum [.null]
  have hplain : (ofTerm a).Plain := by
    rw [ha]
    simp [Plain, nodes, nodesOfChild, leaf, value, Json.ofNat]
  have hplain' : (ofTerm b).Plain := by rwa [hb, ← ha]
  have hnested : (ofTerm a).nested = (ofTerm b).nested := by rw [ha, hb]
  have hsame : (ofTerm a).nested.same (ofTerm b).nested = true := by
    rw [hnested]
    exact Json.same_self _
  have h := ofTerm_eq_of_nested hplain hplain'
  exact ⟨hplain, hplain', hnested, h.1 hnested, h.2 hsame⟩

/-- Without the condition, an array and the object that it is put into are written alike. -/
example :
    let a := Json.array []
    let b := Json.object [("array", .array [])]
    (ofTerm a).nested = (ofTerm b).nested ∧ ofTerm a ≠ ofTerm b :=
  ⟨rfl, nofun⟩

end Tree

end DocQuery
