import DocQuery.Proofs.Query.Beta
import DocQuery.Term.Tree

/-! The binary view and the classification of a node.

Both split a node into a head and a payload, and each does it for itself. They agree on
argument terms: the first two of them are the children, read in the same way. They agree on a
payload that is kept as data only if it is an array. The view leaves any other payload out
(`ofTerm_classified`), for instance the bare id of a variable. -/
namespace DocQuery.Tree

theorem firstOf_eq (terms : List Json) : firstOf terms = terms[0]?.map ofTerm := by
  cases terms <;> simp [firstOf]

theorem secondOf_eq (terms : List Json) : secondOf terms = terms[1]?.map ofTerm := by
  match terms with
  | [] | [_] | _ :: _ :: _ => simp [secondOf]

section Nodes
variable {op : Operation} {head payload : Json} {terms rest : List Json}

/-- An array that is kept as data is a leaf. -/
theorem ofTerm_kept (hop : Operation.ofHead? head = some op) (hkeeps : op.keepsPayload = true) :
    ofTerm (.array (head :: .array terms :: rest)) =
      .node head (some (leaf (.array terms))) none := by
  simp [ofTerm, ofHead, hop, hkeeps]

/-- The first two argument terms are the children. -/
theorem ofTerm_list (hop : Operation.ofHead? head = some op) (hkeeps : op.keepsPayload = false) :
    ofTerm (.array (head :: .array terms :: rest)) =
      .node head (terms[0]?.map ofTerm) (terms[1]?.map ofTerm) := by
  simp [ofTerm, ofHead, hop, hkeeps, firstOf_eq, secondOf_eq]

/-- A payload that is no array is not in the view. -/
theorem ofTerm_bare (h : ∀ elements, payload ≠ .array elements) :
    ofTerm (.array (head :: payload :: rest)) = leaf head := by
  cases payload with
  | array elements => exact absurd rfl (h elements)
  | _ => simp [ofTerm, ofHead]

end Nodes

theorem classify_node (op : Operation) (args : List Json) :
    classify (.array (Handle.node op args)) =
      .ok (.operator ⟨op, .ofElement op (some (.array args)), none⟩) := by
  rw [classify, Query.ofItems_node]
  rfl

theorem keepsPayload_iff {op : Operation} :
    op.keepsPayload = true ↔ op = .makeArray ∨ op = .var := by
  simp [Operation.keepsPayload]

theorem ofElement_kept {op : Operation} (hkeeps : op.keepsPayload = true) (element : Json) :
    Payload.ofElement op (some element) = .data element := by
  cases element <;> simp [Payload.ofElement, hkeeps]

/-- The view of a node that is classified as an operator. The payload of an array or a variable
is data. It becomes a single leaf on the left if it is an array, and is left out if it is
anything else. An array below any other operation is a list of terms, and the views of the first
two are the children. -/
theorem ofTerm_classified {items : List Json} {operator : Operator}
    (h : classify (.array items) = .ok (.operator operator)) :
    ∃ head, items.head? = some head ∧
      (operator.operation = .makeArray ∨ operator.operation = .var →
        ∀ payload, items[1]? = some payload →
          operator.payload = .data payload ∧
            ((∃ elements, payload = .array elements) →
              ofTerm (.array items) = .node head (some (leaf payload)) none) ∧
            ((∀ elements, payload ≠ .array elements) → ofTerm (.array items) = leaf head)) ∧
      (¬(operator.operation = .makeArray ∨ operator.operation = .var) →
        ∀ terms, items[1]? = some (.array terms) →
          operator.payload = .list terms ∧
            ofTerm (.array items) = .node head (terms[0]?.map ofTerm) (terms[1]?.map ofTerm)) := by
  obtain ⟨operator, hoperator, h⟩ := bind_eq_ok h
  cases h
  obtain ⟨hop, hpayload⟩ := ofItems_eq_ok hoperator
  match items with
  | [] => cases hop
  | [head] => exact ⟨head, rfl, fun _ _ => nofun, fun _ _ => nofun⟩
  | head :: element :: rest =>
    rw [hpayload, ← keepsPayload_iff]
    refine ⟨head, rfl, ?_, ?_⟩
    · rintro hkeeps _ ⟨⟩
      refine ⟨ofElement_kept hkeeps element, ?_, ofTerm_bare⟩
      rintro ⟨elements, rfl⟩
      exact ofTerm_kept hop hkeeps
    · rintro hkeeps terms ⟨⟩
      have hkeeps : operator.operation.keepsPayload = false := by simpa using hkeeps
      exact ⟨by simp [Payload.ofElement, hkeeps], ofTerm_list hop hkeeps⟩

/-- A sum is seen with its numbers, an array with all of its elements in one leaf. -/
theorem ofTerm_classified_sum :
    let made := Json.array (Handle.node .makeArray [.null, .null, .null])
    let sum := Json.array (Handle.node .add [made, .ofNat 1])
    ofTerm sum = .node (.ofNat 24)
      (some (.node (.ofNat 2) (some (leaf (.array [.null, .null, .null]))) none))
      (some (leaf (.ofNat 1))) := by
  intro made sum
  have hmade : classify made =
      .ok (.operator ⟨.makeArray, .data (.array [.null, .null, .null]), none⟩) := classify_node ..
  have hsum : classify sum = .ok (.operator ⟨.add, .list [made, .ofNat 1], none⟩) := classify_node ..
  obtain ⟨_, ⟨⟩, hkept, -⟩ := ofTerm_classified hmade
  obtain ⟨_, ⟨⟩, -, hlist⟩ := ofTerm_classified hsum
  have hleaf : ofTerm made = .node (.ofNat 2) (some (leaf (.array [.null, .null, .null]))) none :=
    (hkept (.inl rfl) _ rfl).2.1 ⟨_, rfl⟩
  have hnumber : ofTerm (.ofNat 1) = leaf (.ofNat 1) := rfl
  rw [(hlist nofun _ rfl).2]
  show Tree.node _ (some (ofTerm made)) (some (ofTerm (.ofNat 1))) = _
  rw [hleaf, hnumber]
  rfl

/-- A variable whose id stands in no list is classified with the id as its payload. In the view
it has no child. -/
theorem ofTerm_variable_bare :
    let items := [.ofNat Operation.var.code, .ofNat 5]
    classify (.array items) = .ok (.operator ⟨.var, .data (.ofNat 5), none⟩) ∧
      items[1]? = some (.ofNat 5) ∧
      ofTerm (.array items) ≠ .node (.ofNat 10) (some (leaf (.ofNat 5))) none := by
  intro items
  have hoperator : Operator.ofItems items = .ok ⟨.var, .data (.ofNat 5), none⟩ := by
    unfold Operator.ofItems
    dsimp only [items]
    rw [Query.ofHead?_code]
    rfl
  refine ⟨?_, rfl, ?_⟩
  · rw [classify, hoperator]
    rfl
  · have hbare : ofTerm (.array items) = leaf (.ofNat 10) := ofTerm_bare fun _ heq => nomatch heq
    rw [hbare]
    nofun

end DocQuery.Tree
