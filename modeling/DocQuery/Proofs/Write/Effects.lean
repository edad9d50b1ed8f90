import DocQuery.Proofs.Store.Keys
import DocQuery.Proofs.Value.Same
import DocQuery.Proofs.Write.Rows

/-! Effects on a table.

An effect changes at most one document. A row is deleted by its key, and a row is replaced
by a document with the same key, so both change the row that they name, as long as it
stands in the table. Only a document for a missing row is put by a key of its own. -/
namespace DocQuery

/-! ### What settling comes to -/

/-- The effects that a computed document can settle to, for an old one. -/
inductive Effect.Settles (primaryKey : String) (old : Json) : Effect → Prop
  | skipped : Settles primaryKey old .skipped
  | unchanged : Settles primaryKey old .unchanged
  | failed (fault : Fault) : Settles primaryKey old (.failed fault)
  | deleted (h : old.isNull = false) : Settles primaryKey old (.deleted old)
  | inserted (new : Json) (h : old.isNull = true) (hobject : new.isObject = true) :
    Settles primaryKey old (.inserted new)
  | replaced (new : Json) (h : old.isNull = false) (hobject : new.isObject = true)
    (hkey : Call.settle.sameKey primaryKey old new = true) :
    Settles primaryKey old (.replaced old new)

theorem Call.settle_settles (op : Operation) (primaryKey : String) (old computed : Json) :
    Effect.Settles primaryKey old (settle op primaryKey old computed) := by
  unfold settle
  dsimp only
  generalize (if op = .update then if computed.isNull then old else old.merge computed
    else computed) = new
  split
  · exact .skipped
  · next h _ => exact .deleted h
  · by_cases hobject : new.isObject
    swap
    · rw [if_pos (by simpa using hobject)]
      exact .failed _
    rw [if_neg (by simpa using hobject)]
    by_cases hkey : (!old.isNull && !settle.sameKey primaryKey old new) = true
    · rw [if_pos hkey]
      exact .failed _
    rw [if_neg hkey]
    by_cases hsame : new.same old
    · rw [if_pos hsame]
      exact .unchanged
    rw [if_neg hsame]
    by_cases hnull : old.isNull
    · rw [if_pos hnull]
      exact .inserted new hnull hobject
    rw [if_neg hnull]
    simp only [Bool.not_eq_true] at hnull
    refine .replaced new hnull hobject ?_
    simpa [hnull] using hkey

namespace Effect

/-- The stored row that an effect changes. -/
def target? : Effect → Option Json
  | .replaced old _ | .deleted old => some old
  | _ => none

namespace Of
variable {op : Operation} {primaryKey : String} {row? : Option Json} {e : Effect}

/-- A row is deleted, or an effect settles for it; a missing row settles as `null`. -/
theorem cases (h : Of op primaryKey row? e) :
    (∃ old, row? = some old ∧ e = .deleted old) ∨
      ∃ old, (row? = some old ∨ row? = none ∧ old = .null) ∧ Settles primaryKey old e := by
  cases h with
  | @deleted old hop => exact .inl ⟨old, rfl, rfl⟩
  | missing hop => exact .inr ⟨.null, .inr ⟨rfl, rfl⟩, .skipped⟩
  | failed fault =>
    refine .inr ⟨row?.getD .null, ?_, .failed fault⟩
    cases row? with
    | none => exact .inr ⟨rfl, rfl⟩
    | some old => exact .inl rfl
  | @settled _ old computed hop hold =>
    exact .inr ⟨old, hold.imp_right And.right, Call.settle_settles op primaryKey old computed⟩

/-- An effect changes the row that it is an effect on. -/
theorem target (h : Of op primaryKey row? e) {old : Json} (ht : e.target? = some old) :
    row? = some old := by
  obtain ⟨row, hrow, rfl⟩ | ⟨row, hrow, hs⟩ := h.cases
  · cases ht
    exact hrow
  · have hstored : row.isNull = false → row? = some row := by
      intro hnull
      rcases hrow with h | ⟨-, rfl⟩
      · exact h
      · cases hnull
    cases hs with
    | deleted hnull =>
      cases ht
      exact hstored hnull
    | replaced new hnull hobject hkey =>
      cases ht
      exact hstored hnull
    | _ => cases ht

/-- Only for a row that is missing, or is `null`, a document is inserted. -/
theorem inserted {new : Json} (h : Of op primaryKey row? (.inserted new)) :
    row?.getD .null = .null := by
  obtain ⟨row, -, he⟩ | ⟨row, hrow, hs⟩ := h.cases
  · cases he
  · cases hs with
    | inserted _ hnull hobject =>
      rcases hrow with rfl | ⟨rfl, -⟩
      · cases row <;> first | rfl | cases hnull
      · rfl

/-- Nothing is inserted for a missing row unless it is replaced. -/
theorem replace_of_missing (h : Of op primaryKey none e) :
    op = .replace ∨ e = .skipped ∨ ∃ fault, e = .failed fault := by
  cases h with
  | missing hop => exact .inr (.inl rfl)
  | failed fault => exact .inr (.inr ⟨fault, rfl⟩)
  | settled computed hop hold =>
    rcases hold with hold | ⟨hop, -⟩
    · cases hold
    · exact .inl hop

/-- A row is replaced by a document that has the same key, or none if the row has none. -/
theorem replaced {old new : Json} (h : Of op primaryKey row? (.replaced old new)) :
    Call.settle.sameKey primaryKey old new = true := by
  obtain ⟨row, -, he⟩ | ⟨row, -, hs⟩ := h.cases
  · cases he
  · cases hs with
    | replaced _ hnull hobject hkey => exact hkey

end Of
end Effect

end DocQuery
