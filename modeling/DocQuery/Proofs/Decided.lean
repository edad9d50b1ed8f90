import DocQuery.Proofs.Query.Avoids

/-! Runs that the store decides.

A term that writes nothing and asks for neither the time nor random numbers comes to what the
store makes of it: run again in the same store, it ends the same, whatever the context and
however many random numbers were drawn, and the state stays as it is. -/
namespace DocQuery

namespace Run

/-- In a store, runs end the same in every context and leave the state as it is. -/
def decided (store : Store) : Logic where
  Holds := Uniform fun state => state.store = store
  Faults _ := True
  operational _ _ := trivial
  Database _ := True
  Rows _ _ := True
  rows_subset _ _ := trivial
  Chance := False
  pure := Uniform.pure
  bind := Uniform.bind
  fail {_ _ fault} _ := Uniform.fail fault
  caught := Uniform.caught
  context h := h.elim
  draw h := h.elim
  table {name} _ := ⟨store.table name, fun context state hstate => by
    unfold Run.table
    rw [outcome_bind, outcome_store, hstate]
    exact outcome_lift context state _, fun _ _ => trivial⟩

theorem decided_named (store : Store) (db : String) :
    (decided store).Runs (Call.named db) := by
  refine Call.holds_named ⟨.ok store, fun context state hstate => ?_, fun _ _ => trivial⟩ trivial
  rw [outcome_store, hstate]

/-- What the run comes to in the store is known, and is read off any run of it. -/
theorem decided_outcome {store : Store} {α : Type} {P : α → Prop} {x : Run α}
    (hx : (decided store).Holds x P) {context : Context} {drawn : Nat} {a : α} {after : State}
    (h : x.outcome context ⟨store, drawn⟩ = (.ok a, after)) :
    P a ∧ ∀ context drawn, x.outcome context ⟨store, drawn⟩ = (.ok a, ⟨store, drawn⟩) := by
  obtain ⟨result, hresult, hP⟩ := hx
  cases (hresult context ⟨store, drawn⟩ rfl).symm.trans h
  exact ⟨hP a rfl, fun context drawn => hresult context ⟨store, drawn⟩ rfl⟩

end Run

/-! ### Terms that the store decides -/

/-- Operations that write, or whose results vary from run to run. -/
def Operation.undecided (op : Operation) : Bool := op.writes || Call.usesChance op

theorem Operation.code_of_undecided {op : Operation} (h : op.undecided = true) :
    op.code ∈ [53, 54, 55, 56, 81, 103, 151, 169] := by
  cases op <;> first | decide | cases h

namespace Policy

theorem decided_sound (store : Store) :
    (avoiding Operation.undecided).Sound (Run.decided store) := by
  refine avoiding_sound trivial (fun _ => trivial) rfl (fun db => ?_) (fun op hchance hop => ?_)
    (fun _ _ _ _ => trivial) (fun hop => ?_) (fun op hrows hop => ?_)
  · exact Run.Logic.mono (Run.decided_named store db) fun d _ => by cases d <;> trivial
  · simp [Operation.undecided, hchance] at hop
  · cases hop
  · simp [Operation.undecided, Operation.writes, hrows] at hop

end Policy

end DocQuery
