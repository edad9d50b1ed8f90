import DocQuery.Proofs.Query.Avoids

/-! Runs that the state has no say in.

A term that names no table and asks for neither the time nor random numbers comes to the
same in every state and every context, as long as the same databases are there, and it
changes nothing. So what it computes for a row may be computed sooner or later. -/
namespace DocQuery

/-! ### Steady runs -/

namespace Run
variable {α β : Type} {databases : String → Bool} {P : α → Prop} {Q : β → Prop}

/-- The state has these databases and no others. -/
def State.Has (databases : String → Bool) (state : State) : Prop :=
  ∀ db, state.store.hasDatabase db = databases db

/-- In every state with these databases the run ends as the result says, whatever the
context, and leaves the state as it is. -/
def Ends (databases : String → Bool) (x : Run α) (result : Except Fault α) : Prop :=
  ∀ context state, state.Has databases → x.outcome context state = (result, state)

/-- In all states with these databases, and in all contexts, the run ends the same and
leaves the state as it is. Its result is as the predicate says. -/
def Steady (databases : String → Bool) (x : Run α) (P : α → Prop) : Prop :=
  ∃ result, Ends databases x result ∧ ∀ a, result = .ok a → P a

theorem Steady.bind {x : Run α} {f : α → Run β} (hx : Steady databases x P)
    (hf : ∀ a, P a → Steady databases (f a) Q) : Steady databases (x >>= f) Q :=
  Uniform.bind hx hf

theorem Steady.caught {x : Run α} (catches : Fault → Bool) (hx : Steady databases x P) :
    Steady databases (Run.caught catches x) fun result => ∀ a, result = .ok a → P a :=
  Uniform.caught catches hx

/-- Runs end the same in all states with these databases. They read no table and ask for
neither the time nor random numbers. -/
def steady (databases : String → Bool) : Logic where
  Holds := Steady databases
  Faults _ := True
  operational _ _ := trivial
  Database _ := True
  Rows _ _ := False
  rows_subset h _ := h
  Chance := False
  pure {_ _ a} ha := ⟨.ok a, fun _ _ _ => rfl, fun _ h => Except.ok.inj h ▸ ha⟩
  bind := Steady.bind
  fail {_ _ fault} _ := ⟨.error fault, fun _ _ _ => rfl, fun _ h => by cases h⟩
  caught := Steady.caught
  context h := h.elim
  draw h := h.elim
  table h := h.elim

theorem steady_named (databases : String → Bool) (db : String) :
    (steady databases).Holds (Call.named db) (· = .database db) := by
  refine ⟨if databases db then .ok (.database db) else .error (.noDatabase db),
    fun context state hstate => ?_, fun d hd => ?_⟩
  · unfold Call.named
    rw [outcome_bind, outcome_store]
    dsimp only
    rw [hstate db]
    split <;> rfl
  · split at hd
    · exact (Except.ok.inj hd).symm
    · cases hd

end Run

/-! ### Terms that run steadily -/

/-- Operations whose results vary with the state or the context. -/
def Operation.unsteady (op : Operation) : Bool := op == .table || Call.usesChance op

namespace Policy
variable (databases : String → Bool)

/-- Calls of no unsteady operation, with functions that make none, are steady. Writes are
as well: without a table there is nothing that they could write to. -/
theorem steady_sound : (avoiding Operation.unsteady).Sound (Run.steady databases) := by
  refine avoiding_sound trivial (fun _ => trivial) rfl (fun db => ?_) (fun op hchance hop => ?_)
    nofun (fun _ _ _ _ _ hname => hname.elim) (fun _ _ _ _ _ hname => hname.elim)
  · exact Run.Logic.mono (Run.steady_named databases db) fun d hd => by
      rw [hd]
      trivial
  · simp [Operation.unsteady, hchance] at hop

end Policy

end DocQuery
