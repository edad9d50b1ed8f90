import DocQuery.Proofs.Query.Policy
import DocQuery.Proofs.Run.Write
import DocQuery.Proofs.Store.Lookup

/-! Runs that only read.

A term that writes nowhere below it leaves the store as it is, and the rows that it ties to
a table are rows of that table. What stands in data is no part of a term: an array of data
may look like a write. -/
namespace DocQuery

/-! ### Reading a store -/

namespace Run
variable {α β : Type} {store : Store} {P : α → Prop} {Q : β → Prop}

/-- From a store, a run leaves the store as it is, and its result is as the predicate
says. -/
def Reading (store : Store) (x : Run α) (P : α → Prop) : Prop :=
  ∀ context drawn, ∃ result drawn', x.outcome context ⟨store, drawn⟩ = (result, ⟨store, drawn'⟩) ∧
    ∀ a, result = .ok a → P a

namespace Reading

theorem bind {x : Run α} {f : α → Run β} (hx : Reading store x P)
    (hf : ∀ a, P a → Reading store (f a) Q) : Reading store (x >>= f) Q := by
  intro context drawn
  obtain ⟨result, drawn', hx, hP⟩ := hx context drawn
  rw [outcome_bind, hx]
  cases result with
  | error fault => exact ⟨.error fault, drawn', rfl, fun b hb => by cases hb⟩
  | ok a => exact hf a (hP a rfl) context drawn'

theorem caught {x : Run α} (catches : Fault → Bool) (hx : Reading store x P) :
    Reading store (Run.caught catches x) fun result => ∀ a, result = .ok a → P a := by
  intro context drawn
  obtain ⟨result, drawn', hx, hP⟩ := hx context drawn
  rw [outcome_caught, hx]
  cases result with
  | ok a => exact ⟨.ok (.ok a), drawn', rfl, fun result hr => by cases hr; exact hP⟩
  | error fault =>
    by_cases h : catches fault
    · refine ⟨.ok (.error fault), drawn', if_pos h, fun result hr => ?_⟩
      cases hr
      exact fun a ha => by cases ha
    · exact ⟨.error fault, drawn', if_neg h, fun a ha => by cases ha⟩

theorem mono {P' : α → Prop} {x : Run α} (hx : Reading store x P) (h : ∀ a, P a → P' a) :
    Reading store x P' := by
  intro context drawn
  obtain ⟨result, drawn', hx, hP⟩ := hx context drawn
  exact ⟨result, drawn', hx, fun a ha => h a (hP a ha)⟩

/-- What a run is known to end as is what it ends as. -/
theorem of_outcome {x : Run α} (hx : Reading store x P) {context : Context} {drawn : Nat} {a : α}
    {after : State} (h : x.outcome context ⟨store, drawn⟩ = (.ok a, after)) : P a := by
  obtain ⟨result, drawn', hresult, hP⟩ := hx context drawn
  rw [h] at hresult
  exact hP a (congrArg Prod.fst hresult).symm

theorem store_eq : Reading store Run.store (· = store) :=
  fun _ drawn => ⟨.ok store, drawn, rfl, fun _ h => (Except.ok.inj h).symm⟩

theorem table_eq (name : TableName) :
    Reading store (Run.table name) fun table => store.table? name = some table := by
  intro context drawn
  refine ⟨store.table name, drawn, ?_, fun table h => Store.table_eq_ok.mp h⟩
  unfold Run.table
  rw [outcome_bind, outcome_store]
  exact outcome_lift context _ _

theorem opened {name : TableName} {k : Table → Run β}
    (hk : ∀ table, store.table? name = some table → Reading store (k table) Q) :
    Reading store (Run.store >>= fun s => liftM (s.table name) >>= k) Q := by
  rw [← bind_assoc]
  exact bind (table_eq name) hk

end Reading

/-- Runs leave a store as it is, and rows that are tied to a table are rows of it. -/
def reading (store : Store) : Logic where
  Holds := Reading store
  Faults _ := True
  operational _ _ := trivial
  Database _ := True
  Rows name rows := ∀ table, store.table? name = some table → rows ⊆ table.documents
  rows_subset h hp table htable := List.Subset.trans hp (h table htable)
  pure {_ _ a} ha := fun _ drawn => ⟨.ok a, drawn, rfl, fun _ h => Except.ok.inj h ▸ ha⟩
  bind := Reading.bind
  fail {_ _ fault} _ := fun _ drawn => ⟨.error fault, drawn, rfl, fun _ h => by cases h⟩
  caught := Reading.caught
  context _ := fun context drawn => ⟨.ok context, drawn, rfl, fun _ _ => trivial⟩
  draw _ := fun context drawn => ⟨.ok (context.random drawn), drawn + 1, rfl, fun _ _ => trivial⟩
  table {name} _ := Reading.mono (Reading.table_eq name) fun table h found hfound => by
    cases h.symm.trans hfound
    exact List.Subset.refl _

/-- Naming a database comes to it, if there is one. -/
theorem reading_named (store : Store) (db : String) :
    (reading store).Holds (Call.named db) (· = .database db) :=
  Call.holds_named (Logic.runs Reading.store_eq) rfl

end Run

/-! ### Terms that only read -/

/-- Operations that change the store. -/
def Operation.writes (op : Operation) : Bool := op == .insert || Call.writesRows op

/-- No term that evaluation looks into names a write. -/
inductive ReadOnly : Json → Prop
  | literal {v : Json} (h : ∀ items, v ≠ .array items) : ReadOnly v
  | node {items : List Json}
    (head : ∀ op, items.head?.bind Operation.ofHead? = some op → op.writes = false)
    (below : ∀ term ∈ subterms items, ReadOnly term) : ReadOnly (.array items)

theorem ReadOnly.subterm {items : List Json} (h : ReadOnly (.array items)) :
    ∀ term ∈ subterms items, ReadOnly term := by
  cases h with
  | literal h => exact absurd rfl (h items)
  | node head below => exact below

namespace Policy

/-- No call writes, and no function has a body that does. -/
def readOnly : Policy where
  Calls op _ := op.writes = false
  Functions f := ReadOnly f.body

theorem readOnly_admits (settings : Settings) : readOnly.Admits settings ReadOnly where
  below _ h := h.subterm
  call items operator args h hop _ _ := by
    cases h with
    | literal h => exact absurd rfl (h items)
    | node head below => exact head _ (ofItems_eq_ok hop).1
  database := rfl
  unpinned _ _ _ := rfl
  function _ _ body _ h hbody _ _ := h.subterm body hbody

theorem readOnly_sound (store : Store) : readOnly.Sound (Run.reading store) where
  run call op args options hcall hargs := by
    by_cases hop : op = .db
    · exact Call.holds_run_database hargs hop fun db =>
        Run.Reading.mono (Run.reading_named store db) fun d hd => by
          rw [hd]
          trivial
    · refine Call.holds_run hargs hop fun spliced ha hsame _ receiver hr => ?_
      have hwrites : spliced.op.writes = false := hsame ▸ hcall
      refine Call.holds_dispatch ha hr (fun _ => ?_) (fun h => ?_) fun h => ?_
      · exact Call.holds_table ha hr fun _ _ _ _ _ => List.nil_subset _
      · rw [h] at hwrites
        cases hwrites
      · rw [Operation.writes, h, Bool.or_true] at hwrites
        cases hwrites
  body f args handle hf h := Admits.call_means f (readOnly_admits f.settings) hf h
  fails _ _ _ _ _ := trivial

end Policy

end DocQuery
