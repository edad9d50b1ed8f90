import DocQuery.Proofs.Reading
import Mathlib.Data.List.Forall2

/-! Writes of rows.

A write of rows works out its effects while the store stays as it is, and then replays the
writes that bring them about. What it works out is a `RowWrite`: a table of the store, rows
of it, and an effect on each of them that the operation can have. -/
namespace DocQuery

/-! ### Worked-out writes -/

/-- The rows of a table that a receiver stands for, in a store. -/
def Datum.Targets (store : Store) : Datum → TableName → List (Option Json) → Prop
  | .table name, other, rows =>
    other = name ∧ ∃ table, store.table? name = some table ∧ rows = table.documents.map some
  | .selection name picked, other, rows => other = name ∧ rows = picked.map some
  | .row name row?, other, rows => other = name ∧ rows = [row?]
  | _, _, _ => False

/-- A write of rows that has been worked out, in a store. -/
structure RowWrite (op : Operation) (store : Store) where
  name : TableName
  table : Table
  rows : List (Option Json)
  effects : List Effect
  found : store.table? name = some table
  /-- The rows stand in the table. -/
  picked : ∀ row, some row ∈ rows → row ∈ table.documents
  /-- Only a single lookup can miss. -/
  alone : none ∈ rows → rows = [none]
  settled : List.Forall₂ (Effect.Of op table.primaryKey) rows effects

namespace RowWrite
variable {op : Operation} {store : Store}

/-- The table after the writes. -/
def written (w : RowWrite op store) : Table := w.table.apply (w.effects.filterMap w.table.writeOf?)

/-- The store after the writes. -/
def after (w : RowWrite op store) : Store := store.setTable w.name w.written

end RowWrite

namespace Call
open Run

variable {store : Store} {call : Call}

theorem reading_targets (receiver : Datum) :
    (reading store).Holds receiver.targets fun found =>
      receiver.Targets store found.1 found.2 := by
  cases receiver with
  | table name =>
    have h : (reading store).Holds
        (Run.table name >>= fun table => pure (name, table.documents.map some))
        fun found => (Datum.table name).Targets store found.1 found.2 :=
      Reading.bind (Reading.table_eq name) fun table htable =>
        (reading store).pure ⟨rfl, table, htable, rfl⟩
    rw [← view_eq name Table.documents fun documents => pure (name, documents.map some)] at h
    exact h
  | selection name rows => exact (reading store).pure ⟨rfl, rfl⟩
  | row name row? => exact (reading store).pure ⟨rfl, rfl⟩
  | value v => exact (reading store).throw _ trivial
  | database name => exact (reading store).throw _ trivial
  | function arity => exact (reading store).throw _ trivial

/-- Item by item, what a run gives stands in a relation to what it is given. -/
theorem holds_mapM {L : Logic} {α β : Type} {R : α → β → Prop} {f : α → Run β}
    (h : ∀ x, L.Holds (f x) (R x)) (xs : List α) :
    L.Holds (xs.mapM f) (List.Forall₂ R xs) := by
  induction xs with
  | nil => exact L.pure .nil
  | cons x xs ih =>
    rw [List.mapM_cons]
    exact L.bind (h x) fun y hy => L.bind ih fun ys hys => L.pure (.cons hy hys)

/-- What a write works out before it touches the store. -/
def plan (call : Call) (receiver : Datum) : Run (TableName × Table × List Effect) := do
  let (name, rows) ← receiver.targets
  let table ← (← Run.store).table name
  return (name, table, ← rows.mapM (call.effectOn table.primaryKey))

theorem write_eq (call : Call) (receiver : Datum) :
    call.write receiver = do
      let (name, table, effects) ← call.plan receiver
      replay name (effects.filterMap table.writeOf?)
      return .value (summarize (call.flag "return_changes") effects).toJson := by
  unfold write plan replay
  simp only [bind_assoc, pure_bind]

/-- Rows that a receiver stands for stand in their table, if what the datum ties to it
does. -/
theorem picked_of_targets {receiver : Datum} (hr : (reading store).Datum receiver)
    {name : TableName} {rows : List (Option Json)} (h : receiver.Targets store name rows)
    {table : Table} (htable : store.table? name = some table) :
    (∀ row, some row ∈ rows → row ∈ table.documents) ∧ (none ∈ rows → rows = [none]) := by
  cases receiver with
  | table other =>
    obtain ⟨rfl, found, hfound, rfl⟩ := h
    cases hfound.symm.trans htable
    simp
  | selection other picked =>
    obtain ⟨rfl, rfl⟩ := h
    have hpicked : picked ⊆ table.documents := hr table htable
    exact ⟨fun row hrow => hpicked (by simpa using hrow), by simp⟩
  | row other row? =>
    obtain ⟨rfl, rfl⟩ := h
    have hpicked : row?.toList ⊆ table.documents := hr table htable
    cases row? with
    | none => simp
    | some found => exact ⟨fun row hrow => hpicked (by simpa using hrow), by simp⟩
  | value v => exact h.elim
  | database other => exact h.elim
  | function arity => exact h.elim

theorem reading_plan (ha : (reading store).Arguments call) {receiver : Datum}
    (hr : (reading store).Datum receiver) :
    (reading store).Holds (call.plan receiver) fun p =>
      ∃ w : RowWrite call.op store, p = (w.name, w.table, w.effects) ∧
        receiver.Targets store w.name w.rows := by
  refine (reading store).bind (reading_targets receiver) fun (name, rows) htargets => ?_
  refine Reading.opened fun table htable => ?_
  refine (reading store).bind (holds_mapM (holds_effectOn (fun _ => ha.arg 1) table.primaryKey) rows)
    fun effects heffects => (reading store).pure ?_
  obtain ⟨hpicked, halone⟩ := picked_of_targets hr htargets htable
  exact ⟨⟨name, table, rows, effects, htable, hpicked, halone, heffects⟩, rfl, htargets⟩

/-- A write of rows fails and leaves the store alone, or it is one that is worked out from
the rows of its receiver. -/
theorem outcome_write (ha : (reading store).Arguments call) {receiver : Datum}
    (hr : (reading store).Datum receiver) (context : Run.Context) (drawn : Nat) :
    (∃ fault drawn', (call.write receiver).outcome context ⟨store, drawn⟩ =
      (.error fault, ⟨store, drawn'⟩)) ∨
    ∃ (w : RowWrite call.op store) (drawn' : Nat), receiver.Targets store w.name w.rows ∧
      (call.write receiver).outcome context ⟨store, drawn⟩ =
        (.ok (.value (summarize (call.flag "return_changes") w.effects).toJson),
          ⟨w.after, drawn'⟩) := by
  obtain ⟨result, drawn', hplan, hP⟩ := reading_plan ha hr context drawn
  rw [write_eq, outcome_bind, hplan]
  cases result with
  | error fault => exact .inl ⟨fault, drawn', rfl⟩
  | ok p =>
    obtain ⟨w, rfl, htargets⟩ := hP p rfl
    refine .inr ⟨w, drawn', htargets, ?_⟩
    dsimp only
    rw [outcome_bind, outcome_replay, Store.target_eq_ok.mpr w.found]
    rfl

/-! ### Runs of a write -/

/-- The call of a write with its lists spliced in, and its receiver. -/
def received (call : Call) : Run (Call × Datum) := do
  let spliced ← call.splice
  return (spliced, ← (← spliced.arg 0).run)

/-- In a context and a state, the call comes to this receiver. -/
def Receives (call : Call) (context : Run.Context) (state : Run.State) (receiver : Datum) : Prop :=
  ∃ spliced after, call.received.outcome context state = (.ok (spliced, receiver), after)

/-- Whether a call comes to a receiver can be computed, and it comes to one at most. -/
theorem receives_iff {context : Run.Context} {state : Run.State} {receiver : Datum} :
    call.Receives context state receiver ↔
      (call.received.outcome context state).1.map Prod.snd = .ok receiver := by
  unfold Receives
  rcases call.received.outcome context state with ⟨fault | ⟨spliced, found⟩, after⟩
  · exact iff_of_false (by simp) nofun
  · simp [Except.map]

theorem dispatch_of_writesRows (hop : writesRows call.op = true) (receiver : Datum) :
    call.dispatch receiver = call.write receiver := by
  obtain ⟨op, args, options⟩ := call
  cases op <;> try cases hop
  all_goals rfl

theorem perform_of_writes (hop : call.op.writes = true) :
    call.perform = (call.arg 0 >>= fun arg => arg.run >>= call.dispatch) := by
  obtain ⟨op, args, options⟩ := call
  cases op <;> try cases hop
  all_goals
    refine congrArg (_ >>= ·) (funext fun arg => congrArg (arg.run >>= ·) (funext fun d => ?_))
    cases d <;> rfl

/-- A write is run on what the receiver is by then. -/
theorem run_of_writes (hop : call.op.writes = true) :
    call.run = call.received >>= fun p => p.1.dispatch p.2 := by
  have hperform : ∀ spliced : Call, spliced.op = call.op →
      spliced.perform = (spliced.arg 0 >>= fun arg => arg.run >>= spliced.dispatch) :=
    fun spliced h => perform_of_writes (h ▸ hop)
  unfold run received splice
  split
  · simp only [bind_assoc, pure_bind]
    exact congrArg (_ >>= ·) (funext fun lists => hperform _ rfl)
  · simp only [bind_assoc, pure_bind]
    exact hperform call rfl

theorem reading_received (ha : (reading store).Arguments call) :
    (reading store).Holds call.received fun p =>
      (reading store).Arguments p.1 ∧ p.1.op = call.op ∧ p.1.options = call.options ∧
        (reading store).Datum p.2 := by
  refine (reading store).bind (Logic.splice ha) fun spliced ⟨hargs, hop, hoptions, _⟩ => ?_
  refine (reading store).bind (hargs.arg 0) fun arg harg => ?_
  exact (reading store).bind harg.run fun d hd =>
    (reading store).pure ⟨hargs, hop, hoptions, hd⟩

/-- A write that is run fails and leaves the store alone, or it is one that is worked out
from the rows of the receiver that the call comes to. -/
theorem outcome_run (hop : writesRows call.op = true) (ha : (reading store).Arguments call)
    (context : Run.Context) (drawn : Nat) :
    (∃ fault drawn', call.run.outcome context ⟨store, drawn⟩ =
      (.error fault, ⟨store, drawn'⟩)) ∨
    ∃ (w : RowWrite call.op store) (receiver : Datum) (drawn' : Nat),
      call.Receives context ⟨store, drawn⟩ receiver ∧ receiver.Targets store w.name w.rows ∧
      call.run.outcome context ⟨store, drawn⟩ =
        (.ok (.value (summarize (call.flag "return_changes") w.effects).toJson),
          ⟨w.after, drawn'⟩) := by
  obtain ⟨result, drawn', hrun, hP⟩ := reading_received ha context drawn
  have hwrites : call.op.writes = true := by rw [Operation.writes, hop, Bool.or_true]
  rw [run_of_writes hwrites, outcome_bind, hrun]
  cases result with
  | error fault => exact .inl ⟨fault, drawn', rfl⟩
  | ok p =>
    obtain ⟨⟨op, args, options⟩, receiver⟩ := p
    obtain ⟨hargs, hsame, hoptions, hr⟩ := hP _ rfl
    dsimp only at hsame hoptions
    subst hsame hoptions
    have hspliced : writesRows (Call.mk call.op args call.options).op = true := hop
    dsimp only
    rw [dispatch_of_writesRows hspliced]
    obtain ⟨fault, drawn'', h⟩ | ⟨w, drawn'', htargets, h⟩ := outcome_write hargs hr context drawn'
    · exact .inl ⟨fault, drawn'', h⟩
    · exact .inr ⟨w, receiver, drawn'', ⟨_, _, hrun⟩, htargets, h⟩

end Call

/-! ### Handles that write -/

namespace Handle

/-- The call that a handle of an operation makes when it is run. -/
def made (op : Operation) (args : List Handle) (options : Fields Json) : Call :=
  ⟨op, arguments (Function.apply (callDepthOfAll args)) args, options⟩

theorem run_call (op : Operation) (args : List Handle) (options : Fields Json) :
    (Handle.call op args options).run = (made op args options).run >>= Datum.materialize := rfl

theorem reading_made (store : Store) (op : Operation) {args : List Handle}
    (hargs : Policy.readOnly.AllowsAll args) (options : Fields Json) :
    (Run.reading store).Arguments (made op args options) :=
  (Policy.readOnly_sound store).arguments
    (fun f hf => (Policy.readOnly_sound store).apply _ f hf trivial) args hargs

/-- A write whose arguments write nothing themselves fails and leaves the store alone, or
it is one that is worked out from the rows of its receiver. -/
theorem outcome_write {op : Operation} (hop : Call.writesRows op = true) {args : List Handle}
    (hargs : Policy.readOnly.AllowsAll args) (options : Fields Json) (context : Run.Context)
    (store : Store) (drawn : Nat) :
    let call := made op args options
    (∃ fault drawn', (Handle.call op args options).run.outcome context ⟨store, drawn⟩ =
      (.error fault, ⟨store, drawn'⟩)) ∨
    ∃ (w : RowWrite op store) (receiver : Datum) (drawn' : Nat),
      call.Receives context ⟨store, drawn⟩ receiver ∧ receiver.Targets store w.name w.rows ∧
      (Handle.call op args options).run.outcome context ⟨store, drawn⟩ =
        (.ok (Call.summarize (call.flag "return_changes") w.effects).toJson,
          ⟨w.after, drawn'⟩) := by
  intro call
  rw [run_call, Run.outcome_bind]
  obtain ⟨fault, drawn', h⟩ | ⟨w, receiver, drawn', hreceives, htargets, h⟩ :=
    Call.outcome_run hop (reading_made store op hargs options) context drawn
  · rw [h]
    exact .inl ⟨fault, drawn', rfl⟩
  · rw [h]
    exact .inr ⟨w, receiver, drawn', hreceives, htargets, rfl⟩

end Handle

end DocQuery
