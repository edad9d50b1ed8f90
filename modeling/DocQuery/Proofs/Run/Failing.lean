import DocQuery.Proofs.Run.Dispatch
import DocQuery.Proofs.Run.Outcome
import DocQuery.Proofs.Run.Write
import DocQuery.Proofs.Store.Lookup

/-! How runs fail.

A run that fails from any state at all in a way of a given class is followed through every
operation: what an operation does itself fails as operations do, so a fault outside the class
can only come of a function that the operation calls. -/
namespace DocQuery

/-- What a write asks for is there, or it is missing data. -/
theorem Store.operational_target (store : Store) (name : TableName) :
    Operational (store.target name) := by
  unfold Store.target
  split
  · exact .ok _
  · exact FailsOnly.error_iff.mpr trivial

theorem Store.operational_table (store : Store) (name : TableName) :
    Operational (store.table name) := by
  unfold Store.table
  split
  · exact FailsOnly.error_iff.mpr trivial
  · split
    · exact .ok _
    · exact FailsOnly.error_iff.mpr trivial

namespace Run
variable {α β : Type} {F : Fault → Prop} {P : α → Prop} {Q : β → Prop}

/-- A result is as the predicate says, a fault is of the class. -/
def EndsIn (F : Fault → Prop) (P : α → Prop) : Except Fault α → Prop
  | .ok a => P a
  | .error fault => F fault

/-- In any context and from any state, the run ends so. -/
def Failing (F : Fault → Prop) (x : Run α) (P : α → Prop) : Prop :=
  ∀ context state, EndsIn F P (x.outcome context state).1

namespace Failing

theorem bind {x : Run α} {f : α → Run β} (hx : Failing F x P) (hf : ∀ a, P a → Failing F (f a) Q) :
    Failing F (x >>= f) Q := by
  intro context state
  have hstart : EndsIn F P (x.outcome context state).1 := hx context state
  rw [outcome_bind]
  generalize x.outcome context state = ending at hstart ⊢
  obtain ⟨fault | a, after⟩ := ending
  · exact hstart
  · exact hf a hstart context after

/-- A fault that is caught is no fault of the run, and one that is not is still of the class. -/
theorem caught {x : Run α} (catches : Fault → Bool) (hx : Failing F x P) :
    Failing F (Run.caught catches x) fun result => ∀ a, result = .ok a → P a := by
  intro context state
  have hstart : EndsIn F P (x.outcome context state).1 := hx context state
  rw [outcome_caught]
  generalize x.outcome context state = ending at hstart ⊢
  obtain ⟨fault | a, after⟩ := ending
  · dsimp only
    split
    · exact fun a ha => by cases ha
    · exact hstart
  · exact fun b hb => Except.ok.inj hb ▸ hstart

theorem table (hF : ∀ fault : Fault, fault.Operational → F fault) (name : TableName) :
    Failing F (Run.table name) fun _ => True := by
  intro context state
  have htable : Operational (state.store.table name) := state.store.operational_table name
  unfold Run.table
  rw [outcome_bind, outcome_store]
  dsimp only
  rw [outcome_lift]
  cases h : state.store.table name with
  | ok table => trivial
  | error fault => exact hF fault (htable fault h)

end Failing

/-- Runs fail in ways of a class that has those of all operations. Any data may be tied to
the store. Calls may lack arguments if that is a way of the class, too. -/
def failing (F : Fault → Prop) (hF : ∀ fault : Fault, fault.Operational → F fault) : Logic where
  Holds := Failing F
  Faults := F
  operational := hF
  Lacks := ∀ fault : Fault, fault.Lacking → F fault
  lacking h := h
  Database _ := True
  Rows _ _ := True
  rows_subset _ _ := trivial
  pure ha := fun _ _ => ha
  bind := Failing.bind
  fail hfault := fun _ _ => hfault
  caught := Failing.caught
  context _ := fun _ _ => trivial
  draw _ := fun _ _ => trivial
  table {name} _ := Failing.table hF name

/-! ### Operations -/

section Operations
variable {hF : ∀ fault : Fault, fault.Operational → F fault}

theorem failing_replay (name : TableName) (writes : List Write) :
    (failing F hF).Runs (Call.replay name writes) := by
  intro context state
  have htarget : Operational (state.store.target name) := state.store.operational_target name
  rw [Call.outcome_replay]
  cases h : state.store.target name with
  | ok table => trivial
  | error fault => exact hF fault (htarget fault h)

theorem failing_enter (name : TableName) (documents : List Json) (conflict : Conflict)
    (logged : Bool) :
    (failing F hF).Holds (Call.enter name documents conflict logged) (failing F hF).Datum := by
  intro context state
  have htarget : Operational (state.store.target name) := state.store.operational_target name
  rw [Call.outcome_enter]
  cases h : state.store.target name with
  | ok table => trivial
  | error fault => exact hF fault (htarget fault h)

/-- Whatever the operation is, it fails in a way of the class if its arguments do. -/
theorem failing_run {call : Call} (hargs : (failing F hF).Arguments call)
    (hn : (failing F hF).Supplied call call.op.reads) :
    (failing F hF).Holds call.run (failing F hF).Datum := by
  by_cases hop : call.op = .db
  · exact Call.holds_run_database hargs hop
      (fun db => Call.holds_named (fun _ _ => trivial) trivial) (hn.of_op hop)
  refine Call.holds_run hargs hop (fun spliced ha _ hn receiver hr => ?_) (fun _ => trivial) hn
  refine Call.holds_dispatch ha hr (fun htable => ?_) (fun hinsert => ?_) (fun hwrites => ?_)
    (fun _ => trivial) hn
  · exact Call.holds_table ha hr (fun _ _ _ => trivial) (hn.of_op htable)
  · exact Call.holds_insert ha hr (fun name documents conflict logged _ =>
      failing_enter name documents conflict logged) (hn.of_op hinsert)
  · refine Call.holds_write ha hr (fun name writes _ => failing_replay name writes) fun hdelete => ?_
    obtain hop | hop : spliced.op = .update ∨ spliced.op = .replace := by
      generalize spliced.op = op at hwrites hdelete
      cases op <;> first | decide | contradiction
    · exact hn.of_op hop
    · exact hn.of_op hop

end Operations

end Run

end DocQuery
