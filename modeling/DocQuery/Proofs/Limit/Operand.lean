import DocQuery.Proofs.Limit.Value
import DocQuery.Proofs.Run.Failing

/-! Operands within a limit.

A run is read for what it gives, and may fail in any way (`Run.yielding`). An operand is within
a limit if all that its run gives is, and if all that a call of it gives is whenever the values
it is called on are. Nothing here names a table, so data that is tied to the store is not among
what an operand gives. -/
namespace DocQuery

namespace Run

/-- Nothing is asked of a run but what it gives. -/
def yielding : Logic := failing (fun _ => True) fun _ _ => trivial

/-- If the run gives a result, it is as the predicate says. -/
abbrev Yields {α : Type} (x : Run α) (P : α → Prop) : Prop := yielding.Holds x P

section
variable {α : Type} {P : α → Prop}

theorem yields_any (x : Run α) : yielding.Runs x := by
  intro context state
  cases (x.outcome context state).1 <;> trivial

theorem yields_throw (fault : Fault) : Yields (throw fault) P := yielding.fail trivial

/-- It does not matter what came before. -/
theorem yields_after {β : Type} {x : Run β} {f : β → Run α} (h : ∀ b, Yields (f b) P) :
    Yields (x >>= f) P :=
  yielding.bind (yields_any x) fun b _ => h b

theorem yields_throw_bind {β : Type} (fault : Fault) (f : β → Run α) :
    Yields (throw fault >>= f) P :=
  yielding.bind (yields_throw fault) fun _ (h : False) => h.elim

theorem yields_lift {e : Except Fault α} (h : ∀ a, e = .ok a → P a) : Yields (liftM e) P :=
  Logic.ofExcept (fun _ _ => trivial) h

theorem yielding_datum (d : Datum) : yielding.Datum d := by cases d <;> trivial

theorem yielding_operand (operand : DocQuery.Operand) : yielding.Operand operand :=
  ⟨Logic.mono (yields_any _) fun d _ => yielding_datum d, fun _ _ _ => yields_any _⟩

theorem yielding_arguments (call : DocQuery.Call) : yielding.Arguments call :=
  fun arg _ => ⟨yielding_operand arg.toOperand, fun o _ => yielding_operand o, .inl fun _ _ => trivial⟩

/-- Every call may be supplied with too few arguments. -/
theorem yielding_supplied (call : DocQuery.Call) (count : Nat) : yielding.Supplied call count :=
  .inl fun _ _ => trivial

theorem Yields.result {x : Run α} (h : Yields x P) {context : Context} {state : State} {a : α}
    (ha : (x.outcome context state).1 = .ok a) : P a := by
  have h : EndsIn (fun _ => True) P (x.outcome context state).1 := h context state
  rw [ha] at h
  exact h

end

-- what a run does need not be looked at any more
attribute [irreducible] yielding

end Run

open Run

/-! ### Data -/

/-- A value within the limit, or data that holds none. -/
def Datum.Within (n : Nat) : Datum → Prop
  | .value v => v.Within n
  | .database _ | .function _ => True
  | .table _ | .selection .. | .row .. => False

namespace Datum.Within
variable {n : Nat} {d : Datum}

theorem materialize (h : d.Within n) : Yields d.materialize (Json.Within n) := by
  cases d with
  | value v => exact yielding.pure h
  | database name => exact yields_throw _
  | function arity => exact yields_throw _
  | table name => exact h.elim
  | selection name rows => exact h.elim
  | row name row? => exact h.elim

/-- Rows that are found in a value are tied to no table. -/
theorem rows (h : d.Within n) :
    Yields d.rows fun found => found.1 = none ∧ (Json.array found.2).Within n := by
  cases d with
  | value v =>
    cases v with
    | array items => exact yielding.pure ⟨rfl, h⟩
    | _ => exact yields_throw _
  | database name => exact yields_throw _
  | function arity => exact yields_throw _
  | table name => exact h.elim
  | selection name rows => exact h.elim
  | row name row? => exact h.elim

theorem sequence (h : d.Within n) : Yields d.sequence fun items => (Json.array items).Within n :=
  yielding.bind h.rows fun _ hfound => yielding.pure hfound.2

theorem asTable (h : d.Within n) : Yields d.asTable fun _ => False := by
  cases d with
  | table name => exact h.elim
  | _ => exact yields_throw _

theorem targets (h : d.Within n) : Yields d.targets fun _ => False := by
  cases d with
  | table name => exact h.elim
  | selection name rows => exact h.elim
  | row name row? => exact h.elim
  | _ => exact yields_throw _

theorem of_picked
    (h : Call.Picked (fun found => found.1 = none ∧ (Json.array found.2).Within n) d) :
    d.Within n := by
  obtain ⟨⟨name?, rows⟩, kept, ⟨rfl, hrows⟩, rfl, hkept⟩ := h
  exact hrows.picked hkept

end Datum.Within

/-! ### Operands -/

/-- What the operand gives is within the limit, run by itself or called on values that are. -/
structure Operand.Limited (n : Nat) (operand : Operand) : Prop where
  run : Yields operand.run (Datum.Within n)
  call : ∀ f, operand.call? = some f → ∀ args, (∀ arg ∈ args, arg.Within n) →
    Yields (f args) (Json.Within n)

namespace Operand
variable {n : Nat}

theorem limited_ofValue {v : Json} (h : v.Within n) : (Operand.ofValue v).Limited n :=
  ⟨yielding.pure h, nofun⟩

namespace Limited
variable {operand : Operand}

theorem value (h : operand.Limited n) : Yields operand.value (Json.Within n) :=
  yielding.bind h.run fun _ hd => hd.materialize

theorem apply (h : operand.Limited n) {args : List Json} (hargs : ∀ arg ∈ args, arg.Within n) :
    Yields (operand.apply args) (Json.Within n) := by
  unfold Operand.apply
  split
  · next f hf => exact h.call f hf args hargs
  · exact h.value

end Limited

end Operand

/-! ### Arguments -/

/-- An argument is within the limit, and so is the operand below it. -/
structure Argument.Limited (n : Nat) (arg : Argument) : Prop extends
    Operand.Limited n arg.toOperand where
  first : ∀ operand, arg.first = some operand → operand.Limited n

/-- All arguments of a call are within the limit. -/
def Call.Limited (n : Nat) (call : Call) : Prop := ∀ arg ∈ call.args, arg.Limited n

section
variable {n : Nat}

theorem Argument.limited_ofOperand {operand : Operand} (h : operand.Limited n) :
    (Argument.ofOperand operand).Limited n :=
  ⟨h, nofun⟩

theorem Argument.limited_ofValue {v : Json} (h : v.Within n) : (Argument.ofValue v).Limited n :=
  Argument.limited_ofOperand (Operand.limited_ofValue h)

theorem yields_values {args : List Argument} (h : ∀ arg ∈ args, arg.Limited n) :
    Yields (values args) fun vs => ∀ v ∈ vs, v.Within n :=
  Logic.mapM fun arg harg => (h arg harg).value

namespace Call.Limited
variable {call : Call}

theorem rest (h : call.Limited n) : ∀ arg ∈ call.rest, arg.Limited n :=
  fun arg harg => h arg (List.mem_of_mem_drop harg)

theorem arg (h : call.Limited n) (index : Nat) : Yields (call.arg index) (Argument.Limited n) := by
  unfold Call.arg
  split
  · next arg harg => exact yielding.pure (h arg (List.mem_of_getElem? harg))
  · exact yields_throw _

theorem spliced {arg : Argument} (h : arg.Limited n) :
    Yields (Call.spliced arg) fun args => ∀ arg ∈ args, arg.Limited n := by
  unfold Call.spliced
  split
  · have hfirst : Yields (Call.firstBelow .args arg) (Operand.Limited n) := by
      unfold Call.firstBelow
      split
      · next operand ho => exact yielding.pure (h.first operand ho)
      · exact yields_throw _
    refine yielding.bind hfirst fun operand ho => yielding.bind ho.value fun list hlist => ?_
    refine yielding.bind (yields_lift fun _ => hlist.asArray) fun items hitems => ?_
    refine yielding.pure fun arg harg => ?_
    obtain ⟨v, hv, rfl⟩ := List.mem_map.mp harg
    exact Argument.limited_ofValue (hitems.item hv)
  · exact yielding.pure fun a ha => List.mem_singleton.mp ha ▸ h

/-- The items of a list that is spliced in are within the limit as the list is, however many
arguments they come to. -/
theorem splice (h : call.Limited n) :
    Yields call.splice fun out => out.Limited n ∧ out.op = call.op := by
  unfold Call.splice
  split
  · refine yielding.bind (Logic.mapM fun arg harg => spliced (h arg harg)) fun lists hlists => ?_
    refine yielding.pure ⟨fun arg harg => ?_, rfl⟩
    obtain ⟨list, hlist, harg⟩ := List.mem_flatten.mp harg
    exact hlists list hlist arg harg
  · exact yielding.pure ⟨h, rfl⟩

end Call.Limited

end

end DocQuery
