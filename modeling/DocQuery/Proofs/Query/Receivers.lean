import DocQuery.Proofs.Query.Spliced

/-! Methods and their receivers.

A method runs its receiver before anything else, and fails if that fails. If the receiver comes to
a value, the rest depends on the value and on the other arguments alone (`Query.Yields.call`).
So methods can be put one on another, and with data as the other arguments a query of methods
does to its source what they do to values (`Query.Yields.method`). -/
namespace DocQuery

namespace Operation
variable {op : Operation}

/-- The first argument is a receiver that is run in any case. The connectives and the operation for
missing data have rules of their own. -/
def runsReceiver (op : Operation) : Bool := op.isMethod && !op.isConnective && op != .default

theorem isMethod_of_runsReceiver (h : op.runsReceiver = true) : op.isMethod = true := by
  unfold runsReceiver at h
  rw [Bool.and_eq_true, Bool.and_eq_true] at h
  exact h.1.1

theorem isRegular_of_isMethod (h : op.isMethod = true) : op.isRegular = true := by
  unfold isMethod at h
  unfold isRegular
  cases hrule : op.consumption <;> rw [hrule] at h <;> first | rfl | cases h

end Operation

/-! ### Calls -/

namespace Call
open Run
variable {call : Call}

theorem perform_of_runsReceiver (h : call.op.runsReceiver = true) : call.perform = call.method := by
  obtain ⟨op, args, options⟩ := call
  cases op <;> first | rfl | cases h

/-- A method goes on with the value of its receiver, or fails as the receiver does. -/
theorem outcome_method {first : Argument} {rest : List Argument} (hargs : call.args = first :: rest)
    {context : Context} {state after : State} {result : Except Fault Json}
    (hfirst : first.run.outcome context state = (result.map .value, after))
    (hgroups : ∀ value, result = .ok value → (runsPerGroup call.op && value.isGrouped) = false) :
    call.method.outcome context state =
      (liftM result >>= fun value => call.dispatch (.value value)).outcome context after := by
  have harg : call.arg 0 = pure first := by
    unfold Call.arg
    rw [hargs]
    rfl
  unfold method
  rw [harg, pure_bind, outcome_bind, hfirst]
  cases result with
  | error fault => rfl
  | ok value =>
    show (if (runsPerGroup call.op && value.isGrouped) = true then _ else _ : Run Datum).outcome
      context after = _
    rw [hgroups value rfl]
    rfl

end Call

/-! ### Terms -/

namespace Query
open Evaluation
variable {settings : Settings} {op : Operation} {source : Json} {terms data : List Json}
  {handles : List Handle} {options? : Option (Fields Json)} {context : Run.Context}
  {state after : Run.State} {result : Except Fault Json}

theorem evaluateAll_singleton {term : Json} {handle : Handle}
    (h : DocQuery.build settings term = .ok handle) :
    evaluateAll ([term].map (evaluate settings)) Scope.root = .ok [handle] := by
  unfold DocQuery.build at h
  rw [List.map_singleton, evaluateAll_cons, h]
  rfl

/-- A receiver stays where it is: the method is called on it. -/
theorem build_method (hmethod : op.isMethod = true)
    (hcount : op.descriptor.accepts (terms.length + 1) = true)
    (hoptions : op.descriptor.takesOptions = true ∨ options?.getD [] = []) {handle : Handle}
    (hsource : DocQuery.build settings source = .ok handle)
    (hterms : evaluateAll (terms.map (evaluate settings)) Scope.root = .ok handles) :
    DocQuery.build settings (methodTerm op source terms options?) =
      .ok (.call op (handle :: handles) (options?.getD [])) := by
  have hregular : op.isRegular = true := Operation.isRegular_of_isMethod hmethod
  have hpermitted : Operator.permitted ⟨op, .list (source :: terms), options?⟩ = .ok () :=
    permitted_eq_ok (Operation.legal_of_isRegular hregular) hcount hoptions
  unfold DocQuery.build at hsource ⊢
  show evaluate settings (nodeTerm op (source :: terms) options?) Scope.root = _
  rw [evaluate_nodeTerm hregular, hpermitted, List.map_cons, evaluateAll_cons, hsource, hterms]
  show assembled op (options?.getD []) (handle :: handles) = _
  unfold assembled
  rw [List.isEmpty_cons, Bool.and_false, constructed_of_isMethod hmethod]
  rfl

/-- The term is no list to be spliced in, and it comes to a value or ends with a fault. -/
structure Yields (settings : Settings) (term : Json) (context : Run.Context) (state : Run.State)
    (result : Except Fault Json) (after : Run.State) : Prop where
  argument : ∃ handle, DocQuery.build settings term = .ok handle ∧
    (handle.argument Function.invoke).head ≠ some .args ∧
    (handle.argument Function.invoke).run.outcome context state = (result.map .value, after)

namespace Yields

theorem run_eq (h : Yields settings source context state result after) :
    run ⟨source, settings⟩ context state = (result, after) := by
  obtain ⟨handle, hbuild, -, hrun⟩ := h.argument
  rw [run_of_build hbuild, Handle.run_eq_invoke]
  show ((handle.argument Function.invoke).run >>= Datum.materialize).outcome context state = _
  rw [Run.outcome_bind, hrun]
  cases result <;> rfl

theorem datum (settings : Settings) (value : Json) (context : Run.Context) (state : Run.State) :
    Yields settings (datumTerm value) context state (.ok value) state where
  argument := ⟨_, evaluate_datumTerm value Scope.root, nofun, rfl⟩

/-- A method goes on with what its source comes to, and with its other arguments as they are. -/
theorem call (hop : op.runsReceiver = true)
    (hcount : op.descriptor.accepts (terms.length + 1) = true)
    (hoptions : op.descriptor.takesOptions = true ∨ options?.getD [] = [])
    (hsource : Yields settings source context state result after)
    (hterms : evaluateAll (terms.map (evaluate settings)) Scope.root = .ok handles)
    (hheads : ∀ handle ∈ handles, (handle.argument Function.invoke).head ≠ some .args)
    (hgroups : ∀ value, result = .ok value →
      (Call.runsPerGroup op && value.isGrouped) = false)
    {final : Except Fault Json} {last : Run.State}
    (hdispatch : ∀ first : Argument, (liftM result >>= fun value => Call.dispatch
      ⟨op, first :: Handle.arguments Function.invoke handles, options?.getD []⟩
        (.value value) : Run Datum).outcome context after = (final.map .value, last)) :
    Yields settings (methodTerm op source terms options?) context state final last := by
  obtain ⟨handle, hbuild, hhead, hrun⟩ := hsource.argument
  have hmethod : op.isMethod = true := Operation.isMethod_of_runsReceiver hop
  have hargs : op ≠ .args := by
    rintro rfl
    cases hmethod
  let first := handle.argument Function.invoke
  let call : Call := ⟨op, first :: Handle.arguments Function.invoke handles, options?.getD []⟩
  have hplain : ∀ arg ∈ call.args, arg.head ≠ some .args :=
    List.forall_mem_cons.mpr ⟨hhead, Handle.heads_arguments hheads⟩
  have hperform : call.perform = call.method := Call.perform_of_runsReceiver hop
  refine ⟨_, build_method hmethod hcount hoptions hbuild hterms,
    fun h => hargs (Option.some.inj h), ?_⟩
  show call.run.outcome context state = _
  rw [Call.run_eq_perform hplain, hperform, Call.outcome_method rfl hrun hgroups]
  exact hdispatch first

/-- A method makes of its source what it makes of values. -/
theorem method {f : Json → Except Fault Json} (hop : op.runsReceiver = true)
    (hcount : op.descriptor.accepts (data.length + 1) = true)
    (hoptions : op.descriptor.takesOptions = true ∨ options?.getD [] = [])
    (hsource : Yields settings source context state result after)
    (hgroups : ∀ value, result = .ok value →
      (Call.runsPerGroup op && value.isGrouped) = false)
    (hdispatch : ∀ first value, result = .ok value →
      Call.dispatch ⟨op, first :: data.map .ofValue, options?.getD []⟩ (.value value) =
        liftM ((f value).map Datum.value)) :
    Yields settings (methodTerm op source (data.map datumTerm) options?) context state
      (result >>= f) after := by
  have harguments : Handle.arguments Function.invoke (data.map .datum) = data.map .ofValue := by
    rw [Handle.arguments_eq_map, List.map_map]
    rfl
  have hcount : op.descriptor.accepts ((data.map datumTerm).length + 1) = true := by
    rwa [List.length_map]
  -- The other arguments are data, so nothing is spliced in.
  refine hsource.call hop hcount hoptions (evaluateAll_data data Scope.root)
    (List.forall_mem_map.mpr fun _ _ => nofun) hgroups fun first => ?_
  rw [harguments]
  cases result with
  | error fault => rfl
  | ok value =>
    show (Call.dispatch _ (.value value)).outcome context after = ((f value).map .value, after)
    rw [hdispatch first value rfl, Run.outcome_lift]

/-- A method with one other argument goes on with the two values. -/
theorem operand {f : Json → Json → Except Fault Json} {term value other : Json}
    {middle : Run.State} (hop : op.runsReceiver = true) (hcount : op.descriptor.accepts 2 = true)
    (hplain : Call.runsPerGroup op = false)
    (hdispatch : ∀ first arg : Argument, Call.dispatch ⟨op, [first, arg], []⟩ (.value value) =
      arg.value >>= fun other => liftM ((f value other).map Datum.value))
    (hsource : Yields settings source context state (.ok value) middle)
    (hterm : Yields settings term context middle (.ok other) after) :
    Yields settings (methodTerm op source [term] none) context state (f value other) after := by
  obtain ⟨handle, hbuild, hhead, hrun⟩ := hterm.argument
  have hvalue : (handle.argument Function.invoke).value.outcome context middle =
      (.ok other, after) := by
    show ((handle.argument Function.invoke).run >>= Datum.materialize).outcome context middle = _
    rw [Run.outcome_bind, hrun]
    rfl
  have hcount : op.descriptor.accepts ([term].length + 1) = true := hcount
  refine hsource.call hop hcount (.inr rfl) (evaluateAll_singleton hbuild)
    (List.forall_mem_singleton.mpr hhead) (fun _ _ => ?_) fun first => ?_
  · rw [hplain, Bool.false_and]
  · show (Call.dispatch ⟨op, [first, handle.argument Function.invoke], []⟩ (.value value)).outcome
      context middle = _
    rw [hdispatch, Run.outcome_bind, hvalue]
    exact Run.outcome_lift context after _

end Yields

/-! ### Terms side by side -/

/-- Each term comes to its value and leaves the state as it is. -/
def YieldAll (settings : Settings) (context : Run.Context) (state : Run.State) :
    List Json → List Json → Prop :=
  List.Forall₂ fun term value => Yields settings term context state (.ok value) state

/-- Terms side by side are arguments that have the values, and no lists to be spliced in. -/
theorem YieldAll.exists_handles {values : List Json}
    (h : YieldAll settings context state terms values) :
    ∃ handles, evaluateAll (terms.map (evaluate settings)) Scope.root = .ok handles ∧
      (∀ handle ∈ handles, (handle.argument Function.invoke).head ≠ some .args) ∧
      List.Forall₂ (fun (arg : Argument) value =>
        arg.value.outcome context state = (.ok value, state))
        (Handle.arguments Function.invoke handles) values := by
  induction h with
  | nil => exact ⟨[], rfl, nofun, .nil⟩
  | cons hfirst _ ih =>
    obtain ⟨handle, hbuild, hhead, hrun⟩ := hfirst.argument
    obtain ⟨handles, hterms, hheads, hvalues⟩ := ih
    refine ⟨handle :: handles, ?_, List.forall_mem_cons.mpr ⟨hhead, hheads⟩, ?_⟩
    · unfold DocQuery.build at hbuild
      rw [List.map_cons, evaluateAll_cons, hbuild, hterms]
      rfl
    · refine .cons ?_ hvalues
      show ((handle.argument Function.invoke).run >>= Datum.materialize).outcome context state = _
      rw [Run.outcome_bind, hrun]
      rfl

end Query

end DocQuery
