import DocQuery.Proofs.Json.Fields
import DocQuery.Proofs.Query.Depth
import DocQuery.Proofs.Query.Capture
import Mathlib.Control.Monad.Basic

/-! Calling a function is substitution.

What a body is evaluated to in the scope of a call, and what it is evaluated to with the
argument written into it, differ in functions that have captured the argument in two ways.
Such functions are called to the same effect, by induction on the height of their bodies
(`Captured.invoke_eq`), so that both run alike. -/
namespace DocQuery

/-! ### Runs -/

/-- The run of what an evaluation comes to. -/
def runEvaluated (e : Except Fault Handle) : Run Json := do
  ((← e).argument Function.invoke).value

/-- What two evaluations come to runs the same if functions that have captured a value are
called to the same effect. -/
theorem runEvaluated_of_agree {bound : Nat} {e e' : Except Fault Handle}
    (h : Agree (Handle.Alike (CapturedBelow bound)) e e')
    (hcalls : ∀ f g, CapturedBelow bound f g → f.invoke = g.invoke) :
    runEvaluated e = runEvaluated e' := by
  cases e with
  | error fault =>
    cases e' with
    | error fault' => exact congrArg (fun fault => runEvaluated (.error fault)) h
    | ok handle' => exact False.elim h
  | ok handle =>
    cases e' with
    | error fault' => exact False.elim h
    | ok handle' =>
      have harity : ∀ f g, Captured f g → f.arity = g.arity := fun f g hfg => by cases hfg; rfl
      have hargument : handle.argument Function.invoke = handle'.argument Function.invoke :=
        Handle.argument_eq (fun f g hfg => ⟨harity f g hfg.1, hcalls f g hfg⟩) _ _ h
      show (handle.argument Function.invoke).value = (handle'.argument Function.invoke).value
      rw [hargument]

/-- Functions that have captured a value in one of the two ways are called to the same
effect. -/
theorem Captured.invoke_eq {f g : Function} (h : Captured f g) : f.invoke = g.invoke := by
  rw [Function.invoke_eq f, Function.invoke_eq g]
  cases h with
  | @mk σ hvalue scope outer hbinds ids body hcheck settings =>
    funext args
    show runEvaluated (Function.call _ args) = runEvaluated (Function.call _ args)
    have hcall : Agree (Handle.Alike (CapturedBelow body.height))
        (Function.call ⟨ids, body, scope, settings⟩ args)
        (Function.call ⟨ids, (σ.under ids).apply body, outer, settings⟩ args) := by
      unfold Function.call
      by_cases hlength : ids.length = args.length
      · have hbind : ∀ around : Scope, around.bind ids args = .ok (ids.zip args :: around) :=
          fun _ => if_pos hlength
        rw [hbind, hbind]
        have hunder : (σ.under ids).Binds (ids.zip args :: scope) (ids.zip args :: outer) :=
          hbinds.under hlength
        have hvalue' : ∀ items, (σ.under ids).value ≠ .array items := hvalue
        exact evaluate_apply hvalue' hunder body (Nat.le_refl _) hcheck
      · have hbind : ∀ around : Scope, around.bind ids args =
            .error (.arity .func ids.length (some ids.length) args.length) :=
          fun _ => if_neg hlength
        rw [hbind, hbind]
        exact .error _
    exact runEvaluated_of_agree hcall fun f' g' hfg => hfg.1.invoke_eq
termination_by f.body.height
decreasing_by exact hfg.2

/-! ### Queries -/

namespace Query

theorem whole_eq_runEvaluated (query : Query) : query.whole = runEvaluated query.build := by
  unfold whole runEvaluated
  cases query.build with
  | error fault => rfl
  | ok handle => exact handle.run_eq_invoke

theorem ofHead?_code (op : Operation) : Operation.ofHead? (.ofNat op.code) = some op := by
  have hcode : op.code < 2 ^ 64 := by cases op <;> decide
  rw [Operation.ofHead?, Json.natural?_ofNat hcode]
  exact Operation.ofCode?_code op

theorem ofItems_of_head {op : Operation} {head : Json} (h : Operation.ofHead? head = some op)
    (args : List Json) :
    Operator.ofItems [head, .array args] =
      .ok ⟨op, .ofElement op (some (.array args)), none⟩ := by
  unfold Operator.ofItems
  dsimp only
  rw [h]
  rfl

theorem ofItems_node (op : Operation) (args : List Json) :
    Operator.ofItems (Handle.node op args) =
      .ok ⟨op, .ofElement op (some (.array args)), none⟩ :=
  ofItems_of_head (ofHead?_code op) args

/-- A node of an operation with a rule of its own, written without options. -/
theorem evaluate_node {settings : Settings} {op : Operation} {args : List Json}
    (h : op.consumption = .special)
    (haccepts : op.descriptor.accepts (Payload.ofElement op (some (.array args))).count = true)
    (scope : Scope) :
    evaluate settings (.array (Handle.node op args)) scope =
      Evaluation.special settings ⟨op, .ofElement op (some (.array args)), none⟩
        (args.map (evaluate settings)) [] scope := by
  rw [evaluate_special (ofItems_node op args) h, permitted_special h haccepts]
  rfl

/-- The term of a function with one parameter. -/
def functionTerm (param body : Json) : Json :=
  .array (Handle.node .func [.array (Handle.node .makeArray [param]), body])

/-- The term that calls a function on a value. -/
def callTerm (function value : Json) : Json := .array (Handle.node .funcall [function, value])

theorem parameterIds_node (param : Json) :
    Evaluation.parameterIds (.array (Handle.node .makeArray [param])) =
      (fun id => [id]) <$> Evaluation.parameterId param := by
  have hclassify : classify (.array (Handle.node .makeArray [param])) =
      .ok (.operator ⟨.makeArray, .data (.array [param]), none⟩) := by
    unfold classify
    dsimp only
    rw [ofItems_node]
    rfl
  unfold Evaluation.parameterIds
  rw [hclassify]
  show [param].mapM Evaluation.parameterId = _
  rw [List.mapM_cons]
  cases Evaluation.parameterId param <;> rfl

/-- What the term of a function is built to: a function with the body as it stands. -/
theorem build_functionTerm {settings : Settings} {param body : Json} {handle : Handle}
    (h : build ⟨functionTerm param body, settings⟩ = .ok handle) :
    ∃ id, param.natural? = some id ∧ check body = .ok () ∧
      handle = .func ⟨[id], body, Scope.root, settings⟩ := by
  unfold build DocQuery.build functionTerm at h
  dsimp only at h
  rw [evaluate_node rfl rfl] at h
  obtain ⟨ids, hids, h⟩ := bind_eq_ok h
  obtain ⟨u, hcheck, h⟩ := bind_eq_ok h
  rw [parameterIds_node] at hids
  unfold Evaluation.parameterId at hids
  split at hids
  · next id hid =>
    cases hids
    cases h
    exact ⟨id, hid, hcheck, rfl⟩
  · cases hids

/-- If the term of a function is built at all, then to a function. -/
theorem exists_function {settings : Settings} {param body : Json}
    (h : (build ⟨functionTerm param body, settings⟩).isOk = true) :
    ∃ f, build ⟨functionTerm param body, settings⟩ = .ok (.func f) := by
  cases hbuild : build ⟨functionTerm param body, settings⟩ with
  | error fault =>
    rw [hbuild] at h
    cases h
  | ok handle =>
    obtain ⟨id, -, -, rfl⟩ := build_functionTerm hbuild
    exact ⟨_, rfl⟩

/-- A function is called on what the term of a value is built to. -/
theorem whole_call {settings : Settings} {function term value : Json} {f : Function}
    (hvalue : build ⟨term, settings⟩ = .ok (.datum value))
    (h : build ⟨function, settings⟩ = .ok (.func f)) :
    whole ⟨callTerm function term, settings⟩ = f.invoke [value] := by
  have hbuild : build ⟨callTerm function term, settings⟩ =
      .ok (.call .funcall [.func f, .datum value] []) := by
    unfold build DocQuery.build at hvalue h
    unfold build DocQuery.build callTerm
    dsimp only at hvalue h ⊢
    rw [evaluate_node rfl rfl]
    unfold Evaluation.special Evaluation.evaluateAll
    dsimp only
    rw [List.map_cons, List.map_singleton, List.mapM_cons, h, List.mapM_cons, hvalue]
    rfl
  have hrun : Call.run ⟨.funcall, [.ofOperand ⟨return .function f.arity, some f.invoke⟩,
      .ofValue value], []⟩ = .value <$> f.invoke [value] := by
    rw [Call.run_eq_perform (by simp [Argument.ofOperand, Argument.ofValue])]
    rfl
  rw [whole_eq_runEvaluated, hbuild]
  show (Handle.argument Function.invoke (.call .funcall [.func f, .datum value] [])).run >>=
    Datum.materialize = _
  rw [Handle.argument]
  show Call.run ⟨.funcall, [.ofOperand ⟨return .function f.arity, some f.invoke⟩,
    .ofValue value], []⟩ >>= Datum.materialize = _
  rw [hrun, bind_map_left]
  exact bind_pure _

/-- A call on a value runs what the body is evaluated to in the scope of the call. -/
theorem whole_callTerm {settings : Settings} {function value : Json} {f : Function}
    (hvalue : ∀ items, value ≠ .array items)
    (h : build ⟨function, settings⟩ = .ok (.func f)) :
    whole ⟨callTerm function value, settings⟩ = runEvaluated (f.call [value]) := by
  have hliteral : build ⟨value, settings⟩ = .ok (.datum value) := evaluate_literal hvalue Scope.root
  rw [whole_call hliteral h, Function.invoke_eq]
  rfl

/-- Calling a function is substitution: a call of a function on a value runs as the body does
with the value written into it. -/
theorem run_call_eq_run_apply (settings : Settings) (param body value : Json)
    (hvalue : ∀ items, value ≠ .array items) (handle : Handle)
    (hbuilds : build ⟨functionTerm param body, settings⟩ = .ok handle) :
    ∃ id, param.natural? = some id ∧ ∀ context state,
      run ⟨callTerm (functionTerm param body) value, settings⟩ context state =
        run ⟨({ id, value } : Substitution).apply body, settings⟩ context state := by
  obtain ⟨id, hid, hcheck, rfl⟩ := build_functionTerm hbuilds
  refine ⟨id, hid, fun context state => ?_⟩
  have hagree : Agree (Handle.Alike (CapturedBelow body.height))
      (Function.call ⟨[id], body, Scope.root, settings⟩ [value])
      (build ⟨({ id, value } : Substitution).apply body, settings⟩) :=
    evaluate_apply hvalue (Substitution.binds_call id value) body (Nat.le_refl _) hcheck
  have hruns := runEvaluated_of_agree hagree fun f g hfg => hfg.1.invoke_eq
  rw [run_eq, run_eq, whole_callTerm hvalue hbuilds, whole_eq_runEvaluated, hruns]

/-- A parameter that is read in the body, in a function of the body and as the row. -/
theorem run_call_eq_run_apply_captured :
    let read (id : Nat) : Json := .array (Handle.node .var [.ofNat id])
    let row : Json := .array (Handle.node .implicitVar [])
    let sum (first second : Json) : Json := .array (Handle.node .add [first, second])
    let body (first captured row : Json) : Json :=
      sum first (callTerm (functionTerm (.ofNat 2) (sum (read 2) captured)) row)
    let function : Json := functionTerm (.ofNat 1) (body (read 1) (read 1) row)
    let written : Json := body (.ofNat 3) (.ofNat 3) (.ofNat 3)
    (∃ handle, build ⟨function, {}⟩ = .ok handle) ∧
      ({ id := 1, value := .ofNat 3 } : Substitution).apply (body (read 1) (read 1) row) = written ∧
      (∀ context state, run ⟨callTerm function (.ofNat 3), {}⟩ context state =
        run ⟨written, {}⟩ context state) ∧
      (run ⟨written, {}⟩ ⟨⟨0, 0, 0⟩, fun _ => 0⟩ ⟨Store.empty, 0⟩).1 = .ok (.ofNat 9) := by
  intro read row sum body function written
  have hbuilds : (build ⟨function, {}⟩).isOk = true := by decide +kernel
  have happly : ({ id := 1, value := .ofNat 3 } : Substitution).apply (body (read 1) (read 1) row) =
      written := by decide +kernel
  have hresult : (run ⟨written, {}⟩ ⟨⟨0, 0, 0⟩, fun _ => 0⟩ ⟨Store.empty, 0⟩).1 =
      .ok (.ofNat 9) := by decide +kernel
  cases hbuild : build ⟨function, {}⟩ with
  | error fault =>
    rw [hbuild] at hbuilds
    cases hbuilds
  | ok handle =>
    obtain ⟨id, hid, hrun⟩ := run_call_eq_run_apply {} _ _ (.ofNat 3) nofun handle hbuild
    have hone : Json.natural? (.ofNat 1) = some 1 := by decide +kernel
    cases hid.symm.trans hone
    rw [happly] at hrun
    exact ⟨⟨handle, rfl⟩, happly, hrun, hresult⟩

end Query

end DocQuery
