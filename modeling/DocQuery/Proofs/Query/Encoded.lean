import DocQuery.Proofs.Query.Literal
import DocQuery.Proofs.Query.Accepted

/-! Values sent as terms.

A value that is no array is a term as it stands, and an array is sent as a made array of its
elements, sent in the same way (`Json.toTerm`). An array in the value then never stands where a
node is read, whatever it looks like. The term has a meaning in every scope, and to an
operation the meaning is the same argument as the value (`Handle.PassesFor`), so the term runs
to the value, as the body of a function does, and stands for it among the arguments of any
operation (`Json.toTerm_runs`). -/
namespace DocQuery

namespace Json

mutual

/-- The term that a value is sent as. -/
def toTerm : Json → Json
  | .array items => .array (Handle.node .makeArray (toTerms items))
  | value => value

def toTerms : List Json → List Json
  | [] => []
  | item :: rest => toTerm item :: toTerms rest

end

end Json

/-! ### Handles that pass for a value -/

namespace Handle
variable {handle : Handle} {handles : List Handle} {value : Json} {values : List Json}

/-- To an operation the handle is the same argument as the value, whatever calls of functions
do. -/
def PassesFor (handle : Handle) (value : Json) : Prop :=
  ∀ call, handle.argument call = .ofValue value

theorem passesFor_datum (value : Json) : PassesFor (.datum value) value := fun _ => rfl

theorem PassesFor.standsFor (h : PassesFor handle value) : handle.StandsFor value := by
  intro call
  rw [h call]
  rfl

theorem PassesFor.run_eq (h : PassesFor handle value) : handle.run = pure value :=
  h.standsFor _

theorem arguments_of_passesFor (h : List.Forall₂ PassesFor handles values)
    (call : Function → List Json → Run Json) :
    arguments call handles = values.map .ofValue := by
  induction h with
  | nil => rfl
  | cons hfirst _ ih => rw [arguments, hfirst call, ih, List.map_cons]

theorem passesFor_array (h : List.Forall₂ PassesFor handles values) :
    PassesFor (.array handles) (.array values) := by
  intro call
  have hvalues : DocQuery.values (arguments call handles) = pure values :=
    values_of_standsFor (h.imp fun _ _ => PassesFor.standsFor) call
  rw [argument, hvalues]
  rfl

end Handle

/-! ### Terms that are sent -/

section Evaluation
open Evaluation Handle
variable {settings : Settings} {scope : Scope}

mutual

theorem evaluate_toTerm (scope : Scope) : ∀ value : Json,
    ∃ handle, evaluate settings value.toTerm scope = .ok handle ∧ handle.PassesFor value
  | .null | .bool _ | .number _ | .string _ | .object _ => ⟨_, rfl, passesFor_datum _⟩
  | .array items => by
    obtain ⟨handles, hmade, hpass⟩ := madeItems_toTerms scope items
    refine ⟨.array handles, ?_, passesFor_array hpass⟩
    rw [Json.toTerm, Query.evaluate_node rfl rfl]
    show madeArray (.data (.array (Json.toTerms items)))
      ((Json.toTerms items).map (evaluate settings)) scope = _
    rw [madeArray_data, hmade]
    rfl

/-- Among the elements of a made array, a value that is sent is read as the value. An element
that is no array is kept, and any other is a made array. -/
theorem madeItem_toTerm (scope : Scope) : ∀ value : Json,
    ∃ handle, madeItem value.toTerm (evaluate settings value.toTerm) scope = .ok handle ∧
      handle.PassesFor value
  | .null | .bool _ | .number _ | .string _ | .object _ => ⟨_, rfl, passesFor_datum _⟩
  | .array items => by
    obtain ⟨handle, hhandle, hpass⟩ := evaluate_toTerm scope (.array items)
    refine ⟨handle, ?_, hpass⟩
    unfold madeItem
    rw [hhandle, Json.toTerm, isMadeArray_node, if_pos rfl]

theorem madeItems_toTerms (scope : Scope) : ∀ values : List Json,
    ∃ handles, (Json.toTerms values).mapM
        (fun term => madeItem term (evaluate settings term) scope) = .ok handles ∧
      List.Forall₂ PassesFor handles values
  | [] => ⟨[], rfl, .nil⟩
  | value :: rest => by
    obtain ⟨handle, hhandle, hpass⟩ := madeItem_toTerm scope value
    obtain ⟨handles, hhandles, hall⟩ := madeItems_toTerms scope rest
    refine ⟨handle :: handles, ?_, .cons hpass hall⟩
    rw [Json.toTerms, List.mapM_cons, hhandle, hhandles]
    rfl

end

theorem evaluateAll_toTerm (values : List Json) (scope : Scope) :
    ∃ handles, evaluateAll ((values.map Json.toTerm).map (evaluate settings)) scope = .ok handles ∧
      List.Forall₂ PassesFor handles values := by
  induction values with
  | nil => exact ⟨[], rfl, .nil⟩
  | cons value rest ih =>
    obtain ⟨handle, hhandle, hpass⟩ := evaluate_toTerm scope value
    obtain ⟨handles, hhandles, hall⟩ := ih
    refine ⟨handle :: handles, ?_, .cons hpass hall⟩
    rw [List.map_cons, List.map_cons, evaluateAll_cons, hhandle, hhandles]
    rfl

/-! ### Bodies of functions -/

/-- Payloads of made arrays are not looked into when a function is defined. -/
theorem check_toTerm (value : Json) : check value.toTerm = .ok () := by
  cases value with
  | array items =>
    rw [Json.toTerm, check, Query.ofItems_node]
    rfl
  | _ => rw [Json.toTerm, check] <;> (intro _ h; cases h)

theorem evaluate_functionTerm {params : Json} {ids : List Nat}
    (hids : parameterIds params = .ok ids) {body : Json} (hcheck : check body = .ok ())
    (scope : Scope) :
    evaluate settings (.array (node .func [params, body])) scope =
      .ok (.func ⟨ids, body, scope, settings⟩) := by
  rw [Query.evaluate_node rfl rfl]
  exact function_eq_ok ⟨.func, .list [params, body], none⟩ rfl hids hcheck scope

/-- A call of a function whose body is a value that is sent comes to the value. -/
theorem invoke_toTerm (ids : List Nat) (value : Json) (scope : Scope) {args : List Json}
    (h : args.length = ids.length) :
    Function.invoke ⟨ids, value.toTerm, scope, settings⟩ args = pure value := by
  obtain ⟨handle, hhandle, hpass⟩ : ∃ handle,
      evaluate settings value.toTerm (ids.zip args :: scope) = .ok handle ∧
        handle.PassesFor value := evaluate_toTerm _ value
  have hcall : Function.call ⟨ids, value.toTerm, scope, settings⟩ args = .ok handle := by
    unfold Function.call Scope.bind
    rw [if_pos h.symm]
    exact hhandle
  rw [Function.invoke_eq]
  unfold Function.enter
  rw [hcall]
  exact hpass.standsFor Function.invoke

/-- A function is called on the values of its arguments. -/
theorem run_funcall {f : Function} {handles : List Handle} {args : List Json}
    (h : List.Forall₂ PassesFor handles args) :
    (Handle.call .funcall (.func f :: handles) []).run = f.invoke args := by
  have harguments := arguments_of_passesFor h Function.invoke
  have hplain : ∀ arg ∈ arguments Function.invoke (.func f :: handles), arg.head ≠ some .args := by
    rw [arguments, harguments]
    refine List.forall_mem_cons.mpr ⟨nofun, ?_⟩
    exact List.forall_mem_map.mpr fun _ _ => nofun
  have hvalues : DocQuery.values (arguments Function.invoke handles) = pure args :=
    values_of_standsFor (h.imp fun _ _ => PassesFor.standsFor) Function.invoke
  rw [run_eq_invoke, argument]
  show Call.run ⟨.funcall, arguments Function.invoke (.func f :: handles), []⟩ >>=
    Datum.materialize = _
  rw [Call.run_eq_perform hplain]
  show (Datum.value <$> (DocQuery.values (arguments Function.invoke handles) >>= f.invoke)) >>=
    Datum.materialize = _
  rw [hvalues, pure_bind, bind_map_left]
  exact bind_pure _

/-! ### Arguments of operations -/

/-- Its arguments are terms that are evaluated. What data, arrays, variables and functions hold is
not, and objects and the implicit variable have none. -/
def Operation.evaluatesArguments (op : Operation) : Bool :=
  !([.datum, .makeArray, .makeObject, .var, .implicitVar, .func] : List Operation).contains op

/-- Handles that are the same argument to an operation. -/
def SameArgument (handle handle' : Handle) : Prop :=
  handle.argument Function.invoke = handle'.argument Function.invoke

theorem congruence_sameArgument : Congruence SameArgument where
  datum _ := rfl
  call {args args'} h op options := by
    have harguments : arguments Function.invoke args = arguments Function.invoke args' := by
      induction h with
      | nil => rfl
      | cons hfirst _ ih =>
        rw [arguments, arguments, ih]
        exact congrArg (· :: _) hfirst
    unfold SameArgument
    rw [argument, argument, harguments]

theorem run_of_sameArgument {e e' : Except Fault Handle} (h : Agree SameArgument e e') :
    e.map Handle.run = e'.map Handle.run := by
  cases e with
  | error fault =>
    cases e' with
    | error fault' => exact congrArg Except.error h
    | ok handle' => exact False.elim h
  | ok handle =>
    cases e' with
    | error fault' => exact False.elim h
    | ok handle' =>
      refine congrArg Except.ok ?_
      rw [run_eq_invoke, run_eq_invoke, show handle.argument Function.invoke = _ from h]

/-- An operation does not tell terms apart that are the same argument to it. -/
theorem run_congr_of_sameArgument {op : Operation} (hop : op.evaluatesArguments = true)
    {terms terms' : List Json} (h : List.Forall₂ (fun term term' => Agree SameArgument
      (evaluate settings term scope) (evaluate settings term' scope)) terms terms')
    (options? : Option (Fields Json)) :
    (evaluate settings (nodeTerm op terms options?) scope).map Handle.run =
      (evaluate settings (nodeTerm op terms' options?) scope).map Handle.run := by
  let operator : Operator := ⟨op, .list terms, options?⟩
  have hother : ∀ other ∈ [Operation.datum, .makeArray, .makeObject, .var, .implicitVar, .func],
      operator.operation ≠ other := by
    rintro other hin rfl
    have hcontains : _ = true := List.contains_iff_mem.mpr hin
    unfold Operation.evaluatesArguments at hop
    rw [hcontains] at hop
    cases hop
  have hkeeps : op.keepsPayload = false :=
    keepsPayload_eq_false (hother _ (by simp)) (hother _ (by simp))
  have hcount : (Payload.list terms').count = operator.payload.count := h.length_eq.symm
  have hpermitted : Operator.permitted ⟨op, .list terms', options?⟩ =
      Operator.permitted ⟨op, .list terms, options?⟩ := permitted_payload hcount
  unfold nodeTerm
  rw [evaluate_of_ofItems (ofItems_method (Query.ofHead?_code op) hkeeps _ _),
    evaluate_of_ofItems (ofItems_method (Query.ofHead?_code op) hkeeps _ _), hpermitted]
  refine run_of_sameArgument (Agree.bind_same fun _ _ => ?_)
  refine consume_congr congruence_sameArgument hother ?_ _ _ _
  exact List.forall₂_map_left_iff.mpr (List.forall₂_map_right_iff.mpr h)

/-- Every value can be sent as a term. In any scope the term has a meaning, which passes for the
value and runs to it, and so it does among the elements of a made array. A function with this body
is defined, and comes to the value when it is called on as many arguments as it has parameters. An
operation that is given the term among its arguments does what it does if it is given the value. -/
theorem Json.toTerm_runs (value : Json) (settings : Settings) (scope : Scope) :
    (∃ handle, evaluate settings value.toTerm scope = .ok handle ∧
      handle.PassesFor value ∧ handle.run = pure value) ∧
    (∃ handle, madeItem value.toTerm (evaluate settings value.toTerm) scope = .ok handle ∧
      handle.PassesFor value) ∧
    (∀ (params : Json) (ids : List Nat), parameterIds params = .ok ids →
      let function : Json := .array (node .func [params, value.toTerm])
      let f : Function := ⟨ids, value.toTerm, scope, settings⟩
      evaluate settings function scope = .ok (.func f) ∧
      ∀ args : List Json, args.length = ids.length →
        f.invoke args = pure value ∧
        ∃ handle, evaluate settings (nodeTerm .funcall (function :: args.map toTerm) none) scope =
          .ok handle ∧ handle.run = pure value) ∧
    (∀ op : Operation, op.evaluatesArguments = true → ∀ before after options?,
      (evaluate settings (nodeTerm op (before ++ value.toTerm :: after) options?) scope).map
          Handle.run =
        (evaluate settings (nodeTerm op (before ++ datumTerm value :: after) options?) scope).map
          Handle.run) := by
  refine ⟨?_, madeItem_toTerm scope value, fun params ids hids => ?_,
    fun op hop before after options? => ?_⟩
  · obtain ⟨handle, hhandle, hpass⟩ := evaluate_toTerm scope value
    exact ⟨handle, hhandle, hpass, hpass.run_eq⟩
  · intro function f
    have hfunction : evaluate settings function scope = .ok (.func f) :=
      evaluate_functionTerm hids (check_toTerm value) scope
    refine ⟨hfunction, fun args hlength => ⟨invoke_toTerm ids value scope hlength, ?_⟩⟩
    obtain ⟨handles, hhandles, hpass⟩ : ∃ handles,
        evaluateAll ((args.map toTerm).map (evaluate settings)) scope = .ok handles ∧
          List.Forall₂ PassesFor handles args := evaluateAll_toTerm args scope
    refine ⟨.call .funcall (.func f :: handles) [], ?_, ?_⟩
    · have hcount : Operation.funcall.descriptor.accepts
          (function :: args.map toTerm).length = true := by
        simp [Descriptor.accepts, Operation.descriptor]
      show evaluate settings (.array (node .funcall (function :: args.map toTerm))) scope = _
      rw [Query.evaluate_node rfl hcount]
      show evaluateAll (evaluate settings function :: (args.map toTerm).map (evaluate settings))
        scope >>= _ = _
      rw [evaluateAll_cons, hfunction, hhandles]
      rfl
    · rw [run_funcall hpass, invoke_toTerm ids value scope hlength]
  · obtain ⟨handle, hhandle, hpass⟩ : ∃ handle,
        evaluate settings value.toTerm scope = .ok handle ∧ handle.PassesFor value :=
      evaluate_toTerm scope value
    have hself : ∀ terms, List.Forall₂ (fun term term' => Agree SameArgument
        (evaluate settings term scope) (evaluate settings term' scope)) terms terms := by
      intro terms
      refine List.forall₂_same.mpr fun term _ => ?_
      cases evaluate settings term scope <;> rfl
    have hvalue : Agree SameArgument (evaluate settings value.toTerm scope)
        (evaluate settings (datumTerm value) scope) := by
      rw [hhandle, evaluate_datumTerm]
      exact hpass Function.invoke
    have hterms : List.Forall₂ _ (before ++ value.toTerm :: after)
        (before ++ datumTerm value :: after) :=
      List.rel_append (hself before) (List.Forall₂.cons hvalue (hself after))
    exact run_congr_of_sameArgument hop hterms options?

/-- An array of arrays that look like a made array, like a node of no operation and like an empty
node, by itself, as the body of a function and as the argument of an operation. -/
theorem Json.toTerm_runs_nodes :
    let value := Json.array
      [.array [.ofNat 2, .array [.ofNat 5]], .array [.ofNat 999, .array []], .array []]
    let params := Json.array (node .makeArray [.ofNat 1])
    let f : Function := ⟨[1], value.toTerm, Scope.root, {}⟩
    parameterIds params = .ok [1] ∧ Operation.append.evaluatesArguments = true ∧
      (∃ handle, evaluate {} value.toTerm Scope.root = .ok handle ∧ handle.run = pure value) ∧
      evaluate {} (.array (node .func [params, value.toTerm])) Scope.root = .ok (.func f) ∧
      f.invoke [.null] = pure value ∧
      (evaluate {} (nodeTerm .append ([] ++ value.toTerm :: [.null]) none) Scope.root).map
          Handle.run =
        (evaluate {} (nodeTerm .append ([] ++ datumTerm value :: [.null]) none) Scope.root).map
          Handle.run := by
  intro value params f
  have hids : parameterIds params = .ok [1] :=
    (Query.parameterIds_node (.ofNat 1)).trans rfl
  obtain ⟨⟨handle, hhandle, -, hrun⟩, -, hfunction, happend⟩ :=
    Json.toTerm_runs value {} Scope.root
  obtain ⟨hbuilt, hcalls⟩ := hfunction params [1] hids
  exact ⟨hids, rfl, ⟨handle, hhandle, hrun⟩, hbuilt, (hcalls [.null] rfl).1,
    happend .append rfl [] [.null] none⟩

end Evaluation

end DocQuery
