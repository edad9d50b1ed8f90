import DocQuery.Proofs.Query.Accepted

/-! Lists that are spliced in.

A list of arguments is spliced in when the operation around it runs, and counts as one
argument before that. What is spliced in then runs as arguments that stand in place, at any
position and in any number (`Handle.run_spliced`). The two terms differ in what they ask of
the table of operations: elements that stand in place are counted one by one, so that a term
with too few or too many of them is not even built. -/
namespace DocQuery

/-- The term of a list that is spliced in. -/
def argsTerm (elements : List Json) : Json := nodeTerm .args [datumTerm (.array elements)] none

/-- The handle of such a list. -/
def Handle.ofArgs (elements : List Json) : Handle := .call .args [.datum (.array elements)] []

/-! ### Splicing -/

namespace Call
variable {args : List Argument}

/-- The arguments with all lists spliced in. -/
def expand (args : List Argument) : Run (List Argument) := do
  return (← args.mapM spliced).flatten

theorem expand_append (front back : List Argument) :
    expand (front ++ back) = do return (← expand front) ++ (← expand back) := by
  unfold expand
  rw [List.mapM_append]
  simp only [bind_assoc, pure_bind, List.flatten_append]

theorem expand_cons (arg : Argument) (rest : List Argument) :
    expand (arg :: rest) = do return (← spliced arg) ++ (← expand rest) := by
  unfold expand
  rw [List.mapM_cons]
  simp only [bind_assoc, pure_bind, List.flatten_cons]

/-- Arguments stay as they are if none of them is a list to be spliced in. -/
theorem expand_eq (h : ∀ arg ∈ args, arg.head ≠ some .args) : expand args = pure args := by
  induction args with
  | nil => rfl
  | cons arg rest ih =>
    rw [expand_cons, ih fun a ha => h a (List.mem_cons_of_mem arg ha)]
    unfold spliced
    rw [if_neg (h arg List.mem_cons_self)]
    simp only [pure_bind, List.singleton_append]

theorem splice_eq_expand (call : Call) :
    call.splice = do return { call with args := ← expand call.args } := by
  unfold splice
  split
  · unfold expand
    simp only [bind_assoc, pure_bind]
  · next hplain =>
    rw [expand_eq fun arg harg hhead => hplain ?_, pure_bind]
    exact List.any_eq_true.mpr ⟨arg, harg, decide_eq_true hhead⟩

/-- A call runs with its arguments spliced in, and does not see how they were written. -/
theorem run_congr (op : Operation) (options : Fields Json) {args args' : List Argument}
    (h : expand args = expand args') :
    Call.run ⟨op, args, options⟩ = Call.run ⟨op, args', options⟩ := by
  unfold Call.run
  rw [splice_eq_expand, splice_eq_expand, h]

/-- Identifiers have no options. -/
theorem run_uuid (args : List Argument) (options : Fields Json) :
    Call.run ⟨.uuid, args, options⟩ = Call.run ⟨.uuid, args, []⟩ := by
  unfold Call.run
  rw [splice_eq_expand, splice_eq_expand, bind_assoc, bind_assoc]
  rfl

end Call

/-! ### Handles -/

namespace Handle
variable (call : Function → List Json → Run Json)

theorem spliced_ofArgs (elements : List Json) :
    Call.spliced ((ofArgs elements).argument call) = pure (elements.map .ofValue) :=
  if_pos rfl

theorem expand_ofArgs (before after : List Handle) (elements : List Json) :
    Call.expand (arguments call (before ++ ofArgs elements :: after)) =
      Call.expand (arguments call (before ++ elements.map .datum ++ after)) := by
  have hplain : ∀ arg ∈ elements.map Argument.ofValue, arg.head ≠ some .args := by
    intro arg harg
    obtain ⟨value, -, rfl⟩ := List.mem_map.mp harg
    exact nofun
  have hdata : (elements.map Handle.datum).map (argument call) = elements.map .ofValue := by
    rw [List.map_map]
    rfl
  simp only [arguments_eq_map, List.map_append, List.map_cons, List.append_assoc, hdata,
    Call.expand_append, Call.expand_cons, Call.expand_eq hplain, spliced_ofArgs]

/-- A list that is spliced in runs as its elements do in its place. -/
theorem run_spliced (op : Operation) (before after : List Handle) (elements : List Json)
    (options : Fields Json) :
    (Handle.call op (before ++ ofArgs elements :: after) options).run =
      (Handle.call op (before ++ elements.map .datum ++ after) options).run := by
  rw [run_eq_invoke, run_eq_invoke, argument, argument]
  have hrun := Call.run_congr op options (expand_ofArgs Function.invoke before after elements)
  exact congrArg (· >>= Datum.materialize) hrun

theorem run_uuid (args : List Handle) (options : Fields Json) :
    (Handle.call .uuid args options).run = (Handle.call .uuid args []).run := by
  rw [run_eq_invoke, run_eq_invoke, argument, argument]
  exact congrArg (· >>= Datum.materialize) (Call.run_uuid _ options)

/-- The options that a call keeps make no difference between arguments that run the same. -/
theorem run_constructed_congr {op : Operation} {args args' : List Handle} (options : Fields Json)
    (h : ∀ kept, (Handle.call op args kept).run = (Handle.call op args' kept).run) :
    (Evaluation.constructed op args options).run =
      (Evaluation.constructed op args' options).run := by
  unfold Evaluation.constructed
  dsimp only
  by_cases huuid : op = .uuid
  · subst huuid
    rw [run_uuid, h, ← run_uuid]
  · simp only [huuid, false_and, h]

end Handle

/-! ### Terms -/

section Evaluation
open Evaluation
variable {settings : Settings} {scope : Scope} {op : Operation} {terms before after : List Json}
  {elements : List Json} {options? : Option (Fields Json)} {handle : Handle}

theorem evaluate_argsTerm (elements : List Json) (scope : Scope) :
    evaluate settings (argsTerm elements) scope = .ok (.ofArgs elements) := by
  unfold argsTerm
  rw [evaluate_nodeTerm rfl, List.map_singleton, evaluateAll_cons, evaluate_datumTerm]
  rfl

theorem evaluateAll_append (front back : List Meaning) (scope : Scope) :
    evaluateAll (front ++ back) scope = do
      return (← evaluateAll front scope) ++ (← evaluateAll back scope) := by
  unfold evaluateAll
  rw [List.mapM_append]

theorem evaluateAll_data (elements : List Json) (scope : Scope) :
    evaluateAll ((elements.map datumTerm).map (evaluate settings)) scope =
      .ok (elements.map .datum) := by
  induction elements with
  | nil => rfl
  | cons element rest ih =>
    rw [List.map_cons, List.map_cons, evaluateAll_cons, evaluate_datumTerm, ih]
    rfl

/-- A node with a list to be spliced in is built if its other arguments are. -/
theorem evaluateAll_spliced {args : List Handle}
    (h : evaluateAll ((before ++ argsTerm elements :: after).map (evaluate settings)) scope =
      .ok args) :
    ∃ front back, args = front ++ .ofArgs elements :: back ∧
      evaluateAll ((before ++ elements.map datumTerm ++ after).map (evaluate settings)) scope =
        .ok (front ++ elements.map .datum ++ back) := by
  rw [List.map_append, evaluateAll_append] at h
  obtain ⟨front, hfront, h⟩ := bind_eq_ok h
  obtain ⟨middle, hmiddle, h⟩ := bind_eq_ok h
  cases h
  rw [List.map_cons, evaluateAll_cons, evaluate_argsTerm] at hmiddle
  obtain ⟨_, hargs, hmiddle⟩ := bind_eq_ok hmiddle
  obtain ⟨back, hback, hmiddle⟩ := bind_eq_ok hmiddle
  cases hargs
  cases hmiddle
  refine ⟨front, back, rfl, ?_⟩
  rw [List.map_append, List.map_append, evaluateAll_append, evaluateAll_append, hfront,
    evaluateAll_data, hback]
  rfl

theorem eq_constructed {options : Fields Json} {args : List Handle}
    (h : assembled op options args = .ok handle) : handle = constructed op args options := by
  unfold assembled at h
  split at h
  · cases h
  · exact (Except.ok.inj h).symm

/-- A node that is built is the call of its arguments. -/
theorem of_evaluate_nodeTerm (hregular : op.isRegular = true)
    (h : evaluate settings (nodeTerm op terms options?) scope = .ok handle) :
    Operator.permitted ⟨op, .list terms, options?⟩ = .ok () ∧
      ∃ args, evaluateAll (terms.map (evaluate settings)) scope = .ok args ∧
        handle = constructed op args (options?.getD []) := by
  rw [evaluate_nodeTerm hregular] at h
  obtain ⟨_, hpermitted, h⟩ := bind_eq_ok h
  obtain ⟨args, hargs, h⟩ := bind_eq_ok h
  exact ⟨hpermitted, args, hargs, eq_constructed h⟩

/-- A node with too few or too many arguments is refused before they are looked at. -/
theorem evaluate_refused (hregular : op.isRegular = true)
    (hcount : op.descriptor.accepts terms.length = false) :
    evaluate settings (nodeTerm op terms options?) scope =
      .error (.arity op op.descriptor.minArgs op.descriptor.maxArgs terms.length) := by
  have hlegal : op.descriptor.consumption ≠ .forbidden := Operation.legal_of_isRegular hregular
  rw [evaluate_nodeTerm hregular]
  unfold Operator.permitted
  dsimp only
  rw [if_neg hlegal]
  show (if op.descriptor.accepts terms.length = true then _ else _) >>= _ = _
  rw [hcount]
  rfl

end Evaluation

namespace Query
open Evaluation
variable {settings : Settings} {op : Operation} {before after elements : List Json}
  {options? : Option (Fields Json)} {handle : Handle}

/-- A list that is spliced in runs as its elements do in its place, if both terms are built.
Built is what has the elements in place and as many arguments as are accepted. With another
number of them it is refused, and the list is spliced in all the same. -/
theorem run_argsTerm (hregular : op.isRegular = true)
    (h : DocQuery.build settings (nodeTerm op (before ++ argsTerm elements :: after) options?) =
      .ok handle) :
    let inPlace := before ++ elements.map datumTerm ++ after
    let spliced := nodeTerm op (before ++ argsTerm elements :: after) options?
    let plain := nodeTerm op inPlace options?
    ((∃ handle', DocQuery.build settings plain = .ok handle') →
      ∀ context state, run ⟨spliced, settings⟩ context state = run ⟨plain, settings⟩ context state) ∧
    (op.descriptor.accepts inPlace.length = true → ¬(op.isConnective = true ∧ inPlace = []) →
      ∃ handle', DocQuery.build settings plain = .ok handle') ∧
    (op.descriptor.accepts inPlace.length = false →
      DocQuery.build settings plain =
        .error (.arity op op.descriptor.minArgs op.descriptor.maxArgs inPlace.length)) ∧
    ∃ args, evaluateAll (inPlace.map (evaluate settings)) Scope.root = .ok args ∧
      ∀ context state, run ⟨spliced, settings⟩ context state =
        (constructed op args (options?.getD [])).run.outcome context state := by
  intro inPlace spliced plain
  obtain ⟨hpermitted, args, hargs, hhandle⟩ := of_evaluate_nodeTerm hregular h
  obtain ⟨front, back, rfl, hinPlace⟩ := evaluateAll_spliced hargs
  have hrun : ∀ context state, run ⟨spliced, settings⟩ context state =
      (constructed op (front ++ elements.map .datum ++ back) (options?.getD [])).run.outcome
        context state := by
    intro context state
    rw [run_of_build h, hhandle,
      Handle.run_constructed_congr _ fun kept => Handle.run_spliced op front back elements kept]
  refine ⟨?_, ?_, fun hcount => evaluate_refused hregular hcount, _, hinPlace, hrun⟩
  · rintro ⟨handle', hbuild⟩ context state
    obtain ⟨-, args', hargs', hhandle'⟩ := of_evaluate_nodeTerm hregular hbuild
    cases hinPlace.symm.trans hargs'
    rw [hrun, run_of_build hbuild, hhandle']
  · intro hcount hconnective
    have hoptions := options_of_permitted hpermitted
    exact (evaluates_iff hregular hcount hoptions hinPlace).mpr hconnective

/-- Two numbers that are spliced in before another, as the receiver and after it. -/
theorem run_argsTerm_eq :
    let spliced := nodeTerm .eq [argsTerm [.ofNat 1, .ofNat 1], .ofNat 1] none
    let plain := nodeTerm .eq [datumTerm (.ofNat 1), datumTerm (.ofNat 1), .ofNat 1] none
    ∃ handle, DocQuery.build {} spliced = .ok handle ∧
      ∀ context state, run ⟨spliced, {}⟩ context state = run ⟨plain, {}⟩ context state := by
  intro spliced plain
  have hnumber : evaluate {} (.ofNat 1) Scope.root = .ok (.datum (.ofNat 1)) := rfl
  have hargs : evaluateAll ([argsTerm [.ofNat 1, .ofNat 1], .ofNat 1].map (evaluate {}))
      Scope.root = .ok [.ofArgs [.ofNat 1, .ofNat 1], .datum (.ofNat 1)] := by
    rw [List.map_cons, List.map_singleton, evaluateAll_cons, evaluateAll_cons, evaluate_argsTerm,
      hnumber]
    rfl
  have hoptions : Operation.eq.descriptor.takesOptions = true ∨
      (none : Option (Fields Json)).getD [] = [] := .inr rfl
  obtain ⟨handle, hbuild⟩ := (evaluates_iff rfl rfl hoptions hargs).mpr nofun
  have hfront : DocQuery.build {} (nodeTerm .eq ([] ++ argsTerm [.ofNat 1, .ofNat 1] :: [.ofNat 1])
      none) = .ok handle := hbuild
  obtain ⟨hsame, hbuilt, -, -⟩ := run_argsTerm rfl hfront
  exact ⟨handle, hbuild, hsame (hbuilt rfl nofun)⟩

/-- A sum of three numbers that are spliced in and a fourth. With the numbers in place it has
too many summands to be built. -/
theorem run_argsTerm_refused :
    let spliced := nodeTerm .add [argsTerm [.ofNat 1, .ofNat 2, .ofNat 3], .ofNat 4] none
    let numbers := [.ofNat 1, .ofNat 2, .ofNat 3].map datumTerm
    let plain := nodeTerm .add (numbers ++ [.ofNat 4]) none
    let context : Run.Context := ⟨⟨0, 0, 0⟩, fun _ => 0⟩
    let state : Run.State := ⟨Store.empty, 0⟩
    (run ⟨spliced, {}⟩ context state).1 = .ok (.ofNat 10) ∧
      (run ⟨plain, {}⟩ context state).1 = .error (.arity .add 2 (some 2) 4) := by
  decide +kernel

end Query

end DocQuery
