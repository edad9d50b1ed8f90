import DocQuery.Proofs.Query.Alike
import DocQuery.Proofs.Query.Failing
import DocQuery.Proofs.Run.Failing

/-! Queries end.

A call evaluates the body of a function anew and runs the handle that comes of it, which may
be larger than any that was run before. What goes down is how high the bodies of functions
stand: a body only makes functions of terms below it, and arguments come to it as plain data,
so that no function ever reaches itself (`Function.callDepth_lt`). Calls that are nested no
deeper than a handle's `callDepth` are therefore all the calls there are, and what a deeper
one would do makes no difference. -/
namespace DocQuery

/-! ### Functions below a height -/

namespace Policy

/-- Functions have bodies that stand lower than the bound. -/
def shallow (bound : Nat) : Policy where
  Calls _ _ := True
  Functions f := f.body.height < bound

mutual

theorem allows_shallow_iff (bound : Nat) :
    ∀ handle, (shallow bound).Allows handle ↔ handle.callDepth ≤ bound
  | .datum _ => by simp [Allows, shallow, Handle.callDepth]
  | .array items => by
    rw [Allows, Handle.callDepth, ← allowsAll_shallow_iff bound items]
    exact and_iff_right trivial
  | .object fields => by
    rw [Allows, Handle.callDepth]
    exact allowsFields_shallow_iff bound fields
  | .call op args options => by
    rw [Allows, Handle.callDepth, ← allowsAll_shallow_iff bound args]
    exact and_iff_right trivial
  | .func f => Iff.rfl

theorem allowsAll_shallow_iff (bound : Nat) :
    ∀ items, (shallow bound).AllowsAll items ↔ Handle.callDepthOfAll items ≤ bound
  | [] => by simp [AllowsAll, Handle.callDepthOfAll]
  | handle :: rest => by
    rw [AllowsAll, Handle.callDepthOfAll, allows_shallow_iff bound handle,
      allowsAll_shallow_iff bound rest, Nat.max_le]

theorem allowsFields_shallow_iff (bound : Nat) :
    ∀ fields, (shallow bound).AllowsFields fields ↔ Handle.callDepthOfFields fields ≤ bound
  | [] => by simp [AllowsFields, Handle.callDepthOfFields]
  | (_, handle) :: rest => by
    rw [AllowsFields, Handle.callDepthOfFields, allows_shallow_iff bound handle,
      allowsFields_shallow_iff bound rest, Nat.max_le]

end

/-- The functions that a term makes have bodies below it. -/
theorem shallow_admits (settings : Settings) (bound : Nat) :
    (shallow bound).Admits settings fun term => term.height ≤ bound where
  below items h term hterm := by
    have hlower : term.height < (Json.array items).height := height_subterms hterm
    omega
  call _ _ _ _ _ _ _ := trivial
  database := trivial
  unpinned _ _ _ := trivial
  function items _ body _ h hbody _ _ := by
    have hlower : body.height < (Json.array items).height := height_subterms hbody
    show body.height < bound
    omega

end Policy

/-! ### What goes down -/

/-- A handle makes calls no deeper than its term is high. -/
theorem callDepth_le_height {settings : Settings} {term : Json} {scope : Scope} {handle : Handle}
    (h : evaluate settings term scope = .ok handle) : handle.callDepth ≤ term.height :=
  (Policy.allows_shallow_iff term.height handle).mp <|
    (Policy.shallow_admits settings term.height).means term (Nat.le_refl _) scope
      (fun _ _ _ _ => trivial) handle h

namespace Function

theorem callDepth_le_body {f : Function} {args : List Json} {handle : Handle}
    (h : f.call args = .ok handle) : handle.callDepth ≤ f.body.height := by
  obtain ⟨scope, -, hbody⟩ := bind_eq_ok h
  exact callDepth_le_height hbody

/-- The handle that a call comes to makes calls less deep than the function that was called. -/
theorem callDepth_lt {f : Function} {args : List Json} {handle : Handle}
    (h : f.call args = .ok handle) : handle.callDepth < (Handle.func f).callDepth :=
  Nat.lt_succ_of_le (callDepth_le_body h)

end Function

/-! ### Calls of any depth -/

/-- A handle runs the same if all functions as low as its own are called to the same effect. -/
theorem Handle.argument_congr {handle : Handle} {bound : Nat} (hdepth : handle.callDepth ≤ bound)
    {call call' : Function → List Json → Run Json}
    (h : ∀ g : Function, g.body.height < bound → call g = call' g) :
    handle.argument call = handle.argument call' := by
  have hallowed : (Policy.shallow bound).Allows handle :=
    (Policy.allows_shallow_iff bound handle).mpr hdepth
  have halike := alike_self (R := fun g g' => g = g' ∧ g.body.height < bound)
    (fun g hg => ⟨rfl, hg⟩) handle hallowed
  refine argument_eq (fun g g' hg => ⟨congrArg Function.arity hg.1, ?_⟩) _ _ halike
  rw [← hg.1]
  exact h g hg.2

namespace Function

/-- What a call comes to, given what the calls below it do. -/
def enter (call : Function → List Json → Run Json) (f : Function) (args : List Json) :
    Run Json := do
  ((← f.call args).argument call).value

/-- Only calls of functions with lower bodies matter to a call. -/
theorem enter_congr {call call' : Function → List Json → Run Json} {f : Function}
    (h : ∀ g : Function, g.body.height < f.body.height → call g = call' g) :
    enter call f = enter call' f := by
  funext args
  unfold enter
  cases hcall : f.call args with
  | error fault => rfl
  | ok handle =>
    show (handle.argument call).value = (handle.argument call').value
    rw [Handle.argument_congr (callDepth_le_body hcall) h]

/-- Calls a function with calls nested at most so deep; one that is nested deeper does what
`exhausted` does. -/
def within (exhausted : Run Json) : (depth : Nat) → Function → List Json → Run Json
  | 0 => fun _ _ => exhausted
  | depth + 1 => enter (within exhausted depth)

theorem apply_eq_within (depth : Nat) :
    Function.apply depth = within (throw .callDepth) depth := by
  induction depth with
  | zero => rfl
  | succ depth ih =>
    funext f args
    rw [Function.apply, ih]
    rfl

/-- Depths beyond the height of the body are all the same. -/
theorem within_eq_within {exhausted exhausted' : Run Json} {depth depth' : Nat} {f : Function}
    (h : f.body.height < depth) (h' : f.body.height < depth') :
    within exhausted depth f = within exhausted' depth' f := by
  induction depth generalizing depth' f with
  | zero => exact absurd h (Nat.not_lt_zero _)
  | succ depth ih =>
    cases depth' with
    | zero => exact absurd h' (Nat.not_lt_zero _)
    | succ depth' =>
      refine enter_congr fun g hg => ih ?_ ?_
      · omega
      · omega

/-- Calls a function, with all the calls that come of it. -/
def invoke (f : Function) (args : List Json) : Run Json := Function.apply (f.body.height + 1) f args

theorem within_eq_invoke (exhausted : Run Json) {depth : Nat} {f : Function}
    (h : f.body.height < depth) : within exhausted depth f = invoke f := by
  have hinvoke : invoke f = within (throw .callDepth) (f.body.height + 1) f := by
    funext args
    rw [← apply_eq_within]
    rfl
  rw [hinvoke]
  exact within_eq_within h (Nat.lt_succ_self _)

/-- A call enters the function, and the calls below are calls again. -/
theorem invoke_eq (f : Function) : invoke f = enter invoke f := by
  rw [← within_eq_invoke (throw .callDepth) (Nat.lt_succ_self f.body.height)]
  exact enter_congr fun g hg => within_eq_invoke _ hg

end Function

/-- A handle runs with calls of any depth beyond its own as it does with all of them. -/
theorem Handle.argument_within {handle : Handle} {depth : Nat} (h : handle.callDepth ≤ depth)
    (exhausted : Run Json) :
    handle.argument (Function.within exhausted depth) = handle.argument Function.invoke :=
  argument_congr h fun _ hg => Function.within_eq_invoke exhausted hg

theorem Handle.run_eq_invoke (handle : Handle) :
    handle.run = (handle.argument Function.invoke).value := by
  unfold Handle.run
  rw [Function.apply_eq_within, argument_within (Nat.le_refl _)]

/-! ### Depth is no fault -/

/-- Whatever is evaluated, it does not fail by the depth of calls. -/
theorem deep_evaluates : Evaluates (· ≠ Fault.callDepth) fun _ => True where
  formal fault h heq := by
    rw [heq] at h
    exact h
  below _ _ _ _ := trivial
  known items _ := (fails_ofItems items).mono fun fault h heq => by
    rw [heq] at h
    exact h
  legal _ _ _ _ _ := nofun
  body _ _ _ _ _ term _ := (fails_check term).mono fun fault h heq => by
    rw [heq] at h
    exact h

/-- Runs fail otherwise than by the depth of calls. -/
def Run.deep : Run.Logic :=
  Run.failing (· ≠ Fault.callDepth) fun fault h heq => by
    rw [heq] at h
    exact h

theorem Run.deep_lacks : Run.deep.Lacks := fun fault h heq => by
  rw [heq] at h
  exact h

theorem Policy.shallow_sound (bound : Nat) : (shallow bound).Sound Run.deep where
  supplied := .inl Run.deep_lacks
  run _ _ _ _ _ hargs := Run.failing_run hargs (.inl Run.deep_lacks)
  body f args handle hf h := by
    have hdepth : handle.callDepth ≤ f.body.height := Function.callDepth_le_body h
    have hbound : f.body.height < bound := hf
    refine (allows_shallow_iff bound handle).mpr ?_
    omega
  fails f args _ := deep_evaluates.fails_call f args trivial

theorem Function.runs_invoke (f : Function) (args : List Json) : Run.deep.Runs (invoke f args) := by
  rw [invoke_eq]
  have hbody : Run.deep.Holds (liftM (f.call args)) (Policy.shallow f.body.height).Allows :=
    Run.Logic.ofExcept (deep_evaluates.fails_call f args trivial) fun handle h =>
      (Policy.allows_shallow_iff _ handle).mpr (callDepth_le_body h)
  refine Run.deep.bind hbody fun handle hallowed => ?_
  have hs : (Policy.shallow f.body.height).Sound Run.deep := Policy.shallow_sound f.body.height
  exact (hs.argument (fun g hg => runs_invoke g) handle hallowed).value
termination_by f.body.height

/-! ### Queries -/

namespace Query

/-- Builds and runs a query with calls nested at most so deep. -/
def within (query : Query) (exhausted : Run Json) (depth : Nat) : Run Json := do
  ((← query.build).argument (Function.within exhausted depth)).value

/-- Calls that are nested as deep as the term is high are all that a query makes. -/
theorem within_eq_whole (query : Query) (exhausted : Run Json) {depth : Nat}
    (h : query.term.height ≤ depth) : query.within exhausted depth = query.whole := by
  unfold within whole
  cases hbuild : query.build with
  | error fault => rfl
  | ok handle =>
    have hdepth : handle.callDepth ≤ depth := Nat.le_trans (callDepth_le_height hbuild) h
    show (handle.argument (Function.within exhausted depth)).value = handle.run
    rw [Handle.argument_within hdepth, Handle.run_eq_invoke]

theorem run_ne_callDepth (query : Query) (context : Run.Context) (state : Run.State) :
    (query.run context state).1 ≠ .error .callDepth := by
  have hquery : Run.deep.Runs query.whole := by
    have hbuild : Run.deep.Runs (liftM query.build) :=
      Run.Logic.ofExcept (deep_evaluates.fails query.settings query.term trivial Scope.root)
        fun _ _ => trivial
    refine Run.deep.bind hbuild fun handle _ => ?_
    rw [Handle.run_eq_invoke]
    have hs := Policy.shallow_sound handle.callDepth
    have hallowed := (Policy.allows_shallow_iff handle.callDepth handle).mpr (Nat.le_refl _)
    exact (hs.argument (fun g _ => g.runs_invoke) handle hallowed).value
  have hrun := hquery context state
  rw [run_eq]
  intro hfault
  rw [hfault] at hrun
  exact hrun rfl

/-- Every query ends. The calls that a call leads to nest less deep than it does itself, and
for each query there is a depth of calls that it never exceeds: a run that stops there, with
whatever it may do then, is the run of the query in any context and state. -/
theorem ends (query : Query) :
    (∀ (f : Function) (args : List Json) (handle : Handle), f.call args = .ok handle →
      handle.callDepth < (Handle.func f).callDepth) ∧
    ∃ fuel, ∀ depth, fuel ≤ depth → ∀ exhausted context state,
      (query.within exhausted depth).outcome context state = query.run context state ∧
        (query.run context state).1 ≠ .error .callDepth := by
  refine ⟨fun f args handle => Function.callDepth_lt, query.term.height, ?_⟩
  intro depth hdepth exhausted context state
  refine ⟨?_, query.run_ne_callDepth context state⟩
  rw [query.within_eq_whole exhausted hdepth, run_eq]

end Query

end DocQuery
