import DocQuery.Run.Call
import Mathlib.Data.List.Defs

/-! What runs end as.

The outcome of a run in a context and a state is a result or a fault, together with the
state after it. The rules below say how outcomes come of the outcomes of the parts. -/
namespace DocQuery.Run
variable {α β : Type} (context : Context) (state : State)

/-- The result of a run and the state after it. -/
def outcome (x : Run α) (context : Context) (state : State) : Except Fault α × State :=
  x context state

@[simp] theorem outcome_pure (a : α) : outcome (pure a) context state = (.ok a, state) := rfl

theorem outcome_bind (x : Run α) (f : α → Run β) :
    outcome (x >>= f) context state =
      match outcome x context state with
      | (.ok a, after) => outcome (f a) context after
      | (.error fault, after) => (.error fault, after) := by
  show (match x context state with
    | (result, after) => ExceptT.bindCont (fun a => f a context) result after) = _
  unfold outcome
  rcases x context state with ⟨fault | a, after⟩
  · rfl
  · rfl

/-- A run that ends with a result has gone from result to result. -/
theorem outcome_bind_eq_ok {context state} {x : Run α} {f : α → Run β} {b : β} {after : State}
    (h : outcome (x >>= f) context state = (.ok b, after)) :
    ∃ a between, outcome x context state = (.ok a, between) ∧
      outcome (f a) context between = (.ok b, after) := by
  rw [outcome_bind] at h
  rcases hx : outcome x context state with ⟨fault | a, between⟩
  · rw [hx] at h
    cases h
  · rw [hx] at h
    exact ⟨a, between, rfl, h⟩

/-- Results in a row are found one by one. What each does to the state, they do together. -/
theorem outcome_mapM_eq_ok {context state} {S : State → State → Prop} {R : α → β → Prop}
    (hrefl : ∀ s, S s s) (htrans : ∀ {s t u}, S s t → S t u → S s u)
    {f : α → Run β} {xs : List α} {ys : List β} {after : State}
    (hf : ∀ x y before after, outcome (f x) context before = (.ok y, after) →
      S before after ∧ R x y)
    (h : outcome (xs.mapM f) context state = (.ok ys, after)) :
    S state after ∧ List.Forall₂ R xs ys := by
  induction xs generalizing ys state with
  | nil =>
    cases h
    exact ⟨hrefl _, .nil⟩
  | cons x xs ih =>
    rw [List.mapM_cons] at h
    obtain ⟨y, between, hy, h⟩ := outcome_bind_eq_ok h
    obtain ⟨rest, last, hrest, h⟩ := outcome_bind_eq_ok h
    cases h
    obtain ⟨hstep, hfirst⟩ := hf _ _ _ _ hy
    obtain ⟨hsteps, hothers⟩ := ih hrest
    exact ⟨htrans hstep hsteps, .cons hfirst hothers⟩

/-- Runs that each leave the state as it is end one after another. -/
theorem outcome_mapM {context state} {f : α → Run β} {xs : List α} {ys : List β}
    (h : List.Forall₂ (fun x y => outcome (f x) context state = (.ok y, state)) xs ys) :
    outcome (xs.mapM f) context state = (.ok ys, state) := by
  induction h with
  | nil => rfl
  | cons hfirst _ ih =>
    rw [List.mapM_cons, outcome_bind, hfirst]
    dsimp only
    rw [outcome_bind, ih]
    rfl

theorem outcome_foldlM {context state} {f : β → α → Run β} {g : β → α → β} {items : List α}
    (h : ∀ b, ∀ a ∈ items, outcome (f b a) context state = (.ok (g b a), state)) (b : β) :
    outcome (items.foldlM f b) context state = (.ok (items.foldl g b), state) := by
  induction items generalizing b with
  | nil => rfl
  | cons a rest ih =>
    rw [List.foldlM_cons, outcome_bind, h b a List.mem_cons_self]
    exact ih (fun b a ha => h b a (List.mem_cons_of_mem _ ha)) (g b a)

/-- A filter gathers what it keeps from the last to the first. -/
theorem outcome_filterAuxM {context state} {f : α → Run Bool} {p : α → Bool} {items : List α}
    (h : ∀ a ∈ items, outcome (f a) context state = (.ok (p a), state)) (gathered : List α) :
    outcome (items.filterAuxM f gathered) context state =
      (.ok ((items.filter p).reverse ++ gathered), state) := by
  induction items generalizing gathered with
  | nil => rfl
  | cons a rest ih =>
    rw [List.filterAuxM, outcome_bind, h a List.mem_cons_self]
    dsimp only
    rw [ih fun b hb => h b (List.mem_cons_of_mem _ hb)]
    cases hkeep : p a <;> simp [hkeep]

theorem outcome_filterM {context state} {f : α → Run Bool} {p : α → Bool} {items : List α}
    (h : ∀ a ∈ items, outcome (f a) context state = (.ok (p a), state)) :
    outcome (items.filterM f) context state = (.ok (items.filter p), state) := by
  rw [List.filterM, outcome_bind, outcome_filterAuxM h]
  simp

theorem outcome_map (f : α → β) (x : Run α) :
    outcome (f <$> x) context state =
      match outcome x context state with
      | (.ok a, after) => (.ok (f a), after)
      | (.error fault, after) => (.error fault, after) := by
  rw [map_eq_pure_bind, outcome_bind]
  rfl

theorem outcome_tryCatch (x : Run α) (handle : Fault → Run α) :
    outcome (tryCatch x handle) context state =
      match outcome x context state with
      | (.ok a, after) => (.ok a, after)
      | (.error fault, after) => outcome (handle fault) context after := by
  unfold outcome
  simp only [tryCatch, tryCatchThe, MonadExceptOf.tryCatch, ExceptT.tryCatch, ExceptT.mk, bind,
    StateT.bind]
  rcases x context state with ⟨fault | a, after⟩
  · rfl
  · rfl

theorem outcome_caught (catches : Fault → Bool) (x : Run α) :
    outcome (caught catches x) context state =
      match outcome x context state with
      | (.ok a, after) => (.ok (.ok a), after)
      | (.error fault, after) =>
        if catches fault then (.ok (.error fault), after) else (.error fault, after) := by
  unfold caught
  rw [outcome_tryCatch, outcome_map]
  rcases outcome x context state with ⟨fault | a, after⟩
  · show outcome (if catches fault then pure (Except.error fault) else throw fault) context after = _
    by_cases h : catches fault
    · rw [if_pos h]
      exact (if_pos h).symm
    · rw [if_neg h]
      exact (if_neg h).symm
  · rfl

/-- Missing data is found to be nothing; any other fault stays one. -/
theorem outcome_found_eq_ok {x : Run α} {result : Option α}
    {context : Context} {state after : State}
    (h : (found? x).outcome context state = (.ok result, after)) :
    (∃ a, x.outcome context state = (.ok a, after) ∧ result = some a) ∨
      ∃ fault : Fault, fault.isMissing = true ∧
        x.outcome context state = (.error fault, after) ∧ result = none := by
  rw [found?, outcome_map, outcome_caught] at h
  rcases hx : x.outcome context state with ⟨fault | a, between⟩
  · rw [hx] at h
    by_cases hmissing : fault.isMissing = true
    · simp only [hmissing, if_true] at h
      cases h
      exact .inr ⟨fault, hmissing, rfl, rfl⟩
    · simp only [hmissing] at h
      cases h
  · rw [hx] at h
    cases h
    exact .inl ⟨a, rfl, rfl⟩

@[simp] theorem outcome_read : outcome (read : Run Context) context state = (.ok context, state) :=
  rfl

@[simp] theorem outcome_get : outcome (get : Run State) context state = (.ok state, state) := rfl

@[simp] theorem outcome_store : outcome store context state = (.ok state.store, state) := rfl

@[simp] theorem outcome_draw :
    outcome draw context state =
      (.ok (context.random state.drawn), { state with drawn := state.drawn + 1 }) := rfl

@[simp] theorem outcome_lift (e : Except Fault α) :
    outcome (liftM e : Run α) context state = (e, state) := by
  cases e <;> rfl

theorem lift_map (e : Except Fault α) (f : α → β) :
    (liftM (e.map f) : Run β) = liftM e >>= fun a => pure (f a) := by
  cases e <;> rfl

theorem lift_bind (e : Except Fault α) (f : α → Except Fault β) :
    (liftM (e >>= f) : Run β) = liftM e >>= fun a => liftM (f a) := by
  cases e <;> rfl

/-! ### Items that only give results -/

/-- A run that always ends with a result and leaves the state as it is only gives it. -/
theorem eq_pure {x : Run α} {a : α}
    (h : ∀ context state, outcome x context state = (.ok a, state)) : x = pure a :=
  funext fun context => funext fun state => h context state

theorem foldlM_eq_pure {f : β → α → Run β} {g : β → α → β} {items : List α}
    (h : ∀ b, ∀ a ∈ items, f b a = pure (g b a)) (b : β) :
    items.foldlM f b = pure (items.foldl g b) := by
  refine eq_pure fun context state => outcome_foldlM (fun b a ha => ?_) b
  rw [h b a ha, outcome_pure]

theorem mapM_eq_pure {f : α → Run β} {g : α → β} {items : List α}
    (h : ∀ a ∈ items, f a = pure (g a)) : items.mapM f = pure (items.map g) := by
  induction items with
  | nil => rfl
  | cons a rest ih =>
    rw [List.mapM_cons, h a List.mem_cons_self, ih fun a ha => h a (List.mem_cons_of_mem _ ha)]
    rfl

theorem filterM_eq_pure {f : α → Run Bool} {p : α → Bool} {items : List α}
    (h : ∀ a ∈ items, f a = pure (p a)) : items.filterM f = pure (items.filter p) := by
  refine eq_pure fun context state => outcome_filterM fun a ha => ?_
  rw [h a ha, outcome_pure]

/-! ### Runs that end the same -/

variable {context state} {S : State → Prop} {P : α → Prop} {Q : β → Prop}

/-- In all states of a kind and in all contexts, the run ends the same and leaves the state as
it is. Its result is as the predicate says. -/
def Uniform (S : State → Prop) (x : Run α) (P : α → Prop) : Prop :=
  ∃ result, (∀ context state, S state → x.outcome context state = (result, state)) ∧
    ∀ a, result = .ok a → P a

namespace Uniform

theorem pure {a : α} (ha : P a) : Uniform S (Pure.pure a) P :=
  ⟨.ok a, fun _ _ _ => rfl, fun _ h => Except.ok.inj h ▸ ha⟩

theorem fail (fault : Fault) : Uniform S (throw fault : Run α) P :=
  ⟨.error fault, fun _ _ _ => rfl, fun _ h => by cases h⟩

theorem bind {x : Run α} {f : α → Run β} (hx : Uniform S x P)
    (hf : ∀ a, P a → Uniform S (f a) Q) : Uniform S (x >>= f) Q := by
  obtain ⟨result, hx, hP⟩ := hx
  cases result with
  | error fault =>
    refine ⟨.error fault, fun context state hstate => ?_, fun b hb => by cases hb⟩
    rw [outcome_bind, hx context state hstate]
  | ok a =>
    obtain ⟨result, hf, hQ⟩ := hf a (hP a rfl)
    refine ⟨result, fun context state hstate => ?_, hQ⟩
    rw [outcome_bind, hx context state hstate]
    exact hf context state hstate

theorem caught {x : Run α} (catches : Fault → Bool) (hx : Uniform S x P) :
    Uniform S (Run.caught catches x) fun result => ∀ a, result = .ok a → P a := by
  obtain ⟨result, hx, hP⟩ := hx
  cases result with
  | ok a =>
    refine ⟨.ok (.ok a), fun context state hstate => ?_, fun result hr => by cases hr; exact hP⟩
    rw [outcome_caught, hx context state hstate]
  | error fault =>
    by_cases h : catches fault
    · refine ⟨.ok (.error fault), fun context state hstate => ?_, fun result hr => ?_⟩
      · rw [outcome_caught, hx context state hstate]
        exact if_pos h
      · cases hr
        exact fun a ha => by cases ha
    · refine ⟨.error fault, fun context state hstate => ?_, fun a ha => by cases ha⟩
      rw [outcome_caught, hx context state hstate]
      exact if_neg h

end Uniform

end DocQuery.Run
