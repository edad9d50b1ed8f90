import DocQuery.Fault
import Mathlib.Data.List.Defs

/-! Results and the faults that they can be.

Results that are no faults come of results that are none. A result may be known to fail in
some ways only (`FailsOnly`); what an operation fails with is never the fault of a term that
is no query (`Operational`). -/
namespace DocQuery

theorem bind_eq_ok {α β : Type} {e : Except Fault α} {f : α → Except Fault β} {b : β}
    (h : e >>= f = .ok b) : ∃ a, e = .ok a ∧ f a = .ok b := by
  cases e with
  | ok a => exact ⟨a, rfl, h⟩
  | error fault => cases h

theorem map_eq_ok_iff {α β : Type} {e : Except Fault α} {f : α → β} {b : β} :
    e.map f = .ok b ↔ ∃ a, e = .ok a ∧ f a = b := by
  cases e <;> simp [Except.map]

theorem map_succeeds_iff {α β : Type} {e : Except Fault α} {f : α → β} :
    (∃ b, e.map f = .ok b) ↔ ∃ a, e = .ok a := by
  cases e <;> simp [Except.map]

/-- What follows a result need only agree where there is one. -/
theorem bind_congr_ok {α β : Type} {e : Except Fault α} {f g : α → Except Fault β}
    (h : ∀ a, e = .ok a → f a = g a) : e >>= f = e >>= g := by
  cases e with
  | error fault => rfl
  | ok a => exact h a rfl

theorem mem_of_mapM {α β : Type} {f : α → Except Fault β} {xs : List α} {ys : List β}
    (h : xs.mapM f = .ok ys) {y : β} (hy : y ∈ ys) : ∃ x ∈ xs, f x = .ok y := by
  induction xs generalizing ys with
  | nil =>
    cases h
    cases hy
  | cons x xs ih =>
    rw [List.mapM_cons] at h
    obtain ⟨first, hfirst, h⟩ := bind_eq_ok h
    obtain ⟨rest, hrest, h⟩ := bind_eq_ok h
    cases h
    rcases List.mem_cons.mp hy with rfl | hy
    · exact ⟨x, List.mem_cons_self, hfirst⟩
    · obtain ⟨z, hz, hzy⟩ := ih hrest hy
      exact ⟨z, List.mem_cons_of_mem x hz, hzy⟩

theorem exists_of_forall₂ {α β : Type} {R : α → β → Prop} {xs : List α} {ys : List β}
    (h : List.Forall₂ R xs ys) {x : α} (hx : x ∈ xs) : ∃ y ∈ ys, R x y := by
  induction h with
  | nil => cases hx
  | @cons a b as bs hab _ ih =>
    rcases List.mem_cons.mp hx with rfl | hx
    · exact ⟨b, List.mem_cons_self, hab⟩
    · obtain ⟨y, hy, hxy⟩ := ih hx
      exact ⟨y, List.mem_cons_of_mem b hy, hxy⟩

theorem exists_forall₂ {α β : Type} {R : α → β → Prop} {xs : List α}
    (h : ∀ x ∈ xs, ∃ y, R x y) : ∃ ys, List.Forall₂ R xs ys := by
  induction xs with
  | nil => exact ⟨[], .nil⟩
  | cons x xs ih =>
    obtain ⟨y, hy⟩ := h x List.mem_cons_self
    obtain ⟨ys, hys⟩ := ih fun z hz => h z (List.mem_cons_of_mem x hz)
    exact ⟨y :: ys, .cons hy hys⟩

/-- Two lists that are related item by item can be related to a third one, if their items can. -/
theorem forall₂_extend {α β γ : Type} {R : α → β → Prop} {S : α → γ → Prop} {T : β → γ → Prop}
    {xs : List α} {ys : List β} (h : List.Forall₂ R xs ys)
    (hstep : ∀ x ∈ xs, ∀ y, R x y → ∃ z, S x z ∧ T y z) :
    ∃ zs, List.Forall₂ S xs zs ∧ List.Forall₂ T ys zs := by
  induction h with
  | nil => exact ⟨[], .nil, .nil⟩
  | @cons x y xs ys hxy _ ih =>
    obtain ⟨z, hxz, hyz⟩ := hstep x List.mem_cons_self y hxy
    obtain ⟨zs, hxs, hys⟩ := ih fun x hx => hstep x (List.mem_cons_of_mem _ hx)
    exact ⟨z :: zs, .cons hxz hxs, .cons hyz hys⟩

/-- Results in a row are found one by one. -/
theorem mapM_eq_ok_iff {α β : Type} {f : α → Except Fault β} {xs : List α} {ys : List β} :
    xs.mapM f = .ok ys ↔ List.Forall₂ (fun x y => f x = .ok y) xs ys := by
  induction xs generalizing ys with
  | nil =>
    refine ⟨fun h => ?_, fun h => ?_⟩
    · cases h
      exact .nil
    · cases h
      rfl
  | cons x xs ih =>
    rw [List.mapM_cons]
    refine ⟨fun h => ?_, fun h => ?_⟩
    · obtain ⟨first, hfirst, h⟩ := bind_eq_ok h
      obtain ⟨rest, hrest, h⟩ := bind_eq_ok h
      cases h
      exact .cons hfirst (ih.mp hrest)
    · cases h with
      | cons hfirst hrest =>
        rw [hfirst, ih.mpr hrest]
        rfl

/-! ### Ways to fail -/

/-- If the result is a fault, it is one of a class. -/
def FailsOnly {α : Type} (F : Fault → Prop) (e : Except Fault α) : Prop :=
  ∀ fault, e = .error fault → F fault

namespace FailsOnly
variable {α β : Type} {F : Fault → Prop} {e : Except Fault α} {f : α → Except Fault β}

@[simp] theorem ok (a : α) : FailsOnly F (.ok a) := fun _ h => by cases h

@[simp] theorem pure (a : α) : FailsOnly F (Pure.pure a : Except Fault α) := ok a

theorem mono {G : Fault → Prop} (he : FailsOnly F e) (h : ∀ fault, F fault → G fault) :
    FailsOnly G e :=
  fun fault hfault => h fault (he fault hfault)

@[simp] theorem error_iff {fault : Fault} :
    FailsOnly F (.error fault : Except Fault α) ↔ F fault :=
  ⟨fun h => h fault rfl, fun h _ heq => Except.error.inj heq ▸ h⟩

@[simp] theorem throw_iff {fault : Fault} :
    FailsOnly F (throw fault : Except Fault α) ↔ F fault := error_iff

theorem bind_of_ok (he : FailsOnly F e) (hf : ∀ a, e = .ok a → FailsOnly F (f a)) :
    FailsOnly F (e >>= f) := by
  cases e with
  | ok a => exact hf a rfl
  | error fault => exact error_iff.mpr (error_iff.mp he)

@[simp] theorem bind (he : FailsOnly F e) (hf : ∀ a, FailsOnly F (f a)) :
    FailsOnly F (e >>= f) :=
  bind_of_ok he fun a _ => hf a

theorem throw_bind {fault : Fault} (h : F fault) : FailsOnly F (throw fault >>= f) :=
  error_iff.mpr h

@[simp] theorem map (g : α → β) (he : FailsOnly F e) : FailsOnly F (g <$> e) := by
  cases e with
  | ok a => exact ok (g a)
  | error fault => exact error_iff.mpr (error_iff.mp he)

@[simp] theorem ite {c : Prop} [Decidable c] {e' : Except Fault α} (h : FailsOnly F e)
    (h' : FailsOnly F e') : FailsOnly F (if c then e else e') := by
  split <;> assumption

theorem mapM {xs : List α} (hf : ∀ x ∈ xs, FailsOnly F (f x)) : FailsOnly F (xs.mapM f) := by
  induction xs with
  | nil => exact ok []
  | cons x xs ih =>
    rw [List.mapM_cons]
    refine bind (hf x List.mem_cons_self) fun y => bind (ih fun z hz => ?_) fun ys => ok _
    exact hf z (List.mem_cons_of_mem x hz)

theorem foldlM {g : β → α → Except Fault β} {xs : List α} {b : β}
    (hg : ∀ b, ∀ x ∈ xs, FailsOnly F (g b x)) : FailsOnly F (xs.foldlM g b) := by
  induction xs generalizing b with
  | nil => exact ok b
  | cons x xs ih =>
    rw [List.foldlM_cons]
    exact bind (hg b x List.mem_cons_self) fun c =>
      ih fun c z hz => hg c z (List.mem_cons_of_mem x hz)

end FailsOnly

/-! ### Two results -/

/-- Both are the same fault, or both are values that are related. -/
def Agree {α β : Type} (R : α → β → Prop) : Except Fault α → Except Fault β → Prop
  | .ok a, .ok b => R a b
  | .error fault, .error fault' => fault = fault'
  | _, _ => False

namespace Agree
variable {α β γ δ : Type} {R : α → β → Prop} {S : γ → δ → Prop}

theorem error (fault : Fault) : Agree R (.error fault) (.error fault) := rfl

theorem bind {e : Except Fault α} {e' : Except Fault β} {f : α → Except Fault γ}
    {g : β → Except Fault δ} (he : Agree R e e') (hf : ∀ a b, R a b → Agree S (f a) (g b)) :
    Agree S (e >>= f) (e' >>= g) := by
  cases e with
  | ok a => cases e' with
    | ok b => exact hf a b he
    | error fault => exact False.elim he
  | error fault => cases e' with
    | ok b => exact False.elim he
    | error fault' => exact he

theorem imp {R' : α → β → Prop} {e : Except Fault α} {e' : Except Fault β} (he : Agree R e e')
    (h : ∀ a b, R a b → R' a b) : Agree R' e e' := by
  cases e <;> cases e' <;> first | exact h _ _ he | exact he

/-- The same result, taken on in two ways. -/
theorem bind_same {e : Except Fault α} {f : α → Except Fault γ} {g : α → Except Fault δ}
    (hf : ∀ a, e = .ok a → Agree S (f a) (g a)) : Agree S (e >>= f) (e >>= g) := by
  cases e with
  | ok a => exact hf a rfl
  | error fault => exact error fault

theorem mapM {xs : List α} {f : α → Except Fault γ} {g : α → Except Fault δ}
    (h : ∀ x ∈ xs, Agree S (f x) (g x)) : Agree (List.Forall₂ S) (xs.mapM f) (xs.mapM g) := by
  induction xs with
  | nil => exact .nil
  | cons x xs ih =>
    rw [List.mapM_cons, List.mapM_cons]
    refine bind (h x List.mem_cons_self) fun y z hyz => ?_
    exact bind (ih fun w hw => h w (List.mem_cons_of_mem x hw)) fun ys zs hall => .cons hyz hall

end Agree

/-! ### Faults of operations -/

/-- An argument is not there that the operation reads by its position. -/
def Fault.Lacking : Fault → Prop
  | .argumentMissing .. | .functionMissing _ | .elseMissing => True
  | _ => False

/-- What an operation can fail with if it has the arguments that it reads. All other faults
are found where a term is made into a query, or stand for calls that are nested too deeply. -/
def Fault.Operational (fault : Fault) : Prop :=
  match fault with
  | .argumentMissing .. | .functionMissing _ | .elseMissing => False
  | _ =>
    match fault.kind with
    | .runtime | .unsupported | .notFound | .io | .json => True
    | .unknownTerm | .unsupportedOperation | .scopeResolution | .arity | .malformed
    | .callDepth => False

theorem Fault.Operational.not_lacking {fault : Fault} (h : fault.Operational) :
    ¬ fault.Lacking := fun hlacking => by
  cases fault <;> first | (cases h; done) | cases hlacking

theorem Fault.Lacking.kind {fault : Fault} (h : fault.Lacking) : fault.kind = .runtime := by
  cases fault <;> first | rfl | cases h

/-- The result fails as operations do, if it does. -/
abbrev Operational {α : Type} (e : Except Fault α) : Prop := FailsOnly Fault.Operational e

end DocQuery
