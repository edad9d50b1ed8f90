import DocQuery.Proofs.Query.Avoids

/-! Runs that can be repeated.

A term that asks for neither the time nor random numbers may still draw some: a document that is
inserted without a key gets a key that is made up. A run of such a term that happens to make up no
key does the same to the store in every context, however many numbers were drawn before it. -/
namespace DocQuery

/-! ### Insertions without new keys -/

namespace Table
variable {conflict : Conflict} {fresh : Nat → String}

/-- A document is inserted with a key that is made up, or the keys that could be do not matter. -/
theorem step_cases (conflict : Conflict) (fresh : Nat → String) (i : Insertion) (document : Json) :
    (i.step conflict fresh document).drawn = i.drawn + 1 ∨
      ((i.step conflict fresh document).drawn = i.drawn ∧
        ∀ fresh', i.step conflict fresh' document = i.step conflict fresh document) := by
  unfold Insertion.step
  split
  · split
    · exact .inr ⟨rfl, fun _ => rfl⟩
    · exact .inl rfl
  · exact .inr ⟨rfl, fun _ => rfl⟩

theorem drawn_foldl_step (documents : List Json) (i : Insertion) :
    i.drawn ≤ (documents.foldl (Insertion.step conflict fresh) i).drawn ∧
      ((documents.foldl (Insertion.step conflict fresh) i).drawn = i.drawn →
        ∀ fresh', documents.foldl (Insertion.step conflict fresh') i =
          documents.foldl (Insertion.step conflict fresh) i) := by
  induction documents generalizing i with
  | nil => exact ⟨Nat.le_refl _, fun _ _ => rfl⟩
  | cons document rest ih =>
    simp only [List.foldl_cons]
    obtain ⟨hle, hrest⟩ := ih (i.step conflict fresh document)
    obtain hstep | ⟨hstep, hsame⟩ := step_cases conflict fresh i document
    · exact ⟨by omega, fun heq => by omega⟩
    · refine ⟨by omega, fun heq fresh' => ?_⟩
      rw [hsame fresh']
      exact hrest (by omega) fresh'

/-- An insertion that makes up no keys does not depend on the keys that it could make up. -/
theorem insert_of_drawn {table : Table} {documents : List Json} {logged : Bool}
    (h : (table.insert documents conflict logged fresh).drawn = 0) (fresh' : Nat → String) :
    table.insert documents conflict logged fresh' = table.insert documents conflict logged fresh :=
  (drawn_foldl_step documents { table, summary := .start logged }).2 h fresh'

end Table

/-! ### Repeatable runs -/

namespace Run
variable {α β : Type} {P : α → Prop} {Q : β → Prop}

/-- A run that draws nothing ends the same in every context, however many numbers were drawn
before, and does the same to the store. No run takes back what was drawn. -/
def Repeatable (x : Run α) (P : α → Prop) : Prop :=
  ∀ context state, ∃ result after, x.outcome context state = (result, after) ∧
    state.drawn ≤ after.drawn ∧
    (after.drawn = state.drawn → ∀ context' drawn,
      x.outcome context' ⟨state.store, drawn⟩ = (result, ⟨after.store, drawn⟩)) ∧
    ∀ a, result = .ok a → P a

namespace Repeatable

section
variable {x : Run α} {context : Context}

theorem drawn_le (hx : Repeatable x P) {state after : State} {result : Except Fault α}
    (h : x.outcome context state = (result, after)) : state.drawn ≤ after.drawn := by
  obtain ⟨_, _, hrun, hle, -⟩ := hx context state
  cases hrun.symm.trans h
  exact hle

theorem repeats (hx : Repeatable x P) {store store' : Store} {drawn : Nat}
    {result : Except Fault α}
    (h : x.outcome context ⟨store, drawn⟩ = (result, ⟨store', drawn⟩)) (context' : Context)
    (drawn' : Nat) : x.outcome context' ⟨store, drawn'⟩ = (result, ⟨store', drawn'⟩) := by
  obtain ⟨_, _, hrun, -, hsame, -⟩ := hx context ⟨store, drawn⟩
  cases hrun.symm.trans h
  exact hsame rfl context' drawn'

end

/-- A run that reads nothing but the store, and leaves it as it is. -/
theorem of_read {x : Run α} (r : Store → Except Fault α)
    (hx : ∀ context state, x.outcome context state = (r state.store, state))
    (hP : ∀ store a, r store = .ok a → P a) : Repeatable x P := fun context state =>
  ⟨r state.store, state, hx context state, Nat.le_refl _, fun _ _ _ => hx _ _, hP state.store⟩

theorem bind {x : Run α} {f : α → Run β} (hx : Repeatable x P)
    (hf : ∀ a, P a → Repeatable (f a) Q) : Repeatable (x >>= f) Q := by
  intro context state
  obtain ⟨result, between, hrun, hle, hsame, hP⟩ := hx context state
  cases result with
  | error fault =>
    refine ⟨.error fault, between, by rw [outcome_bind, hrun], hle, ?_, nofun⟩
    intro heq context' drawn
    rw [outcome_bind, hsame heq]
  | ok a =>
    obtain ⟨result, after, hrest, hle', hsame', hQ⟩ := hf a (hP a rfl) context between
    refine ⟨result, after, ?_, by omega, fun heq context' drawn => ?_, hQ⟩
    · rw [outcome_bind, hrun]
      exact hrest
    · rw [outcome_bind, hsame (by omega)]
      exact hsame' (by omega) context' drawn

theorem caught {x : Run α} (catches : Fault → Bool) (hx : Repeatable x P) :
    Repeatable (Run.caught catches x) fun result => ∀ a, result = .ok a → P a := by
  intro context state
  obtain ⟨result, after, hrun, hle, hsame, hP⟩ := hx context state
  cases result with
  | ok a =>
    refine ⟨.ok (.ok a), after, by rw [outcome_caught, hrun], hle, ?_, ?_⟩
    · intro heq context' drawn
      rw [outcome_caught, hsame heq]
    · rintro _ ⟨⟩
      exact hP
  | error fault =>
    by_cases h : catches fault = true
    · refine ⟨.ok (.error fault), after, by simp [outcome_caught, hrun, h], hle, ?_, ?_⟩
      · intro heq context' drawn
        simp [outcome_caught, hsame heq, h]
      · rintro _ ⟨⟩
        exact nofun
    · refine ⟨.error fault, after, by simp [outcome_caught, hrun, h], hle, ?_,
        fun _ h => by cases h⟩
      intro heq context' drawn
      simp [outcome_caught, hsame heq, h]

theorem replay (name : TableName) (writes : List Write) :
    Repeatable (Call.replay name writes) fun _ => True := by
  intro context state
  cases htarget : state.store.target name with
  | error fault =>
    refine ⟨.error fault, state, by simp [Call.outcome_replay, htarget], Nat.le_refl _, ?_, nofun⟩
    intro _ context' drawn
    simp [Call.outcome_replay, htarget]
  | ok table =>
    refine ⟨.ok (), ⟨state.store.setTable name (table.apply writes), state.drawn⟩,
      by simp [Call.outcome_replay, htarget], Nat.le_refl _, ?_, fun _ _ => trivial⟩
    intro _ context' drawn
    simp [Call.outcome_replay, htarget]

theorem enter (name : TableName) (documents : List Json) (conflict : Conflict) (logged : Bool) :
    Repeatable (Call.enter name documents conflict logged) fun d => ∃ v, d = .value v := by
  intro context state
  cases htarget : state.store.target name with
  | error fault =>
    refine ⟨.error fault, state, by simp [Call.outcome_enter, htarget], Nat.le_refl _, ?_, nofun⟩
    intro _ context' drawn
    simp [Call.outcome_enter, htarget]
  | ok table =>
    let done := table.insert documents conflict logged fun index =>
      Uuid.text (Uuid.ofRandom (context.random (state.drawn + index)))
    refine ⟨.ok (.value done.summary.toJson),
      ⟨state.store.setTable name done.table, state.drawn + done.drawn⟩,
      by simp [Call.outcome_enter, htarget, done], Nat.le_add_right _ _,
      fun heq context' drawn => ?_, fun d hd => ⟨_, (Except.ok.inj hd).symm⟩⟩
    -- No key is made up, so it does not matter which ones the other context would give.
    have hnone : done.drawn = 0 := by
      simp only at heq
      omega
    simp [Call.outcome_enter, htarget, Table.insert_of_drawn hnone, done, hnone]

end Repeatable

/-- Runs of operations that ask for neither the time nor random numbers are repeatable. -/
def repeatable : Logic where
  Holds := Repeatable
  Faults _ := True
  operational _ _ := trivial
  Database _ := True
  Rows _ _ := True
  rows_subset _ _ := trivial
  Chance := False
  pure {_ _ a} ha := .of_read (fun _ => .ok a) (fun _ _ => rfl) fun _ _ h => Except.ok.inj h ▸ ha
  bind := Repeatable.bind
  fail {_ _ fault} _ := .of_read (fun _ => .error fault) (fun _ _ => rfl) fun _ _ => nofun
  caught := Repeatable.caught
  context h := h.elim
  draw h := h.elim
  table {name} _ := .of_read (·.table name)
    (fun context state => by
      unfold Run.table
      rw [outcome_bind, outcome_store]
      exact outcome_lift context state _)
    fun _ _ _ => trivial

end Run

theorem Operation.code_of_usesChance {op : Operation} (h : Call.usesChance op = true) :
    op.code ∈ [81, 103, 151, 169] := by
  cases op <;> first | decide | cases h

namespace Policy

theorem repeatable_sound : (avoiding Call.usesChance).Sound Run.repeatable := by
  refine avoiding_sound trivial (fun _ => trivial) rfl (fun db => ?_) (fun op hchance hop => ?_)
    (fun _ _ _ _ => trivial) (fun _ name documents conflict logged _ => ?_)
    fun _ _ _ name writes _ => .replay name writes
  · refine Call.holds_named (.of_read .ok (fun _ _ => rfl) fun _ _ _ => trivial) trivial
  · rw [hchance] at hop
    cases hop
  · refine Run.Logic.mono (Run.Repeatable.enter name documents conflict logged) fun d hd => ?_
    obtain ⟨v, rfl⟩ := hd
    trivial

end Policy

end DocQuery
