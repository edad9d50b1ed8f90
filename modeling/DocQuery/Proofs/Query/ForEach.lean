import DocQuery.Proofs.Query.Receivers
import DocQuery.Proofs.Repeatable
import DocQuery.Proofs.Store.Summing

/-! Writing for each row.

The rows are gone through with a total, which takes in what the function gives for each of them.
What a total starts from stays in front of all that is taken in (`Call.outcome_step_absorb`), and a
function that makes up no keys does the same whenever it is called in the same store. So writing
for some rows and then for others is the same as writing for all of them. -/
namespace DocQuery

/-! ### The total -/

namespace Call
open Run
variable {f : List Json → Run Json} {total next : Summary} {row : Json} {rows : List Json}
  {context : Context} {store store' : Store} {drawn : Nat}

/-- The results that a function gives for a row: those of a list, or a single one. -/
def resultsOf : Json → List Json
  | .array results => results
  | single => [single]

/-- Calls a function for a row and takes what it gives into the total. -/
def forEachStep (f : List Json → Run Json) (total : Summary) (row : Json) : Run Summary := do
  addSummaries total (resultsOf (← f [row]))

/-- Calls a function for all rows and adds up what it gives. -/
def forEachTotal (f : List Json → Run Json) (total : Summary) (rows : List Json) : Run Summary :=
  rows.foldlM (forEachStep f) total

theorem dispatch_forEach {first arg : Argument} (hf : arg.call? = some f) (rows : List Json) :
    dispatch ⟨.forEach, [first, arg], []⟩ (.value (.array rows)) =
      forEachTotal f {} rows >>= fun total => pure (.value total.toJson) := by
  have hstep : (fun total row => do
      match ← arg.apply [row] with
      | .array results => addSummaries total results
      | single => addSummaries total [single] : Summary → Json → Run Summary) = forEachStep f := by
    funext total row
    simp only [Operand.apply, hf, forEachStep]
    refine congrArg (f [row] >>= ·) (funext fun result => ?_)
    cases result <;> rfl
  show (rows.foldlM (fun total row => do
      match ← arg.apply [row] with
      | .array results => addSummaries total results
      | single => addSummaries total [single] : Summary → Json → Run Summary) {} >>= fun total =>
    pure total.toJson) >>= (fun v => pure (Datum.value v)) = _
  rw [hstep, bind_assoc]
  rfl

section
variable (hf : ∀ row, repeatable.Runs (f [row]))
include hf

theorem repeatable_step (total : Summary) (row : Json) :
    repeatable.Runs (forEachStep f total row) :=
  repeatable.bind (hf row) fun _ _ => Logic.runs_lift (operational_addSummaries _ _)

theorem repeatable_total (total : Summary) (rows : List Json) :
    repeatable.Runs (forEachTotal f total rows) :=
  Logic.runs_foldlM fun total row _ => repeatable_step hf total row

/-- A step that draws nothing does the same after an earlier total, which stays in front. -/
theorem outcome_step_absorb
    (h : (forEachStep f total row).outcome context ⟨store, drawn⟩ = (.ok next, ⟨store', drawn⟩))
    (earlier : Summary) (context' : Context) (drawn' : Nat) :
    (forEachStep f (earlier.absorb total) row).outcome context' ⟨store, drawn'⟩ =
      (.ok (earlier.absorb next), ⟨store', drawn'⟩) := by
  obtain ⟨result, between, hresult, hadd⟩ := outcome_bind_eq_ok h
  rw [outcome_lift] at hadd
  obtain ⟨htotal, rfl⟩ := Prod.mk.inj hadd
  have hagain := Repeatable.repeats (hf row) hresult
  unfold forEachStep
  rw [outcome_bind, hagain context' drawn']
  dsimp only
  rw [outcome_lift, addSummaries_absorb, htotal]
  rfl

/-- So does the total of all rows, since no step takes back what was drawn. -/
theorem outcome_total_absorb
    (h : (forEachTotal f total rows).outcome context ⟨store, drawn⟩ = (.ok next, ⟨store', drawn⟩))
    (earlier : Summary) (context' : Context) (drawn' : Nat) :
    (forEachTotal f (earlier.absorb total) rows).outcome context' ⟨store, drawn'⟩ =
      (.ok (earlier.absorb next), ⟨store', drawn'⟩) := by
  induction rows generalizing total store with
  | nil =>
    cases h
    rfl
  | cons row rest ih =>
    unfold forEachTotal at h ⊢
    rw [List.foldlM_cons] at h ⊢
    obtain ⟨found, between, hstep, hrest⟩ := outcome_bind_eq_ok h
    have hle : drawn ≤ between.drawn := Repeatable.drawn_le (repeatable_step hf total row) hstep
    have hle' : between.drawn ≤ drawn := Repeatable.drawn_le (repeatable_total hf found rest) hrest
    obtain ⟨store₁, drawn₁⟩ := between
    obtain rfl : drawn₁ = drawn := Nat.le_antisymm hle' hle
    rw [outcome_bind, outcome_step_absorb hf hstep]
    exact ih hrest

/-- Rows after others are gone through as they are from the store that the others end in. -/
theorem outcome_total_append {xs ys : List Json} {first second : Summary} {store₁ store₂ : Store}
    {context₁ context₂ : Context} {drawn₁ drawn₂ : Nat}
    (hfirst : (forEachTotal f {} xs).outcome context₁ ⟨store, drawn₁⟩ =
      (.ok first, ⟨store₁, drawn₁⟩))
    (hsecond : (forEachTotal f {} ys).outcome context₂ ⟨store₁, drawn₂⟩ =
      (.ok second, ⟨store₂, drawn₂⟩)) (context : Context) (drawn : Nat) :
    (forEachTotal f {} (xs ++ ys)).outcome context ⟨store, drawn⟩ =
      (.ok (first.absorb second), ⟨store₂, drawn⟩) := by
  have hfront := outcome_total_absorb hf hfirst {} context drawn
  have hback := outcome_total_absorb hf hsecond first context drawn
  rw [Summary.empty_absorb, Summary.empty_absorb] at hfront
  rw [Summary.absorb_empty] at hback
  unfold forEachTotal at hfront hback ⊢
  rw [List.foldlM_append, outcome_bind, hfront]
  exact hback

end

end Call

/-! ### Queries -/

namespace Query
open Evaluation
variable {settings : Settings} {function : Json} {f : Function} {rows : List Json}
  {context : Run.Context} {state after : Run.State}

/-- The term that calls a function for each of the rows. -/
def forEachTerm (rows : List Json) (function : Json) : Json :=
  methodTerm .forEach (datumTerm (.array rows)) [function] none

theorem run_forEachTerm (hfunction : build ⟨function, settings⟩ = .ok (.func f))
    (rows : List Json) (context : Run.Context) (state : Run.State) :
    run ⟨forEachTerm rows function, settings⟩ context state =
      (Summary.toJson <$> Call.forEachTotal f.invoke {} rows).outcome context state := by
  generalize hrun : (Summary.toJson <$> Call.forEachTotal f.invoke {} rows).outcome context state =
    ended
  obtain ⟨result, last⟩ := ended
  have hyields : Yields settings (forEachTerm rows function) context state result last := by
    refine (Yields.datum settings (.array rows) context state).call rfl rfl (.inr rfl)
      (evaluateAll_singleton hfunction) (List.forall_mem_singleton.mpr nofun) (fun _ _ => rfl)
      fun first => ?_
    show (Call.dispatch ⟨.forEach, [first, (Handle.func f).argument Function.invoke], []⟩
      (.value (.array rows))).outcome context state = _
    rw [Call.dispatch_forEach rfl, Run.outcome_bind]
    rw [Run.outcome_map] at hrun
    revert hrun
    rcases (Call.forEachTotal f.invoke {} rows).outcome context state with ⟨fault | total, after⟩
    · rintro ⟨⟩
      rfl
    · rintro ⟨⟩
      rfl
  exact hyields.run_eq

/-- The total is read off what the query gives. -/
theorem outcome_total_of_run (hfunction : build ⟨function, settings⟩ = .ok (.func f))
    {total : Summary}
    (h : run ⟨forEachTerm rows function, settings⟩ context state = (.ok total.toJson, after)) :
    (Call.forEachTotal f.invoke {} rows).outcome context state = (.ok total, after) := by
  rw [run_forEachTerm hfunction, Run.outcome_map] at h
  revert h
  rcases (Call.forEachTotal f.invoke {} rows).outcome context state with ⟨fault | found, last⟩
  · rintro ⟨⟩
  · intro h
    obtain ⟨hjson, rfl⟩ := Prod.mk.inj h
    rw [Summary.toJson_injective (Except.ok.inj hjson)]

/-- Writing for each row splits over the rows, as often and wherever they are cut: the summary of
all of them is that of the first ones, which has absorbed that of the others. The function asks for
neither the time nor random numbers, and makes up no keys: as many numbers are drawn after a run as
before it. Summaries are read back as they were written, and absorbing them is associative with the
empty summary on either side. -/
theorem run_forEach_append :
    (∀ s : Summary, s.Bounded → Summary.ofJson? s.toJson = some s) ∧
    (∀ s t u : Summary, (s.absorb t).absorb u = s.absorb (t.absorb u)) ∧
    (∀ s : Summary, ({} : Summary).absorb s = s ∧ s.absorb {} = s) ∧
    ∀ (settings : Settings) (function : Json) (f : Function),
      build ⟨function, settings⟩ = .ok (.func f) → Avoids Call.usesChance function →
      ∀ (xs ys : List Json) (store store₁ store₂ : Store) (first second : Summary)
        (context₁ context₂ : Run.Context) (drawn₁ drawn₂ : Nat),
        run ⟨forEachTerm xs function, settings⟩ context₁ ⟨store, drawn₁⟩ =
            (.ok first.toJson, ⟨store₁, drawn₁⟩) →
        run ⟨forEachTerm ys function, settings⟩ context₂ ⟨store₁, drawn₂⟩ =
            (.ok second.toJson, ⟨store₂, drawn₂⟩) →
        ∀ context drawn,
          run ⟨forEachTerm (xs ++ ys) function, settings⟩ context ⟨store, drawn⟩ =
            (.ok (first.absorb second).toJson, ⟨store₂, drawn⟩) := by
  refine ⟨fun s => Summary.ofJson?_toJson, Summary.absorb_assoc,
    fun s => ⟨Summary.empty_absorb s, Summary.absorb_empty s⟩, ?_⟩
  intro settings function f hfunction havoid xs ys store store₁ store₂ first second context₁
    context₂ drawn₁ drawn₂ hfirst hsecond context drawn
  have hallowed : (Policy.avoiding Call.usesChance).Allows (.func f) :=
    (Policy.avoiding_admits rfl settings).build_means havoid hfunction
  have hrepeatable (row : Json) : Run.repeatable.Runs (f.invoke [row]) :=
    Policy.repeatable_sound.apply _ f hallowed trivial [row]
  rw [run_forEachTerm hfunction, Run.outcome_map,
    Call.outcome_total_append hrepeatable (outcome_total_of_run hfunction hfirst)
      (outcome_total_of_run hfunction hsecond)]

/-- Three insertions with a log, the last of which fails, cut after the first. -/
theorem run_forEach_append_insertions :
    let document (id : Nat) : Json := .object [("id", .ofNat id)]
    let row : Json := .array (Handle.node .var [.ofNat 1])
    let insertion := methodTerm .insert (.array (Handle.node .table [.string "t"])) [row]
      (some [("return_changes", .bool true)])
    let function := functionTerm (.ofNat 1) insertion
    let store (documents : List Json) := Store.empty.setTable ⟨"test", "t"⟩ ⟨"id", documents⟩
    let first : Summary :=
      { inserted := 1, changes := some [Summary.entry none (some (document 1))] }
    let second : Summary :=
      { inserted := 1, errors := 1, firstError := some (Fault.keyExists "id" (.ofNat 1)).message,
        changes := some [Summary.entry none (some (document 2))] }
    let context : Run.Context := ⟨⟨0, 0, 0⟩, fun _ => 0⟩
    run ⟨forEachTerm [document 1] function, {}⟩ context ⟨store [], 0⟩ =
        (.ok first.toJson, ⟨store [document 1], 0⟩) ∧
      run ⟨forEachTerm [document 2, document 1] function, {}⟩ context ⟨store [document 1], 0⟩ =
        (.ok second.toJson, ⟨store [document 1, document 2], 0⟩) ∧
      run ⟨forEachTerm [document 1, document 2, document 1] function, {}⟩ context ⟨store [], 0⟩ =
        (.ok (first.absorb second).toJson, ⟨store [document 1, document 2], 0⟩) ∧
      second.Bounded ∧ Summary.ofJson? second.toJson = some second := by
  intro document row insertion function store first second context
  obtain ⟨f, hfunction⟩ : ∃ f, build ⟨function, {}⟩ = .ok (.func f) :=
    exists_function (by decide +kernel)
  have havoid : Avoids Call.usesChance function :=
    .of_lacks (fun _ => Operation.code_of_usesChance) _ (by decide +kernel)
  have hfirst : run ⟨forEachTerm [document 1] function, {}⟩ context ⟨store [], 0⟩ =
      (.ok first.toJson, ⟨store [document 1], 0⟩) := by decide +kernel
  have hsecond :
      run ⟨forEachTerm [document 2, document 1] function, {}⟩ context ⟨store [document 1], 0⟩ =
        (.ok second.toJson, ⟨store [document 1, document 2], 0⟩) := by decide +kernel
  have hbounded : second.Bounded := by constructor <;> decide
  obtain ⟨hread, -, -, hsplit⟩ := run_forEach_append
  have hall := hsplit {} function f hfunction havoid [document 1] [document 2, document 1] _ _ _ _ _
    context context 0 0 hfirst hsecond context 0
  exact ⟨hfirst, hsecond, hall, hbounded, hread second hbounded⟩

end Query

end DocQuery
