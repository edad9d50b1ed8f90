import DocQuery.Proofs.Decided
import DocQuery.Proofs.Query.Positions

/-! Operations that take a predicate.

Counting, filtering, finding positions and looking for an item each go over the rows in a loop of
their own and ask a function about them. A function that the store decides leaves the state as it
is, so all of them get the same verdicts (`Call.Judges`), whatever they do with them: the verdicts
make a filter of the rows, its length, the positions of what it keeps, and whether it keeps
anything. -/
namespace DocQuery

/-! ### What is kept -/

namespace Call

theorem positions_cons (verdict : Bool) (verdicts : List Bool) :
    positions (verdict :: verdicts) =
      (if verdict then [0] else []) ++ (positions verdicts).map (· + 1) := by
  unfold positions
  rw [List.zipIdx_cons, List.zipIdx_succ, List.filterMap_cons, List.filterMap_map]
  cases verdict <;> simp [List.map_filterMap, apply_ite]

/-- The items at the positions are what a filter keeps, in order. -/
theorem forall₂_positions {α : Type} (p : α → Bool) (items : List α) :
    List.Forall₂ (fun i item => items[i]? = some item) (positions (items.map p))
      (items.filter p) := by
  induction items with
  | nil => exact .nil
  | cons item rest ih =>
    have hrest : List.Forall₂ (fun i kept => (item :: rest)[i]? = some kept)
        ((positions (rest.map p)).map (· + 1)) (rest.filter p) := by
      simpa [List.forall₂_map_left_iff] using ih
    rw [List.map_cons, positions_cons]
    by_cases hkeep : p item = true
    · simpa [hkeep] using hrest
    · simpa [hkeep] using hrest

/-- Adding one for each item that passes counts what a filter keeps. -/
theorem foldl_count {α : Type} (p : α → Bool) (items : List α) (n : Nat) :
    items.foldl (fun n item => if p item then n + 1 else n) n = n + (items.filter p).length := by
  induction items generalizing n with
  | nil => rfl
  | cons item rest ih =>
    rw [List.foldl_cons, ih, List.filter_cons]
    split
    · rw [List.length_cons]
      omega
    · rfl

/-! ### Verdicts -/

open Run
variable {arg first : Argument} {p : Json → Bool} {rows : List Json} {context : Context}
  {state : State}

/-- The argument is a function that gives a result for each row and leaves the state as it is.
The predicate says which results are true. -/
def Judges (arg : Argument) (p : Json → Bool) (rows : List Json) (context : Context)
    (state : State) : Prop :=
  ∃ f, arg.call? = some f ∧ ∀ row ∈ rows, ∃ verdict,
    (f [row]).outcome context state = (.ok verdict, state) ∧ verdict.truthy = p row

namespace Judges

theorem test (h : Judges arg p rows context state) :
    ∀ row ∈ rows, (arg.test row).outcome context state = (.ok (p row), state) := by
  obtain ⟨f, hf, hrows⟩ := h
  intro row hrow
  obtain ⟨verdict, hverdict, hp⟩ := hrows row hrow
  simp only [Operand.test, hf]
  rw [outcome_bind, hverdict]
  simp [hp]

theorem matcher (h : Judges arg p rows context state) :
    ∃ test, matcher arg = pure test ∧
      ∀ row ∈ rows, (test row).outcome context state = (.ok (p row), state) := by
  obtain ⟨f, hf, hrows⟩ := h
  refine ⟨fun row => do return (← f [row]).truthy, ?_, fun row hrow => ?_⟩
  · simp only [Call.matcher, hf]
  · obtain ⟨verdict, hverdict, hp⟩ := hrows row hrow
    rw [outcome_bind, hverdict]
    simp [hp]

theorem outcome_count (h : Judges arg p rows context state) :
    (dispatch ⟨.count, [first, arg], []⟩ (.value (.array rows))).outcome context state =
      (.ok (.value (.ofNat (rows.filter p).length)), state) := by
  have hitems : (countItems ⟨.count, [first, arg], []⟩ rows).outcome context state =
      (.ok (rows.filter p).length, state) := by
    obtain ⟨f, hf, hrows⟩ := h
    have hstep : ∀ n, ∀ row ∈ rows,
        (do return if (← f [row]).truthy then n + 1 else n : Run Nat).outcome context state =
          (.ok (if p row then n + 1 else n), state) := by
      intro n row hrow
      obtain ⟨verdict, hverdict, hp⟩ := hrows row hrow
      rw [outcome_bind, hverdict]
      simp [hp]
    have hcount := outcome_foldlM hstep 0
    rw [foldl_count, Nat.zero_add] at hcount
    simpa [countItems, hf] using hcount
  show ((countItems ⟨.count, [first, arg], []⟩ rows >>= fun n => pure (Json.ofNat n)) >>= fun v =>
    pure (Datum.value v) : Run Datum).outcome context state = _
  rw [outcome_bind, outcome_bind, hitems]
  rfl

theorem outcome_filter (h : Judges arg p rows context state) :
    (dispatch ⟨.filter, [first, arg], []⟩ (.value (.array rows))).outcome context state =
      (.ok (.value (.array (rows.filter p))), state) := by
  have hkeep : ∀ row ∈ rows,
      (do return (← Run.found? (arg.test row)).getD false : Run Bool).outcome context state =
        (.ok (p row), state) := by
    intro row hrow
    rw [outcome_bind, found?, outcome_map, outcome_caught, h.test row hrow]
    rfl
  show (rows.filterM (fun row => do return (← Run.found? (arg.test row)).getD false) >>= fun kept =>
    pure (Datum.ofRows none kept) : Run Datum).outcome context state = _
  rw [outcome_bind, outcome_filterM hkeep]
  rfl

theorem outcome_offsetsOf (h : Judges arg p rows context state) :
    (dispatch ⟨.offsetsOf, [first, arg], []⟩ (.value (.array rows))).outcome context state =
      (.ok (.value (.array ((positions (rows.map p)).map .ofNat))), state) := by
  obtain ⟨test, hmatcher, htest⟩ := h.matcher
  have hverdicts : (rows.mapM test).outcome context state = (.ok (rows.map p), state) := by
    refine outcome_mapM ?_
    rw [List.forall₂_map_right_iff, List.forall₂_same]
    exact htest
  show ((Call.matcher arg >>= fun test => rows.mapM test >>= fun verdicts =>
    pure (Json.array ((positions verdicts).map .ofNat))) >>= fun v => pure (Datum.value v)
      : Run Datum).outcome context state = _
  rw [hmatcher, pure_bind, outcome_bind, outcome_bind, hverdicts]
  rfl

theorem outcome_anyPasses {test : Json → Run Bool}
    (h : ∀ row ∈ rows, (test row).outcome context state = (.ok (p row), state)) :
    (anyPasses test rows).outcome context state = (.ok (rows.any p), state) := by
  induction rows with
  | nil => rfl
  | cons row rest ih =>
    rw [anyPasses, outcome_bind, h row List.mem_cons_self]
    dsimp only
    cases hp : p row with
    | true => simp [hp]
    | false => simp [hp, ih fun row hrow => h row (List.mem_cons_of_mem _ hrow)]

theorem outcome_contains (h : Judges arg p rows context state) :
    (dispatch ⟨.contains, [first, arg], []⟩ (.value (.array rows))).outcome context state =
      (.ok (.value (.bool (rows.any p))), state) := by
  obtain ⟨test, hmatcher, htest⟩ := h.matcher
  have hall : (allContained rows [arg]).outcome context state = (.ok (rows.any p), state) := by
    rw [allContained, hmatcher, pure_bind, outcome_bind, outcome_anyPasses htest]
    cases rows.any p <;> rfl
  show ((allContained rows [arg] >>= fun found => pure (Json.bool found)) >>= fun v =>
    pure (Datum.value v) : Run Datum).outcome context state = _
  rw [outcome_bind, outcome_bind, hall]
  rfl

end Judges

end Call

/-! ### Operations -/

/-- An operation that asks a function about the rows of an array. -/
inductive PredicateOperation where
  | count | filter | offsetsOf | contains

namespace PredicateOperation
open Run
variable {arg first : Argument} {p : Json → Bool} {rows : List Json} {context : Context}
  {state : State}

def op : PredicateOperation → Operation
  | count => .count
  | filter => .filter
  | offsetsOf => .offsetsOf
  | contains => .contains

/-- What the operation makes of the verdicts on the rows. -/
def result (p : Json → Bool) (rows : List Json) : PredicateOperation → Json
  | count => .ofNat (rows.filter p).length
  | filter => .array (rows.filter p)
  | offsetsOf => .array ((Call.positions (rows.map p)).map .ofNat)
  | contains => .bool (rows.any p)

/-- The term of the operation with a function on what another term means. -/
def term (operation : PredicateOperation) (source function : Json) : Json :=
  methodTerm operation.op source [function] none

theorem outcome_dispatch (operation : PredicateOperation)
    (h : Call.Judges arg p rows context state) :
    (Call.dispatch ⟨operation.op, [first, arg], []⟩ (.value (.array rows))).outcome context state =
      (.ok (.value (operation.result p rows)), state) := by
  cases operation with
  | count => exact h.outcome_count
  | filter => exact h.outcome_filter
  | offsetsOf => exact h.outcome_offsetsOf
  | contains => exact h.outcome_contains

end PredicateOperation

/-! ### Queries -/

namespace Query
open Evaluation
variable {settings : Settings} {source function : Json} {f : Function} {rows : List Json}
  {context : Run.Context} {state after : Run.State}

/-- What a call of the function gives for the row is true. -/
def passes (settings : Settings) (function : Json) (context : Run.Context) (state : Run.State)
    (row : Json) : Bool :=
  (run ⟨callTerm function (datumTerm row), settings⟩ context state).1.toOption.any Json.truthy

/-- A function that the store decides gives the same verdicts wherever it is called. -/
theorem judges_function (hfunction : build ⟨function, settings⟩ = .ok (.func f))
    (havoid : Avoids Operation.undecided function)
    (hrows : ∀ row ∈ rows, ∃ verdict last,
      run ⟨callTerm function (datumTerm row), settings⟩ context state = (.ok verdict, last)) :
    Call.Judges ((Handle.func f).argument Function.invoke) (passes settings function context state)
      rows context state := by
  refine ⟨f.invoke, rfl, fun row hrow => ?_⟩
  obtain ⟨verdict, last, hrun⟩ := hrows row hrow
  have hpasses : verdict.truthy = passes settings function context state row := by
    rw [passes, hrun]
    rfl
  have hvalue : build ⟨datumTerm row, settings⟩ = .ok (.datum row) :=
    evaluate_datumTerm row Scope.root
  have hcall : (f.invoke [row]).outcome context state = (.ok verdict, last) := by
    rw [← hrun, run_eq, whole_call hvalue hfunction]
  have hallowed : (Policy.avoiding Operation.undecided).Allows (.func f) :=
    (Policy.avoiding_admits rfl settings).build_means havoid hfunction
  have hdecided : (Run.decided state.store).Runs (f.invoke [row]) :=
    (Policy.decided_sound state.store).apply _ f hallowed trivial [row]
  exact ⟨verdict, (Run.decided_outcome hdecided hcall).2 context state.drawn, hpasses⟩

/-- The operations that take a predicate can be put on any term that comes to an array. -/
theorem Yields.predicate (operation : PredicateOperation) {p : Json → Bool}
    (hsource : Yields settings source context state (.ok (.array rows)) after)
    (hfunction : build ⟨function, settings⟩ = .ok (.func f))
    (hjudges : Call.Judges ((Handle.func f).argument Function.invoke) p rows context after) :
    Yields settings (operation.term source function) context state
      (.ok (operation.result p rows)) after := by
  refine hsource.call ?_ ?_ (.inr rfl) (evaluateAll_singleton hfunction)
    (List.forall_mem_singleton.mpr nofun) ?_ fun first => ?_
  · cases operation <;> rfl
  · cases operation <;> rfl
  · intro value hvalue
    cases hvalue
    exact Bool.and_false _
  · exact operation.outcome_dispatch hjudges

/-- Counted without a predicate, an array has its length. -/
theorem Yields.count_array
    (hsource : Yields settings source context state (.ok (.array rows)) after) :
    Yields settings (methodTerm .count source [] none) context state (.ok (.ofNat rows.length))
      after := by
  have hcount : Yields settings (methodTerm .count source ([].map datumTerm) none) context state
      (.ok (.array rows) >>= fun _ : Json => .ok (.ofNat rows.length)) after := by
    refine hsource.method rfl rfl (.inr rfl) (fun value hvalue => ?_) fun first value hvalue => ?_
    · cases hvalue
      exact Bool.and_false _
    · cases hvalue
      rfl
  exact hcount

/-- The operations that take a predicate agree about an array and a function that writes nothing,
asks for neither the time nor random numbers and succeeds on every row. `NTH` reads a position as
a binary64 number, which is exact for the positions up to `2 ^ 53`. -/
theorem run_predicates
    (hsource : Yields settings source context state (.ok (.array rows)) after)
    (hfunction : build ⟨function, settings⟩ = .ok (.func f))
    (havoid : Avoids Operation.undecided function)
    (hrows : ∀ row ∈ rows, ∃ verdict last,
      run ⟨callTerm function (datumTerm row), settings⟩ context after = (.ok verdict, last)) :
    let runs (term : Json) := run ⟨term, settings⟩ context state
    let on (operation : PredicateOperation) := operation.term source function
    let kept := rows.filter (passes settings function context after)
    ∃ places : List Nat,
      runs (on .filter) = (.ok (.array kept), after) ∧
      runs (on .offsetsOf) = (.ok (.array (places.map .ofNat)), after) ∧
      places.length = kept.length ∧
      runs (on .count) = (.ok (.ofNat kept.length), after) ∧
      runs (methodTerm .count (on .filter) [] none) = (.ok (.ofNat kept.length), after) ∧
      List.Forall₂ (fun i row => i ≤ 2 ^ 53 →
        runs (IndexedOperation.nth.term source (.ofNat i)) = (.ok row, after)) places kept ∧
      runs (on .contains) = (.ok (.bool !kept.isEmpty), after) := by
  intro runs on kept
  have hjudges := judges_function hfunction havoid hrows
  have hyields (operation : PredicateOperation) :
      Yields settings (on operation) context state
        (.ok (operation.result (passes settings function context after) rows)) after :=
    hsource.predicate operation hfunction hjudges
  have hplaces := Call.forall₂_positions (passes settings function context after) rows
  refine ⟨_, (hyields .filter).run_eq, (hyields .offsetsOf).run_eq, hplaces.length_eq,
    (hyields .count).run_eq, ?_, hplaces.imp fun i row hrow hsmall => ?_, ?_⟩
  · have hcount := (hyields .filter).count_array
    exact hcount.run_eq
  · have hlt : i < rows.length := (List.getElem?_eq_some_iff.mp hrow).1
    have hread : Position.Readable i rows.length := .inl hsmall
    have hitem : ((Json.ofNat i).asInteger >>= Json.itemAt rows) = .ok row := by
      have hindex : Position.index i rows.length = some i :=
        Position.index_eq_some_iff.mpr ⟨hlt, by simp [Position.resolve]⟩
      exact (Json.asInteger_bind_itemAt hread).trans (Json.itemAt_eq_ok_iff.mpr ⟨i, hindex, hrow⟩)
    show run ⟨IndexedOperation.nth.term source (.ofNat i), settings⟩ context state = _
    rw [hsource.run_at .nth]
    exact congrArg (·, after) hitem
  · have hany : rows.any (passes settings function context after) = !kept.isEmpty := by
      rw [Bool.eq_iff_iff]
      simp [kept]
    rw [← hany]
    exact (hyields .contains).run_eq

/-- The function gives its argument, so the items that are neither null nor false pass. -/
theorem run_predicates_identity :
    let source := datumTerm (.array [.null, .ofNat 7, .bool false, .ofNat 8])
    let function := functionTerm (.ofNat 1) (.array (Handle.node .var [.ofNat 1]))
    let context : Run.Context := ⟨⟨0, 0, 0⟩, fun _ => 0⟩
    let state : Run.State := ⟨.empty, 0⟩
    let runs (term : Json) := run ⟨term, {}⟩ context state
    let on (operation : PredicateOperation) := operation.term source function
    runs (on .filter) = (.ok (.array [.ofNat 7, .ofNat 8]), state) ∧
      runs (on .count) = (.ok (.ofNat 2), state) ∧
      runs (methodTerm .count (on .filter) [] none) = (.ok (.ofNat 2), state) ∧
      runs (on .contains) = (.ok (.bool true), state) ∧
      runs (on .offsetsOf) = (.ok (.array [.ofNat 1, .ofNat 3]), state) ∧
      runs (IndexedOperation.nth.term source (.ofNat 1)) = (.ok (.ofNat 7), state) ∧
      runs (IndexedOperation.nth.term source (.ofNat 3)) = (.ok (.ofNat 8), state) := by
  intro source function context state runs on
  let rows : List Json := [.null, .ofNat 7, .bool false, .ofNat 8]
  have hsource : Yields {} source context state (.ok (.array rows)) state :=
    Yields.datum {} (.array rows) context state
  have havoid : Avoids Operation.undecided function :=
    .of_lacks (fun _ => Operation.code_of_undecided) _ (by decide +kernel)
  have hresults : ∀ row ∈ rows,
      (run ⟨callTerm function (datumTerm row), {}⟩ context state).1 = .ok row := by decide +kernel
  have hrows : ∀ row ∈ rows, ∃ verdict last,
      run ⟨callTerm function (datumTerm row), {}⟩ context state = (.ok verdict, last) := by
    intro row hrow
    generalize hrun : run ⟨callTerm function (datumTerm row), {}⟩ context state = ended
    have hresult := hresults row hrow
    rw [hrun] at hresult
    exact ⟨row, ended.2, Prod.ext hresult rfl⟩
  have hkept : rows.filter (passes {} function context state) = [.ofNat 7, .ofNat 8] := by
    decide +kernel
  obtain ⟨f, hfunction⟩ : ∃ f, build ⟨function, {}⟩ = .ok (.func f) :=
    exists_function (by decide +kernel)
  obtain ⟨places, hfilter, hoffsets, -, hcount, hcounted, hnth, hcontains⟩ :=
    run_predicates hsource hfunction havoid hrows
  rw [hkept] at hfilter hcount hcounted hnth hcontains
  have hplaces : places = [1, 3] := by
    have hfound : runs (on .offsetsOf) = (.ok (.array ([1, 3].map .ofNat)), state) := by
      decide +kernel
    have hsame : places.map Json.ofNat = [1, 3].map Json.ofNat := by
      simpa using hoffsets.symm.trans hfound
    exact List.map_injective_iff.mpr (fun _ _ => Json.ofNat_inj.mp) hsame
  subst hplaces
  rw [List.forall₂_cons, List.forall₂_cons] at hnth
  obtain ⟨hfirst, hsecond, -⟩ := hnth
  exact ⟨hfilter, hcount, hcounted, hcontains, hoffsets, hfirst (by decide), hsecond (by decide)⟩

end Query

end DocQuery
