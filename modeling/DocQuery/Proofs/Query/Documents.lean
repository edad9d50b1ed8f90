import DocQuery.Proofs.Query.Receivers
import DocQuery.Proofs.Value.Coverage

/-! Queries on documents.

An operation on documents takes what its receiver comes to as a value, wherever it comes from: a
table, a selection of its rows or a value that was made (`Query.run_documents`). So stages can be
put one on another, and what they do is what they do to values. A query that keeps the rows with
some fields and plucks these does not fail on the rows that it keeps (`Query.run_withFields`). -/
namespace DocQuery

/-! ### Calls -/

/-- The operations on the fields of documents. -/
def Operation.isOnDocuments : Operation → Bool
  | .pluck | .without | .merge | .hasFields | .withFields => true
  | _ => false

namespace Call
open Run
variable {call : Call}

theorem perform_of_isOnDocuments (h : call.op.isOnDocuments = true) :
    call.perform = call.method := by
  obtain ⟨op, args, options⟩ := call
  cases op <;> try cases h
  all_goals rfl

theorem dispatch_of_isOnDocuments (h : call.op.isOnDocuments = true) (receiver : Datum) :
    call.dispatch receiver = do return .value (← call.compute (← receiver.materialize)) := by
  obtain ⟨op, args, options⟩ := call
  cases op <;> try cases h
  all_goals rfl

/-- What an operation on documents gives is what it makes of the value of its receiver. -/
theorem outcome_perform (hop : call.op.isOnDocuments = true) {first : Argument}
    {rest : List Argument} (hargs : call.args = first :: rest) {context : Context}
    {state after : State} {value : Json}
    (hfirst : first.value.outcome context state = (.ok value, after))
    (hvalue : value.isGrouped = false) :
    (call.perform >>= Datum.materialize).outcome context state =
      (call.compute value).outcome context after := by
  obtain ⟨receiver, between, hrun, hreceiver⟩ := outcome_bind_eq_ok hfirst
  have harg : call.arg 0 = pure first := by
    unfold Call.arg
    rw [hargs]
    rfl
  have hdispatch : (call.dispatch receiver >>= Datum.materialize).outcome context between =
      (call.compute value).outcome context after := by
    rw [dispatch_of_isOnDocuments hop, bind_assoc, outcome_bind, hreceiver]
    show ((call.compute value >>= fun v => pure (Datum.value v)) >>= Datum.materialize).outcome
      context after = _
    rw [bind_assoc]
    exact congrArg (fun x => outcome x context after) (bind_pure (call.compute value))
  rw [perform_of_isOnDocuments hop]
  unfold method
  rw [harg, pure_bind, bind_assoc, outcome_bind, hrun]
  cases receiver with
  | value found =>
    cases hreceiver
    simp only [hvalue, Bool.and_false, Bool.false_eq_true, if_false]
    exact hdispatch
  | _ => exact hdispatch

end Call

namespace Query
open Evaluation

/-- A term that is no list to be spliced in, and what running it comes to. -/
structure Source (settings : Settings) (term : Json) (context : Run.Context)
    (state : Run.State) (value : Json) (after : Run.State) : Prop where
  single : ∃ handle, DocQuery.build settings term = .ok handle ∧
    (handle.argument Function.invoke).head ≠ some .args
  runs : run ⟨term, settings⟩ context state = (.ok value, after)

variable {settings : Settings} {op : Operation} {source value : Json} {context : Run.Context}
  {state after : Run.State}

theorem Source.datum (settings : Settings) (value : Json) (context : Run.Context)
    (state : Run.State) : Source settings (datumTerm value) context state value state where
  single := ⟨_, evaluate_datumTerm value Scope.root, nofun⟩
  runs := by
    rw [run_of_build (evaluate_datumTerm value Scope.root)]
    rfl

/-- The term of an operation on the documents of a source, with data as its other arguments. -/
def documentsTerm (op : Operation) (source : Json) (data : List Json) : Json :=
  nodeTerm op (source :: data.map datumTerm) none

/-- A source stays where it is: the operation is called on it. -/
theorem build_documentsTerm (hop : op.isOnDocuments = true) (data : List Json) {handle : Handle}
    (hsource : DocQuery.build settings source = .ok handle) :
    DocQuery.build settings (documentsTerm op source data) =
      .ok (.call op (handle :: data.map .datum) []) := by
  have hmethod : op.isMethod = true := by cases op <;> first | rfl | cases hop
  have hcount : op.descriptor.accepts ((data.map datumTerm).length + 1) = true := by
    rw [List.length_map]
    cases op <;> first | exact rfl | cases hop
  exact build_method hmethod hcount (.inr rfl) hsource (evaluateAll_data data Scope.root)

/-- An operation on the documents of a source is computed on the value of the source. -/
theorem run_documents (op : Operation) (hop : op.isOnDocuments = true) (data : List Json)
    (hsource : Source settings source context state value after)
    (hvalue : value.isGrouped = false) :
    ∃ first : Argument, run ⟨documentsTerm op source data, settings⟩ context state =
      (Call.compute ⟨op, first :: data.map .ofValue, []⟩ value).outcome context after := by
  obtain ⟨handle, hbuild, hhead⟩ := hsource.single
  let first := handle.argument Function.invoke
  have hfirst : first.value.outcome context state = (.ok value, after) := by
    have hruns := hsource.runs
    rwa [run_of_build hbuild, Handle.run_eq_invoke] at hruns
  have harguments : Handle.arguments Function.invoke (handle :: data.map .datum) =
      first :: data.map .ofValue := by
    rw [Handle.arguments_eq_map, List.map_cons, List.map_map]
    rfl
  have hplain : ∀ arg ∈ first :: data.map Argument.ofValue, arg.head ≠ some .args :=
    List.forall_mem_cons.mpr ⟨hhead, List.forall_mem_map.mpr fun _ _ => nofun⟩
  refine ⟨first, ?_⟩
  rw [run_of_build (build_documentsTerm hop data hbuild), Handle.run_eq_invoke]
  show (Call.run ⟨op, Handle.arguments Function.invoke (handle :: data.map .datum), []⟩ >>=
    Datum.materialize).outcome context state = _
  rw [harguments, Call.run_eq_perform hplain]
  exact Call.outcome_perform hop rfl hfirst hvalue

/-- Operations on documents can be put one on another. -/
theorem Source.documents (hop : op.isOnDocuments = true) {data : List Json}
    (hsource : Source settings source context state value after) {result : Json}
    {last : Run.State}
    (hrun : run ⟨documentsTerm op source data, settings⟩ context state = (.ok result, last)) :
    Source settings (documentsTerm op source data) context state result last where
  single := by
    obtain ⟨handle, hbuild, -⟩ := hsource.single
    refine ⟨_, build_documentsTerm hop data hbuild, fun hargs => ?_⟩
    cases hargs
    cases hop
  runs := hrun

end Query

/-! ### Rows with some fields -/

namespace Call
open Run
variable {first : Argument}

theorem values_ofValue (data : List Json) : values (data.map .ofValue) = pure data := by
  unfold values
  induction data with
  | nil => rfl
  | cons value rest ih =>
    rw [List.map_cons, List.mapM_cons, ih]
    rfl

/-- Rows are plucked one after another. -/
theorem outcome_withFields {selectors rows kept : List Json}
    (h : List.Forall₂ (fun row picked => row.pluck selectors = .ok picked)
      (rows.filter (·.hasFields selectors)) kept) (context : Context) (state : State) :
    (Call.compute ⟨.withFields, first :: selectors.map .ofValue, []⟩ (.array rows)).outcome
      context state = (.ok (.array kept), state) := by
  show (values (selectors.map .ofValue) >>= fun selectors => _ : Run Json).outcome context state = _
  rw [values_ofValue, pure_bind]
  show ((rows.filter (·.hasFields selectors)).mapM (fun row => liftM (row.pluck selectors)) >>=
    fun kept => pure (Json.array kept) : Run Json).outcome context state = _
  rw [outcome_bind, outcome_mapM (h.imp fun row picked hpick => by rw [outcome_lift, hpick])]
  rfl

theorem compute_hasFields (selectors rows : List Json) :
    Call.compute ⟨.hasFields, first :: selectors.map .ofValue, []⟩ (.array rows) =
      pure (.array (rows.filter (·.hasFields selectors))) := by
  show (values (selectors.map .ofValue) >>= fun selectors => _) = _
  rw [values_ofValue, pure_bind]

end Call

/-- The rows of a source that have some fields are all plucked without failing. What is left has
the fields in every row or in none: it depends on the selectors alone, which may overwrite what
they have picked. -/
theorem Query.run_withFields {settings : Settings} {source : Json} {rows : List Json}
    {context : Run.Context} {state after : Run.State}
    (hsource : Source settings source context state (.array rows) after) (selectors : List Json) :
    let covered := Json.coversAll (.array selectors) selectors
    let keptTerm := documentsTerm .withFields source selectors
    ∃ kept, List.Forall₂
        (fun row picked => row.pluck selectors = .ok picked ∧ picked.hasFields selectors = covered)
        (rows.filter (·.hasFields selectors)) kept ∧
      run ⟨keptTerm, settings⟩ context state = (.ok (.array kept), after) ∧
      run ⟨documentsTerm .hasFields keptTerm selectors, settings⟩ context state =
        (.ok (.array (if covered then kept else [])), after) := by
  intro covered keptTerm
  obtain ⟨kept, hkept⟩ : ∃ kept, List.Forall₂
      (fun (row picked : Json) =>
        row.pluck selectors = .ok picked ∧ picked.hasFields selectors = covered)
      (rows.filter (·.hasFields selectors)) kept :=
    exists_forall₂ fun row hrow => Json.hasFields_of_pluck (List.mem_filter.mp hrow).2
  have hrun : run ⟨keptTerm, settings⟩ context state = (.ok (.array kept), after) := by
    obtain ⟨first, hrun⟩ := run_documents .withFields rfl selectors hsource rfl
    rw [hrun]
    exact Call.outcome_withFields (hkept.imp fun _ _ h => h.1) context after
  obtain ⟨first, hagain⟩ := run_documents .hasFields rfl selectors (hsource.documents rfl hrun) rfl
  refine ⟨kept, hkept, hrun, ?_⟩
  have hfilter : kept.filter (·.hasFields selectors) = if covered then kept else [] := by
    have hall : ∀ picked ∈ kept, picked.hasFields selectors = covered := by
      intro picked hpicked
      obtain ⟨_, -, -, hhas⟩ := exists_of_forall₂ (List.Forall₂.flip hkept) hpicked
      exact hhas
    rw [List.filter_congr hall]
    cases covered <;> simp
  rw [hagain, Call.compute_hasFields, hfilter]
  rfl

/-- Of three rows one is kept. The selectors overlap, and the last one covers the first. -/
theorem Query.run_withFields_overlapping :
    let row (fields : Fields Json) : Json := .object [("a", .object fields), ("d", .null)]
    let rows := [row [("b", .ofNat 1)], row [("b", .ofNat 1), ("c", .ofNat 2)], .null]
    let selectors := [Json.object [("a", .string "c")],
      .object [("a", .array [.string "b", .string "c"])]]
    let keptTerm := documentsTerm .withFields (datumTerm (.array rows)) selectors
    let kept := Json.object [("a", .object [("b", .ofNat 1), ("c", .ofNat 2)])]
    let context : Run.Context := ⟨⟨0, 0, 0⟩, fun _ => 0⟩
    let state : Run.State := ⟨.empty, 0⟩
    run ⟨keptTerm, {}⟩ context state = (.ok (.array [kept]), state) ∧
      run ⟨documentsTerm .hasFields keptTerm selectors, {}⟩ context state =
        (.ok (.array [kept]), state) := by
  intro row rows selectors keptTerm kept context state
  obtain ⟨plucked, hplucked, hrun, hagain⟩ :=
    Query.run_withFields (Source.datum {} (.array rows) context state) selectors
  have hrows : rows.filter (·.hasFields selectors) =
      [row [("b", .ofNat 1), ("c", .ofNat 2)]] := by decide +kernel
  have hcovered : Json.coversAll (.array selectors) selectors = true := by decide +kernel
  rw [hrows] at hplucked
  obtain ⟨picked, _, ⟨hpick, -⟩, hnil, rfl⟩ := List.forall₂_cons_left_iff.mp hplucked
  cases hnil
  obtain rfl : kept = picked := Except.ok.inj (Eq.trans (by decide +kernel) hpick)
  rw [hcovered] at hagain
  exact ⟨hrun, hagain⟩

end DocQuery
