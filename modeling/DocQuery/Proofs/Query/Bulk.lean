import DocQuery.Proofs.Query.Beta
import DocQuery.Proofs.Write.Untouched
import DocQuery.Proofs.Write.OneByOne

/-! Bulk writes as terms.

A term that writes a table, and the terms that write what is found under each of its keys,
differ in the receiver alone. If the one is built, so are the others, to handles that differ
in the receiver alone. What the handles come to when they are run is known, and gives
the equation between the queries. -/
namespace DocQuery

/-- The operation that a term names. -/
def Json.operation? : Json → Option Operation
  | .array items => items.head?.bind Operation.ofHead?
  | _ => none

theorem head?_node (op : Operation) (args : List Json) :
    (Handle.node op args).head?.bind Operation.ofHead? = some op := by
  unfold Handle.node
  rw [List.head?_cons, Option.bind_some, Query.ofHead?_code]

/-! ### Terms of methods -/

/-- The term of an operation on a receiver, with more arguments and perhaps options. -/
def methodTerm (op : Operation) (receiver : Json) (rest : List Json)
    (options? : Option (Fields Json)) : Json :=
  .array (.ofNat op.code :: .array (receiver :: rest) :: (options?.map Json.object).toList)

/-- The term of a value that stands for itself. -/
def datumTerm (value : Json) : Json := .array (Handle.node .datum [value])

/-- The term that looks up a key in what another term means. -/
def lookupTerm (source key : Json) : Json := methodTerm .get source [datumTerm key] none

section Evaluation
open Evaluation
variable {settings : Settings} {op : Operation} {receiver : Json} {rest : List Json}
  {options? : Option (Fields Json)}

theorem ofItems_method {head : Json} (hhead : Operation.ofHead? head = some op)
    (hkeeps : op.keepsPayload = false) (terms : List Json) (options? : Option (Fields Json)) :
    Operator.ofItems (head :: .array terms :: (options?.map Json.object).toList) =
      .ok ⟨op, .list terms, options?⟩ := by
  have hpayload : Payload.ofElement op (some (.array terms)) = .list terms := by
    simp [Payload.ofElement, hkeeps]
  rw [← hpayload]
  unfold Operator.ofItems
  dsimp only
  rw [hhead]
  cases options? <;> rfl

theorem evaluateAll_cons (first : Meaning) (more : List Meaning) (scope : Scope) :
    evaluateAll (first :: more) scope = do
      let handle ← first scope
      let handles ← evaluateAll more scope
      return handle :: handles := by
  unfold evaluateAll
  rw [List.mapM_cons]

/-- A method with options is evaluated from the receiver on. -/
theorem evaluate_methodTerm (hrule : op.consumption = .keyed) (scope : Scope) :
    evaluate settings (methodTerm op receiver rest options?) scope = do
      Operator.permitted ⟨op, .list (receiver :: rest), options?⟩
      let first ← evaluate settings receiver scope
      let more ← evaluateAll (rest.map (evaluate settings)) scope
      return .call op (first :: more) (options?.getD []) := by
  have hkeeps : op.keepsPayload = false := by
    refine keepsPayload_eq_false ?_ ?_ <;> rintro rfl <;> cases hrule
  unfold methodTerm
  rw [evaluate_of_ofItems (ofItems_method (Query.ofHead?_code op) hkeeps _ _)]
  refine congrArg (_ >>= ·) (funext fun _ => ?_)
  simp only [consume, hrule]
  unfold method
  show (evaluateAll (evaluate settings receiver :: rest.map (evaluate settings)) scope >>= _) = _
  rw [evaluateAll_cons, bind_assoc]
  refine congrArg (_ >>= ·) (funext fun first => ?_)
  rw [bind_assoc]
  exact congrArg (_ >>= ·) (funext fun more => rfl)

theorem evaluate_datumTerm (value : Json) (scope : Scope) :
    evaluate settings (datumTerm value) scope = .ok (.datum value) :=
  Query.evaluate_node rfl rfl scope

theorem evaluate_lookupTerm (source key : Json) (scope : Scope) :
    evaluate settings (lookupTerm source key) scope = do
      let first ← evaluate settings source scope
      return .call .get [first, .datum key] [] := by
  unfold lookupTerm methodTerm
  rw [evaluate_of_ofItems (ofItems_method (Query.ofHead?_code .get) rfl _ _)]
  show (evaluateAll [evaluate settings source, evaluate settings (datumTerm key)] scope >>= _) = _
  rw [evaluateAll_cons, evaluateAll_cons, evaluate_datumTerm, bind_assoc]
  rfl

section Calls
variable {operator : Operator} {arguments : List Meaning} {fields : List (String × Meaning)}
  {scope : Scope} {made : Operation} {args : List Handle} {options : Fields Json}

theorem method_call {given : Fields Json}
    (h : method op arguments given scope = .ok (.call made args options)) : made = op := by
  obtain ⟨handles, -, h⟩ := bind_eq_ok h
  split at h
  · cases h
  · cases h
    rfl

/-- Of the operations with a rule of their own, only three make calls. -/
theorem special_call
    (h : special settings operator arguments fields scope = .ok (.call made args options)) :
    made = operator.operation := by
  unfold special at h
  split at h
  · cases h
  · unfold madeArray at h
    split at h
    · cases h
    · obtain ⟨handles, -, h⟩ := bind_eq_ok h
      cases h
    · cases h
  · obtain ⟨handles, -, h⟩ := bind_eq_ok h
    cases h
  · obtain ⟨id, -, h⟩ := bind_eq_ok h
    obtain ⟨value, -, h⟩ := bind_eq_ok h
    cases h
  · obtain ⟨value, -, h⟩ := bind_eq_ok h
    cases h
  · unfold function at h
    split at h
    · obtain ⟨ids, -, h⟩ := bind_eq_ok h
      obtain ⟨-, -, h⟩ := bind_eq_ok h
      cases h
    · cases h
  · next hfuncall =>
    obtain ⟨handles, -, h⟩ := bind_eq_ok h
    cases h
    exact hfuncall.symm
  · next hdb =>
    unfold database at h
    split at h
    · cases h
      exact hdb.symm
    · obtain ⟨handles, -, h⟩ := bind_eq_ok h
      cases h
      exact hdb.symm
  · next htable =>
    unfold table at h
    split at h
    · obtain ⟨name, -, h⟩ := bind_eq_ok h
      cases h
      exact htable.symm
    · obtain ⟨db, -, h⟩ := bind_eq_ok h
      obtain ⟨name, -, h⟩ := bind_eq_ok h
      cases h
      exact htable.symm
    · cases h
  · cases h

/-- A node is evaluated to a call of its own operation, if to a call at all. -/
theorem consume_call
    (h : consume settings operator arguments fields scope = .ok (.call made args options)) :
    made = operator.operation := by
  unfold consume at h
  split at h
  · cases h
    rfl
  · obtain ⟨handles, -, h⟩ := bind_eq_ok h
    cases h
    rfl
  · exact method_call h
  · exact method_call h
  · exact method_call h
  · exact special_call h
  · cases h

end Calls

/-- An argument shows the operation that its term names. -/
theorem operation?_of_head {term : Json} {scope : Scope} {handle : Handle}
    (h : evaluate settings term scope = .ok handle) {call : Function → List Json → Run Json}
    {op : Operation} (hhead : (handle.argument call).head = some op) :
    term.operation? = some op := by
  cases handle with
  | call made args options =>
    cases hhead
    by_cases hitems : ∀ items, term ≠ .array items
    · rw [evaluate_literal hitems] at h
      cases h
    · obtain ⟨items, rfl⟩ : ∃ items, term = .array items := by simpa using hitems
      rw [evaluate_array, assemble_eq] at h
      obtain ⟨operator, hoperator, h⟩ := bind_eq_ok h
      obtain ⟨-, -, h⟩ := bind_eq_ok h
      rw [consume_call h]
      exact (ofItems_eq_ok hoperator).1
  | _ => cases hhead

end Evaluation

/-! ### Changes that are written as terms -/

/-- A term that comes to the same whatever the state, and is no list to be spliced in. -/
def Json.Steady (term : Json) : Prop :=
  Avoids Operation.unsteady term ∧ term.operation? ≠ some .args

theorem Operation.code_of_unsteady {op : Operation} (h : op.unsteady = true) :
    op.code ∈ [15, 81, 103, 151, 169] := by
  cases op <;> first | decide | cases h

/-- A function is steady if its body is. -/
theorem Json.Steady.function {params body : Json} (hparams : Avoids Operation.unsteady params)
    (hbody : Avoids Operation.unsteady body) :
    (Json.array (Handle.node .func [params, body])).Steady := by
  have hhead := head?_node .func [params, body]
  have hbelow : subterms (Handle.node .func [params, body]) = [params, body] := by
    unfold subterms
    rw [hhead]
    rfl
  refine ⟨.node (fun op hop => ?_) (fun term hterm => ?_), fun hop => ?_⟩
  · rw [← Option.some.inj (hhead.symm.trans hop)]
    rfl
  · rw [hbelow] at hterm
    exact List.forall_mem_cons.mpr ⟨hparams, List.forall_mem_singleton.mpr hbody⟩ term hterm
  · cases hhead.symm.trans hop

section Changes
variable {settings : Settings} {rest : List Json} {scope : Scope} {more : List Handle}

theorem allowsAll_of_steady (hrest : ∀ term ∈ rest, term.Steady)
    (h : Evaluation.evaluateAll (rest.map (evaluate settings)) scope = .ok more) :
    (Policy.avoiding Operation.unsteady).AllowsAll more := by
  refine Policy.evaluateAll_allows (fun meaning hmeaning => ?_) (fun _ _ _ _ => trivial) h
  obtain ⟨term, hterm, rfl⟩ := List.mem_map.mp hmeaning
  exact (Policy.avoiding_admits rfl settings).means term (hrest term hterm).1

theorem heads_of_steady (hrest : ∀ term ∈ rest, term.Steady)
    (h : Evaluation.evaluateAll (rest.map (evaluate settings)) scope = .ok more) :
    ∀ arg ∈ Handle.changes more, arg.head ≠ some .args := by
  intro arg harg hhead
  rw [Handle.changes, Handle.arguments_eq_map] at harg
  obtain ⟨handle, hhandle, rfl⟩ := List.mem_map.mp harg
  obtain ⟨meaning, hmeaning, he⟩ := mem_of_mapM h hhandle
  obtain ⟨term, hterm, rfl⟩ := List.mem_map.mp hmeaning
  exact (hrest term hterm).2 (operation?_of_head he hhead)

end Changes

/-! ### Queries -/

namespace Query
variable {settings : Settings} {op : Operation} {source : Json} {rest : List Json}
  {options? : Option (Fields Json)} {name : TableName} {sourceOptions : Fields Json}

/-- The write of what is found under a key is built as the write of the table is. -/
theorem build_lookup (hop : op.consumption = .keyed)
    (hsource : DocQuery.build settings source = .ok (Handle.ofTable name sourceOptions))
    {handle : Handle}
    (h : DocQuery.build settings (methodTerm op source rest options?) = .ok handle) :
    ∃ more, Evaluation.evaluateAll (rest.map (evaluate settings)) Scope.root = .ok more ∧
      handle = .call op (Handle.ofTable name sourceOptions :: more) (options?.getD []) ∧
      ∀ key, DocQuery.build settings (methodTerm op (lookupTerm source key) rest options?) =
        .ok (.call op (Handle.lookup name sourceOptions key :: more) (options?.getD [])) := by
  unfold DocQuery.build at h hsource ⊢
  rw [evaluate_methodTerm hop] at h
  obtain ⟨u, hpermitted, h⟩ := bind_eq_ok h
  obtain ⟨first, hfirst, h⟩ := bind_eq_ok h
  obtain ⟨more, hmore, h⟩ := bind_eq_ok h
  cases hsource.symm.trans hfirst
  cases h
  refine ⟨more, hmore, rfl, fun key => ?_⟩
  have hcount : (Payload.list (lookupTerm source key :: rest)).count =
      (Operator.mk op (.list (source :: rest)) options?).payload.count := rfl
  have hsame := (permitted_payload hcount).trans hpermitted
  rw [evaluate_methodTerm hop, hsame, evaluate_lookupTerm, hsource, hmore]
  rfl

/-- A table that names no database is in that of the settings. -/
theorem build_table (settings : Settings) (table : String) :
    DocQuery.build settings (.array (Handle.node .table [.string table])) =
      .ok (Handle.ofTable ⟨settings.database, table⟩ []) := by
  have hliteral : ∀ items, Json.string table ≠ .array items := nofun
  have hname : evaluate settings (.string table) Scope.root = .ok (.datum (.string table)) :=
    evaluate_literal hliteral Scope.root
  unfold DocQuery.build
  rw [evaluate_node rfl rfl, List.map_singleton]
  unfold Evaluation.special Evaluation.table
  dsimp only
  rw [hname]
  rfl

/-- If the write of a table succeeds, so does the same write of what is found under the key
of each document, one after another in the order of the table. All tables are the same in the
end, and the results of the single writes add up to the result of the whole one, log
included. The changes have to come to the same whatever the state, as literals do, and
functions that name no table and ask for neither the time nor random numbers. -/
theorem run_bulk_eq_lookups (hop : Call.writesRows op = true)
    (hsource : DocQuery.build settings source = .ok (Handle.ofTable name sourceOptions))
    (hrest : ∀ term ∈ rest, term.Steady) {context : Run.Context} {state after : Run.State}
    {table : Table} (htable : state.store.table? name = some table) (hkeyed : table.Keyed)
    {result : Json}
    (hbulk : run ⟨methodTerm op source rest options?, settings⟩ context state =
      (.ok result, after)) (contexts : Json → Run.Context) :
    let logged := Call.logs (options?.getD [])
    let single (document : Json) : Query :=
      ⟨methodTerm op (lookupTerm source (table.keyOf document)) rest options?, settings⟩
    let singles := table.documents.map fun document => (single document, contexts document)
    ∃ (results : List Json) (last : Run.State) (total : Summary),
      runAll singles state = (results.map .ok, last) ∧
      (∀ other, last.store.table? other = after.store.table? other) ∧
      Call.addSummaries (.start logged) results = .ok total ∧
      (results ≠ [] → Call.addSummaries {} results = .ok total) ∧ result = total.toJson := by
  intro logged single singles
  have hrule : op.consumption = .keyed :=
    Operation.consumption_of_writes (by rw [Operation.writes, hop, Bool.or_true])
  obtain ⟨handle, hbuild⟩ := build_of_run_ok hbulk
  obtain ⟨more, hmore, rfl, hsingle⟩ := build_lookup hrule hsource hbuild
  have hheads := heads_of_steady hrest hmore
  rw [run_of_build hbuild] at hbulk
  have hstate : state.Has state.store.hasDatabase := fun _ => rfl
  obtain ⟨effects, heffects, rfl, rfl⟩ :=
    Handle.affects_of_ok hop (allowsAll_of_steady hrest hmore) hheads htable hstate hbulk
  obtain ⟨last, hrun, hlast, hothers⟩ :=
    runAll_lookups hop hheads hsingle contexts heffects htable rfl hkeyed.awaits hstate
  refine ⟨effects.map fun e => (Call.summarize logged [e]).toJson, ⟨last, state.drawn⟩,
    Call.summarize logged effects, ?_, fun other => ?_, ?_, fun hne => ?_, rfl⟩
  · rw [List.map_map]
    exact hrun
  · dsimp only
    rw [Store.table?_setTable]
    by_cases hother : other = name
    · rw [if_pos hother, hother, hlast]
    · rw [if_neg hother, hothers other hother]
  · exact Call.addSummaries_single (Summary.isSome_changes_start logged) effects
  · refine Call.addSummaries_single_of_ne_nil logged fun hnil => hne ?_
    rw [hnil]
    rfl

/-- An update that changes one of two rows, with a function that looks at the row. -/
theorem run_bulk_eq_lookups_one_changed :
    let row := Json.array (Handle.node .var [.ofNat 1])
    let id := Json.array (Handle.node .bracket [row, .string "id"])
    let isFirst := Json.array (Handle.node .eq [id, .ofNat 1])
    let seen := Json.object [("seen", .bool true)]
    let body := Json.array (Handle.node .branch [isFirst, seen, .object []])
    let params := Json.array (Handle.node .makeArray [.ofNat 1])
    let function := Json.array (Handle.node .func [params, body])
    let source := Json.array (Handle.node .table [.string "t"])
    let options : Fields Json := [("return_changes", .bool true)]
    let write (receiver : Json) : Query := ⟨methodTerm .update receiver [function] options, {}⟩
    let name : TableName := ⟨"test", "t"⟩
    let one := Json.object [("id", .ofNat 1)]
    let two := Json.object [("id", .ofNat 2)]
    let changed := Json.object [("id", .ofNat 1), ("seen", .bool true)]
    let state : Run.State := ⟨Store.empty.setTable name ⟨"id", [one, two]⟩, 0⟩
    let context : Run.Context := ⟨⟨0, 0, 0⟩, fun _ => 0⟩
    let summary : Summary :=
      { replaced := 1, unchanged := 1
        changes := some [.object [("new_val", changed), ("old_val", one)]] }
    let singles :=
      [(write (lookupTerm source (.ofNat 1)), context),
        (write (lookupTerm source (.ofNat 2)), context)]
    (run (write source) context state).1 = .ok summary.toJson ∧
      ∃ results last total, runAll singles state = (results.map .ok, last) ∧
        last.store.table? name = some ⟨"id", [changed, two]⟩ ∧
        Call.addSummaries (.start true) results = .ok total ∧
        summary.toJson = total.toJson := by
  intro row id isFirst seen body params function source options write name one two changed state
    context summary singles
  have hresult : (run (write source) context state).1 = .ok summary.toJson := by decide +kernel
  have hafter : (run (write source) context state).2.store.table? name =
      some ⟨"id", [changed, two]⟩ := by decide +kernel
  have hsteady : ∀ term ∈ [function], term.Steady := by
    refine List.forall_mem_singleton.mpr (.function ?_ ?_) <;>
      exact .of_lacks (fun _ => Operation.code_of_unsteady) _ (by decide +kernel)
  have htable : state.store.table? name = some ⟨"id", [one, two]⟩ := by
    rw [Store.table?_setTable, if_pos rfl]
  have hkeyed : Table.Keyed ⟨"id", [one, two]⟩ := by
    refine ⟨fun document hdocument => ?_, List.pairwise_pair.mpr fun ka kb ha hb => ?_⟩
    · simp only [List.mem_cons, List.not_mem_nil, or_false] at hdocument
      rcases hdocument with rfl | rfl
      · exact ⟨.ofNat 1, rfl⟩
      · exact ⟨.ofNat 2, rfl⟩
    · cases ha
      cases hb
      decide +kernel
  have hbulk : run ⟨methodTerm .update source [function] options, {}⟩ context state =
      (.ok summary.toJson, (run (write source) context state).2) := Prod.ext hresult rfl
  obtain ⟨results, last, total, hrun, hsame, htotal, -, heq⟩ :=
    run_bulk_eq_lookups rfl (build_table {} "t") hsteady htable hkeyed hbulk fun _ => context
  exact ⟨hresult, results, last, total, hrun, (hsame name).trans hafter, htotal, heq⟩

end Query

end DocQuery
