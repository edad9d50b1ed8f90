import DocQuery.Proofs.Query.Spliced
import DocQuery.Proofs.Run.Grouping

/-! Grouping queries.

A query that groups an array works out the key of each row in turn. The key is what its selectors
give for the row, each a field or what a function comes to, and `null` where data is missing. If
the query succeeds, its groups partition the rows by these keys, and a query that ungroups
it has one object for each group (`Query.run_group`). -/
namespace DocQuery
open Json

/-! ### Selectors -/

/-- What rows are grouped by: a field, or a function of the row. -/
inductive RowSelector where
  | field (name : String)
  | function (params body : Json)

namespace RowSelector

def term : RowSelector → Json
  | field name => .string name
  | function params body => .array (Handle.node .func [params, body])

/-- What a selector gives for a row: the field, or what a call of the function on the row comes
to. -/
def value (settings : Settings) (row : Json) : RowSelector → Run Json
  | field name => liftM (row.getField name)
  | function params body =>
    Query.whole ⟨Query.callTerm (function params body).term (datumTerm row), settings⟩

/-- The key of a row: what the selector gives, or the list of what several give. -/
def key (settings : Settings) (selectors : List RowSelector) (row : Json) : Run Json := do
  let values ← selectors.mapM fun selector =>
    return (← Run.found? (selector.value settings row)).getD .null
  return match values with
    | [value] => value
    | values => .array values

/-- The selector that the `index` option adds. -/
def ofOptions (options : Fields Json) : Except Fault (List RowSelector) :=
  match options.get? "index" with
  | some index => (indexField index).map fun (name, _) => [field name]
  | none => .ok []

variable {settings : Settings} {selector : RowSelector} {handle : Handle}

/-- The handle of a selector is no call, and gives for a row what the selector gives. -/
theorem select_eq (h : evaluate settings selector.term Scope.root = .ok handle) :
    (handle.argument Function.invoke).head = none ∧ ∀ row,
      (handle.argument Function.invoke).toOperand.select row = selector.value settings row := by
  cases selector with
  | field name =>
    have hname : ∀ items, Json.string name ≠ .array items := nofun
    have hliteral : evaluate settings (.string name) Scope.root = .ok (.datum (.string name)) :=
      evaluate_literal hname Scope.root
    obtain rfl := Except.ok.inj (hliteral.symm.trans h)
    exact ⟨rfl, fun row => rfl⟩
  | function params body =>
    have hbuild : Query.build ⟨(function params body).term, settings⟩ = .ok handle := h
    rw [term, Query.evaluate_node rfl rfl] at h
    obtain ⟨ids, -, h⟩ := bind_eq_ok h
    obtain ⟨-, -, h⟩ := bind_eq_ok h
    obtain rfl := Except.ok.inj h
    refine ⟨rfl, fun row => ?_⟩
    have hrow : Query.build ⟨datumTerm row, settings⟩ = .ok (.datum row) :=
      evaluate_datumTerm row Scope.root
    exact (Query.whole_call hrow hbuild).symm

/-- Selectors give for a row what their handles select. -/
theorem selects_eq {selectors : List RowSelector} {handles : List Handle}
    (h : Evaluation.evaluateAll ((selectors.map term).map (evaluate settings)) Scope.root =
      .ok handles) :
    (∀ handle ∈ handles, (handle.argument Function.invoke).head = none) ∧ ∀ row,
      handles.map (fun handle => (handle.argument Function.invoke).toOperand.select row) =
        selectors.map (value settings row) := by
  induction selectors generalizing handles with
  | nil =>
    cases h
    exact ⟨nofun, fun row => rfl⟩
  | cons selector rest ih =>
    rw [List.map_cons, List.map_cons, evaluateAll_cons] at h
    obtain ⟨first, hfirst, h⟩ := bind_eq_ok h
    obtain ⟨more, hmore, h⟩ := bind_eq_ok h
    obtain rfl := Except.ok.inj h
    obtain ⟨hhead, hselect⟩ := select_eq hfirst
    obtain ⟨hheads, hselects⟩ := ih hmore
    refine ⟨List.forall_mem_cons.mpr ⟨hhead, hheads⟩, fun row => ?_⟩
    rw [List.map_cons, List.map_cons, hselect, hselects]

/-- The key of a row is worked out of what the operands select. -/
theorem groupKey_eq {operands : List Operand} {selectors : List RowSelector}
    (h : ∀ row, operands.map (·.select row) = selectors.map (value settings row)) :
    Call.groupKey operands = key settings selectors := by
  funext row
  let found (x : Run Json) : Run Json := do return (← Run.found? x).getD .null
  have hvalues : (operands.mapM fun operand => found (operand.select row)) =
      selectors.mapM fun selector => found (selector.value settings row) := by
    have hmap := congrArg (List.mapM found) (h row)
    rwa [List.mapM_map, List.mapM_map] at hmap
  show (operands.mapM (fun operand => found (operand.select row)) >>= _) = _
  rw [hvalues]
  rfl

theorem ofOptions_eq {options : Fields Json} {args : List Argument}
    {index? : Option (String × Bool)}
    (h : Call.index? ⟨.group, args, options⟩ = .ok index?) :
    ofOptions options = .ok (index?.map fun index => field index.1).toList := by
  unfold Call.index? Call.option? at h
  unfold ofOptions
  dsimp only at h
  cases hindex : Fields.get? options "index" with
  | some index =>
    rw [hindex] at h
    obtain ⟨found, hfound, h⟩ := bind_eq_ok h
    obtain rfl := Except.ok.inj h
    dsimp only
    rw [hfound]
    rfl
  | none =>
    rw [hindex] at h
    obtain rfl := Except.ok.inj h
    rfl

end RowSelector

/-! ### Queries -/

/-- The term of rows that are grouped. -/
def groupTerm (rows : List Json) (selectors : List RowSelector)
    (options? : Option (Fields Json)) : Json :=
  methodTerm .group (datumTerm (.array rows)) (selectors.map RowSelector.term) options?

/-- The term of groups as a list of objects. -/
def ungroupTerm (source : Json) : Json := nodeTerm .ungroup [source] none

namespace Query
open Run
variable {rows : List Json} {selectors : List RowSelector} {options? : Option (Fields Json)}
  {settings : Settings} {context : Run.Context} {state after : Run.State}

/-- What a term that groups is built to. -/
theorem of_build_groupTerm {handle : Handle}
    (h : DocQuery.build settings (groupTerm rows selectors options?) = .ok handle) :
    ∃ handles, Evaluation.evaluateAll ((selectors.map RowSelector.term).map (evaluate settings))
        Scope.root = .ok handles ∧
      handle = .call .group (.datum (.array rows) :: handles) (options?.getD []) := by
  unfold DocQuery.build groupTerm at h
  rw [evaluate_methodTerm rfl, evaluate_datumTerm] at h
  obtain ⟨-, -, h⟩ := bind_eq_ok h
  obtain ⟨first, hfirst, h⟩ := bind_eq_ok h
  obtain ⟨handles, hhandles, h⟩ := bind_eq_ok h
  obtain rfl := Except.ok.inj hfirst
  exact ⟨handles, hhandles, (Except.ok.inj h).symm⟩

/-- The call that groups an array by what handles select. -/
def groupCall (rows : List Json) (handles : List Handle) (options : Fields Json) : Call :=
  ⟨.group, .ofValue (.array rows) :: Handle.arguments Function.invoke handles, options⟩

/-- The handle of a call that groups runs the call, if no list is spliced in. -/
theorem run_groupCall (rows : List Json) {handles : List Handle}
    (hheads : ∀ handle ∈ handles, (handle.argument Function.invoke).head = none)
    (options : Fields Json) :
    ((Handle.call .group (.datum (.array rows) :: handles) options).argument
      Function.invoke).run = Datum.value <$> (groupCall rows handles options).group (.array rows) := by
  have hplain : ∀ arg ∈ (groupCall rows handles options).args, arg.head ≠ some .args := by
    refine List.forall_mem_cons.mpr ⟨nofun, Handle.heads_arguments fun handle hhandle => ?_⟩
    simp [hheads handle hhandle]
  rw [map_eq_pure_bind]
  exact Call.run_eq_perform hplain

/-- The operands of a call that groups select what its selectors give. -/
theorem select_groupCall (rows : List Json) {handles : List Handle} (options : Fields Json)
    (hselects : ∀ row,
      handles.map (fun handle => (handle.argument Function.invoke).toOperand.select row) =
        selectors.map (RowSelector.value settings row))
    (index? : Option (String × Bool)) (row : Json) :
    ((groupCall rows handles options).groupSelectors index?).map (·.select row) =
      ((index?.map fun index => RowSelector.field index.1).toList ++ selectors).map
        (RowSelector.value settings row) := by
  have hrest : (groupCall rows handles options).rest.map Argument.toOperand =
      handles.map fun handle => (handle.argument Function.invoke).toOperand := by
    show (Handle.arguments Function.invoke handles).map Argument.toOperand = _
    rw [Handle.arguments_eq_map, List.map_map]
    rfl
  rw [Call.groupSelectors, hrest, List.map_append, List.map_append, ← hselects row, List.map_map]
  cases index? <;> rfl

theorem outcome_ungroup {source : Argument} {groups : List (Json × List Json)}
    (hhead : source.head ≠ some .args)
    (h : source.run.outcome context state = (.ok (.value (ofGroups groups)), after)) :
    (Call.run ⟨.ungroup, [source], []⟩).outcome context state =
      (.ok (.value (ofPairs groups)), after) := by
  have hheads : ∀ arg ∈ [source], arg.head ≠ some .args := List.forall_mem_singleton.mpr hhead
  rw [Call.run_eq_perform hheads]
  show (source.run >>= _).outcome context state = _
  rw [outcome_bind, h]
  show (liftM (Call.ungroup (ofGroups groups)) >>= fun value =>
    (pure (Datum.value value) : Run Datum)).outcome context after = _
  rw [Call.ungroup_ofGroups]
  rfl

theorem build_ungroupTerm {source : Json} {handle : Handle}
    (h : DocQuery.build settings source = .ok handle) :
    DocQuery.build settings (ungroupTerm source) = .ok (.call .ungroup [handle] []) := by
  unfold DocQuery.build ungroupTerm at *
  rw [evaluate_nodeTerm rfl, List.map_singleton, evaluateAll_cons, h]
  rfl

/-- If an array can be grouped, each row has a key, which is worked out for one row after another,
and the groups are those of the rows with these keys. What is ungrouped is one object for each
group, in their order. -/
theorem run_group {result : Json}
    (h : run ⟨groupTerm rows selectors options?, settings⟩ context state = (.ok result, after)) :
    ∃ named keys, RowSelector.ofOptions (options?.getD []) = .ok named ∧
      named ++ selectors ≠ [] ∧
      (rows.mapM (RowSelector.key settings (named ++ selectors))).outcome context state =
        (.ok keys, after) ∧
      ((∀ key ∈ keys, key.Proper) → ∃ groups, Call.Partitions keys rows groups ∧
        result = ofGroups groups ∧
        run ⟨ungroupTerm (groupTerm rows selectors options?), settings⟩ context state =
          (.ok (ofPairs groups), after)) := by
  obtain ⟨handle, hbuild⟩ := build_of_run_ok h
  obtain ⟨handles, hhandles, rfl⟩ := of_build_groupTerm hbuild
  obtain ⟨hheads, hselects⟩ := RowSelector.selects_eq hhandles
  have hcall := run_groupCall rows hheads (options?.getD [])
  have hgroup : ((groupCall rows handles (options?.getD [])).group (.array rows)).outcome context
      state = (.ok result, after) := by
    rw [run_of_build hbuild, Handle.run_eq_invoke, Operand.value, hcall, bind_map_left] at h
    rw [← h]
    exact congrArg (outcome · context state) (bind_pure _).symm
  obtain ⟨index?, keys, hindex, hne, hkeys, rfl⟩ := Call.keys_of_outcome_group hgroup
  have hmap := select_groupCall rows (options?.getD []) hselects index?
  have hlength : rows.length = keys.length :=
    (outcome_mapM_eq_ok (S := fun _ _ => True) (R := fun _ _ => True) (fun _ => trivial)
      (fun _ _ => trivial) (fun _ _ _ _ _ => ⟨trivial, trivial⟩) hkeys).2.length_eq
  refine ⟨_, keys, RowSelector.ofOptions_eq hindex, ?_, ?_, fun hproper => ?_⟩
  · intro hnil
    have hempty := hmap .null
    rw [hnil, List.map_nil, List.map_eq_nil_iff] at hempty
    exact hne hempty
  · rw [RowSelector.groupKey_eq hmap] at hkeys
    exact hkeys
  · refine ⟨_, Call.partitions_arranged hlength.symm hproper, rfl, ?_⟩
    rw [run_of_build (build_ungroupTerm hbuild), Handle.run_eq_invoke]
    show (Call.run ⟨.ungroup, [_], []⟩ >>= Datum.materialize).outcome context state = _
    have hsource : ((Handle.call .group (.datum (.array rows) :: handles)
        (options?.getD [])).argument Function.invoke).run.outcome context state =
          (.ok (.value (ofGroups (Call.arranged (Call.collect (keys.zip rows))))), after) := by
      rw [hcall, outcome_map, hgroup]
    rw [outcome_bind, outcome_ungroup (by nofun) hsource]
    rfl

/-- Four rows are grouped by an index and by whether a field is large. One of them lacks it. -/
theorem run_group_compound :
    let row := Json.array (Handle.node .var [.ofNat 1])
    let isLarge := Json.array
      (Handle.node .ge [.array (Handle.node .bracket [row, .string "a"]), .ofNat 2])
    let selector := RowSelector.function (.array (Handle.node .makeArray [.ofNat 1])) isLarge
    let options : Fields Json := [("index", .string "b")]
    let document (a : Nat) := Json.object [("a", .ofNat a), ("b", .string "x")]
    let rows := [document 2, .object [("b", .string "x")], document 1, document 3]
    let key (value : Json) := Json.array [.string "x", value]
    let context : Run.Context := ⟨⟨0, 0, 0⟩, fun _ => 0⟩
    let state : Run.State := ⟨.empty, 0⟩
    let grouped := ofGroups [(key (.bool false), [document 1]),
      (key (.bool true), [document 2, document 3]), (key .null, [.object [("b", .string "x")]])]
    run ⟨groupTerm rows [selector] options, {}⟩ context state = (.ok grouped, state) ∧
      ∃ groups, Call.Partitions
        [key (.bool true), key .null, key (.bool false), key (.bool true)] rows groups ∧
        grouped = ofGroups groups ∧
        run ⟨ungroupTerm (groupTerm rows [selector] options), {}⟩ context state =
          (.ok (ofPairs groups), state) := by
  intro row isLarge selector options document rows key context state grouped
  have hrun : run ⟨groupTerm rows [selector] options, {}⟩ context state = (.ok grouped, state) := by
    decide +kernel
  obtain ⟨named, keys, hnamed, -, hkeys, hgroups⟩ := run_group hrun
  obtain rfl : [RowSelector.field "b"] = named := Except.ok.inj hnamed
  have hcomputed : ((rows.mapM (RowSelector.key {} ([.field "b"] ++ [selector]))).outcome context
      state).1 = .ok [key (.bool true), key .null, key (.bool false), key (.bool true)] := by
    decide +kernel
  rw [hkeys] at hcomputed
  obtain rfl := Except.ok.inj hcomputed
  exact ⟨hrun, hgroups (by simp [key, Json.Proper, ProperItems])⟩

end Query

end DocQuery
