import DocQuery.Proofs.Query.Chain
import DocQuery.Proofs.Store.Removal

/-! Rows that are picked and deleted.

A chain that picks rows of a table can be deleted. It picks the same rows when it is deleted as
when it is read, since the store decides it (`Selects.picks`), and all of them by their keys. So
the table keeps the documents that were not picked, in the order in which they stood, and
the summary counts every row that was picked and nothing else (`Query.run_delete`). -/
namespace DocQuery

/-! ### Effects of deletions -/

namespace Call
open Run

/-- The summary of rows that were deleted: each is counted once, and no counter but that of
deletions has gone up. -/
def deletions (logged : Bool) (rows : List Json) : Summary where
  deleted := rows.length
  changes := if logged then some (rows.map fun row => Summary.entry (some row) none) else none

theorem record_deleted (s : Summary) (rows : List Json) :
    (rows.map Effect.deleted).foldl Summary.record s =
      { s with
        deleted := s.deleted + rows.length
        changes := s.changes.map (· ++ rows.map fun row => Summary.entry (some row) none) } := by
  induction rows generalizing s with
  | nil => simp
  | cons row rest ih =>
    rw [List.map_cons, List.foldl_cons, ih, List.length_cons, Nat.add_comm rest.length 1,
      ← Nat.add_assoc]
    cases hchanges : s.changes <;> simp [Summary.record, Summary.log, hchanges]

theorem summarize_deletions (logged : Bool) (rows : List Json) :
    summarize logged (rows.map Effect.deleted) = deletions logged rows := by
  unfold summarize
  rw [record_deleted]
  cases logged <;> simp [Summary.start, deletions]

theorem writes_deletions (table : Table) (rows : List Json) :
    (rows.map Effect.deleted).filterMap table.writeOf? = table.removals rows := by
  rw [List.filterMap_map]
  exact congrFun List.filterMap_eq_map rows

/-- A row is deleted whatever the state is. -/
theorem affects_deleted (databases : String → Bool) (primaryKey : String) (rows : List Json) :
    List.Forall₂ (Affects databases .delete [] primaryKey) (rows.map some)
      (rows.map Effect.deleted) := by
  rw [List.forall₂_map_left_iff, List.forall₂_map_right_iff, List.forall₂_same]
  exact fun row _ => ⟨fun _ _ _ => rfl, .deleted rfl⟩

/-- What a deletion of rows of a table comes to, whatever receiver has picked them. -/
theorem GoesTo.outcome_delete {store : Store} {first : Argument} {name : TableName} {table : Table}
    {rows : List Json} (h : GoesTo store .delete first [] name table (rows.map some))
    (options : Fields Json) (context : Run.Context) (drawn : Nat) :
    (Call.run ⟨.delete, [first], options⟩).outcome context ⟨store, drawn⟩ =
      (.ok (.value (deletions (logs options) rows).toJson),
        ⟨store.setTable name (table.apply (table.removals rows)), drawn⟩) := by
  have hstate : State.Has store.hasDatabase ⟨store, drawn⟩ := fun _ => rfl
  rw [h.outcome_affected (affects_deleted _ _ rows) options context hstate, summarize_deletions,
    writes_deletions]

end Call

/-! ### Deletions as terms -/

namespace Query
open Run
variable {settings : Settings} {store : Store} {source chain : Json} {name : TableName}
  {table : Table}

/-- If a chain over a table can be read, it has picked rows of this table, and the store alone
has decided which. -/
theorem picks_of_run (hchain : Selects source chain)
    (hsource : Names settings store source name) (hfound : store.table? name = some table)
    (havoid : Avoids Operation.undecided chain) {handle : Handle}
    (hbuild : DocQuery.build settings chain = .ok handle) {context : Run.Context} {drawn : Nat}
    {result : Json} {after : State}
    (h : run ⟨chain, settings⟩ context ⟨store, drawn⟩ = (.ok result, after)) :
    ∃ d rows, Gives store (handle.argument Function.invoke).run d ∧ d.Picks name table rows ∧
      result = .array rows := by
  obtain ⟨-, hpicks⟩ := hchain.picks hsource hfound havoid hbuild
  rw [run_of_build hbuild, handle.run_eq_invoke] at h
  unfold Operand.value at h
  rw [outcome_bind] at h
  split at h
  · next d state hd =>
    obtain ⟨⟨rows, hrows⟩, hgives⟩ := decided_outcome hpicks hd
    cases (hgives context drawn).symm.trans hd
    cases (hrows.gives_materialize hfound context drawn).symm.trans h
    exact ⟨d, rows, hgives, hrows, rfl⟩
  · cases h

/-- Deleting a chain over a table removes the rows that it picks, and nothing else. If the chain
can be read, it can also be deleted in the same store, at any time and with any options. The
table keeps the documents that are not among the rows, in their order, and the summary
counts the rows as deleted and nothing as failed or skipped. As many documents are gone as
it counts. The chain may neither write nor ask for the time or random numbers, and all
documents of the table need keys of their own. -/
theorem run_delete (hsource : Names settings store source name) (hchain : Selects source chain)
    (havoid : Avoids Operation.undecided chain) (hfound : store.table? name = some table)
    (hkeyed : table.Keyed) {context : Run.Context} {drawn : Nat} {result : Json} {after : State}
    (h : run ⟨chain, settings⟩ context ⟨store, drawn⟩ = (.ok result, after))
    (options? : Option (Fields Json)) (context' : Run.Context) (drawn' : Nat) :
    ∃ (rows : List Json) (written : Table),
      result = .array rows ∧
      run ⟨methodTerm .delete chain [] options?, settings⟩ context' ⟨store, drawn'⟩ =
        (.ok (Call.deletions (Call.logs (options?.getD [])) rows).toJson,
          ⟨store.setTable name written, drawn'⟩) ∧
      written.primaryKey = table.primaryKey ∧
      written.documents = table.documents.filter (· ∉ rows) ∧
      rows.length + written.documents.length = table.documents.length := by
  obtain ⟨handle, hbuild⟩ := build_of_run_ok h
  obtain ⟨d, rows, hgives, hrows, rfl⟩ := picks_of_run hchain hsource hfound havoid hbuild h
  have hgoes : Call.GoesTo store .delete (handle.argument Function.invoke) [] name table
      (rows.map some) :=
    { writes := rfl
      heads := List.forall_mem_singleton.mpr (hchain.picks hsource hfound havoid hbuild).1
      targets := ⟨d, hgives, hrows.gives_targets hfound⟩
      found := hfound }
  have hsub := hrows.subperm
  refine ⟨rows, table.apply (table.removals rows), rfl, ?_, table.apply_primaryKey _,
    hkeyed.documents_removals_eq_filter hsub, hkeyed.length_removals hsub⟩
  rw [run_of_build (build_methodTerm rfl rfl rfl hbuild rfl options?), Handle.run_eq_invoke]
  show (Call.run ⟨.delete, [_], _⟩ >>= _).outcome _ _ = _
  rw [outcome_bind, hgoes.outcome_delete]
  rfl

/-- Two of three documents, picked by a filter and sorted downward, are deleted with a log. -/
theorem run_delete_sorted :
    let source := Json.array (Handle.node .table [.string "t"])
    let kept := Json.array (Handle.node .filter [source, .object [("k", .bool true)]])
    let downward := Json.array (Handle.node .desc [.string "id"])
    let sorted := Json.array (Handle.node .orderBy [kept, downward])
    let chain := Json.array (Handle.node .limit [sorted, .ofNat 5])
    let options : Fields Json := [("return_changes", .bool true)]
    let name : TableName := ⟨"test", "t"⟩
    let one := Json.object [("id", .ofNat 1), ("k", .bool true)]
    let two := Json.object [("id", .ofNat 2), ("k", .bool false)]
    let three := Json.object [("id", .ofNat 3), ("k", .bool true)]
    let store := Store.empty.setTable name ⟨"id", [one, two, three]⟩
    let context : Run.Context := ⟨⟨0, 0, 0⟩, fun _ => 0⟩
    let summary : Summary :=
      { deleted := 2
        changes := some [.object [("new_val", .null), ("old_val", three)],
          .object [("new_val", .null), ("old_val", one)]] }
    (run ⟨chain, {}⟩ context ⟨store, 0⟩).1 = .ok (.array [three, one]) ∧
      ∃ written, run ⟨methodTerm .delete chain [] options, {}⟩ context ⟨store, 4⟩ =
        (.ok summary.toJson, ⟨store.setTable name written, 4⟩) ∧ written.documents = [two] := by
  intro source kept downward sorted chain options name one two three store context summary
  have hresult : (run ⟨chain, {}⟩ context ⟨store, 0⟩).1 = .ok (.array [three, one]) := by
    decide +kernel
  have hchain : Selects source chain :=
    .stage (ofHead?_code .limit) rfl (.stage (ofHead?_code .orderBy) rfl
      (.stage (ofHead?_code .filter) rfl .source))
  have havoid : Avoids Operation.undecided chain :=
    .of_lacks (fun _ => Operation.code_of_undecided) chain (by decide +kernel)
  have hfound : store.table? name = some ⟨"id", [one, two, three]⟩ := by
    rw [Store.table?_setTable, if_pos rfl]
  have hkeys : [one, two, three].map (Table.keyOf? ⟨"id", [one, two, three]⟩) =
      [.ofNat 1, .ofNat 2, .ofNat 3].map some := rfl
  have hkeyed : Table.Keyed ⟨"id", [one, two, three]⟩ := .of_keys hkeys (by decide +kernel)
  refine ⟨hresult, ?_⟩
  cases hrun : run ⟨chain, {}⟩ context ⟨store, 0⟩ with
  | mk result after =>
    rw [hrun] at hresult
    obtain rfl : result = .ok (.array [three, one]) := hresult
    obtain ⟨rows, written, hrows, hdelete, -, hwritten, -⟩ :=
      run_delete (names_of_build (build_table {} "t") hfound) hchain havoid hfound hkeyed hrun
        options context 4
    cases hrows
    have hsummary : Call.deletions (Call.logs options) [three, one] = summary := by
      decide +kernel
    refine ⟨written, hsummary ▸ hdelete, hwritten.trans ?_⟩
    decide +kernel

end Query

end DocQuery
