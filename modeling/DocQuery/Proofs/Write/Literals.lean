import DocQuery.Proofs.Query.Documents
import DocQuery.Proofs.Value.Literals
import DocQuery.Proofs.Write.Deletion
import DocQuery.Proofs.Write.Patching

/-! Patches with literals in queries.

A merge of documents and an update of rows merge a patch into one document after another, each
as it was before. The literals of the patch are gone from what a merge gives exactly if they are
reached in every document, and an update stores none of them if they are reached in every row
(`Query.run_marked`). -/
namespace DocQuery

/-! ### Documents of a value -/

namespace Json
variable {p value : Json}

/-- The rows of an array; any other value is a document alone. -/
def documents : Json → List Json
  | .array rows => rows
  | document => [document]

/-- The value with a patch merged into its documents. -/
def mergedEach (value p : Json) : Json :=
  match value with
  | .array rows => .array (rows.map (·.merge p))
  | document => document.merge p

theorem literalFreeItems_iff {items : List Json} :
    LiteralFreeItems items ↔ ∀ item ∈ items, item.LiteralFree := by
  induction items with
  | nil => exact iff_of_true trivial nofun
  | cons item rest ih => rw [LiteralFreeItems, ih, List.forall_mem_cons]

theorem literalFree_mergedEach_iff (hp : p.Marked) (hvalue : value.LiteralFree) :
    (value.mergedEach p).LiteralFree ↔ ∀ document ∈ value.documents, Reaches document p := by
  cases value with
  | array rows =>
    have hrows : ∀ row ∈ rows, row.LiteralFree := literalFreeItems_iff.mp hvalue
    show LiteralFreeItems (rows.map (·.merge p)) ↔ ∀ row ∈ rows, Reaches row p
    rw [literalFreeItems_iff, List.forall_mem_map]
    exact forall₂_congr fun row hrow => literalFree_merge_iff p hp row (hrows row hrow)
  | _ =>
    exact (literalFree_merge_iff p hp _ hvalue).trans
      (List.forall_mem_singleton (p := (Reaches · p))).symm

end Json

/-! ### Calls -/

namespace Call
open Run
variable {p row new : Json}

/-- A patch is merged into the documents of the receiver. -/
theorem compute_merge (first : Argument) (p : Json) {value : Json} (hvalue : value.isNull = false) :
    Call.compute ⟨.merge, first :: [p].map .ofValue, []⟩ value = pure (value.mergedEach p) := by
  have hpresent : value.present = .ok value := by
    rw [Json.present, hvalue, if_neg Bool.false_ne_true]
  show eachDocument value (fun document => pure (document.merge p)) = _
  unfold eachDocument
  rw [hpresent]
  cases value with
  | array rows =>
    show (rows.mapM (fun row => pure (row.merge p)) >>= fun rows => pure (Json.array rows) :
      Run Json) = _
    rw [mapM_eq_pure fun _ _ => rfl]
    rfl
  | _ => rfl

/-- What an update puts in the place of a row is the row with the patch merged into it, unless
the patch is `null`. -/
theorem new_of_settle {table : Table} {primaryKey : String}
    (h : table.writeOf? (settle .update primaryKey row p) = some (.put new)) :
    new = if p.isNull then row else row.merge p := by
  unfold settle at h
  simp only [if_true] at h
  generalize (if p.isNull then row else row.merge p) = computed at h ⊢
  -- In every case it is the computed document that is put, if one is.
  repeat' split at h
  all_goals first | (cases h; rfl) | cases h

end Call

/-! ### Updates of rows -/

/-- The table after an update of some of its rows by a patch. -/
def Table.patchedRows (table : Table) (p : Json) (rows : List (Option Json)) : Table :=
  table.apply ((rows.map (Call.patchEffect table.primaryKey p)).filterMap table.writeOf?)

/-- If all literals of the patch are reached in the rows, an update stores none. -/
theorem Table.literalFree_patchedRows {table : Table} {p : Json} {rows : List (Option Json)}
    (hp : p.Marked) (hfree : ∀ document ∈ table.documents, document.LiteralFree)
    (hrows : ∀ row, some row ∈ rows → row ∈ table.documents)
    (hreaches : ∀ row, some row ∈ rows → Json.Reaches row p) :
    ∀ document ∈ (table.patchedRows p rows).documents, document.LiteralFree := by
  refine forall_documents_apply (fun document hput => ?_) hfree
  obtain ⟨e, he, hwrite⟩ := List.mem_filterMap.mp hput
  obtain ⟨row?, hrow, rfl⟩ := List.mem_map.mp he
  cases row? with
  | none => cases hwrite
  | some row =>
    have hbefore : row.LiteralFree := hfree row (hrows row hrow)
    rw [Call.new_of_settle hwrite]
    split
    · exact hbefore
    · exact (Json.literalFree_merge_iff p hp row hbefore).mpr (hreaches row hrow)

namespace Query
open Run Evaluation
variable {settings : Settings} {store : Store} {name : TableName} {table : Table}

/-- A term that rows of a table can be written through: whatever the context is, it stands for
these rows. A single row may be missing. -/
structure Target (settings : Settings) (store : Store) (term : Json) (name : TableName)
    (table : Table) (rows : List (Option Json)) : Prop where
  found : store.table? name = some table
  picked : ∀ row, some row ∈ rows → row ∈ table.documents
  stands : ∃ handle, DocQuery.build settings term = .ok handle ∧
    (handle.argument Function.invoke).head ≠ some .args ∧
    ∃ d, Gives store (handle.argument Function.invoke).run d ∧ Gives store d.targets (name, rows)

/-- A chain over a table that can be read can be written through. -/
theorem Target.chain {source chain : Json} (hsource : Names settings store source name)
    (hchain : Selects source chain) (havoid : Avoids Operation.undecided chain)
    (hfound : store.table? name = some table) {context : Run.Context} {drawn : Nat}
    {result : Json} {after : State}
    (h : run ⟨chain, settings⟩ context ⟨store, drawn⟩ = (.ok result, after)) :
    ∃ rows, result = .array rows ∧ Target settings store chain name table (rows.map some) := by
  obtain ⟨handle, hbuild⟩ := build_of_run_ok h
  obtain ⟨d, rows, hgives, hrows, rfl⟩ := picks_of_run hchain hsource hfound havoid hbuild h
  refine ⟨rows, rfl, hfound, fun row hrow => ?_, handle, hbuild,
    (hchain.picks hsource hfound havoid hbuild).1, d, hgives, hrows.gives_targets hfound⟩
  obtain ⟨other, hother, heq⟩ := List.mem_map.mp hrow
  cases heq
  exact hrows.subperm.subset hother

/-- So can a lookup in a table, whether there is a row or not. -/
theorem Target.lookup {source : Json} {options : Fields Json}
    (hbuild : DocQuery.build settings source = .ok (Handle.ofTable name options))
    (hfound : store.table? name = some table) (key : Json) :
    Target settings store (lookupTerm source key) name table [table.get key] where
  found := hfound
  picked row hrow := Call.mem_of_get (List.mem_singleton.mp hrow).symm
  stands := by
    have hlookup : DocQuery.build settings (lookupTerm source key) =
        .ok (Handle.lookup name options key) := by
      unfold DocQuery.build at hbuild ⊢
      rw [evaluate_lookupTerm, hbuild]
      rfl
    exact ⟨_, hlookup, nofun, _, Handle.gives_lookup hfound options key, Gives.pure _⟩

/-- An update of rows by a patch. -/
theorem Target.run_update {target p : Json} {rows : List (Option Json)}
    (h : Target settings store target name table rows) (options? : Option (Fields Json))
    (context : Run.Context) (drawn : Nat) :
    run ⟨methodTerm .update target [datumTerm p] options?, settings⟩ context ⟨store, drawn⟩ =
      (.ok (Call.summarize (Call.logs (options?.getD []))
          (rows.map (Call.patchEffect table.primaryKey p))).toJson,
        ⟨store.setTable name (table.patchedRows p rows), drawn⟩) := by
  obtain ⟨handle, hbuild, hhead, d, hgives, htargets⟩ := h.stands
  have hgoes : Call.GoesTo store .update (handle.argument Function.invoke) [.ofValue p] name table
      rows :=
    { writes := rfl
      heads := List.forall_mem_cons.mpr ⟨hhead, List.forall_mem_singleton.mpr nofun⟩
      targets := ⟨d, hgives, htargets⟩
      found := h.found }
  have hstate : State.Has store.hasDatabase ⟨store, drawn⟩ := fun _ => rfl
  have hout := hgoes.outcome_affected (Call.affects_patchEffect _ _ p rows) (options?.getD [])
    context hstate
  have hterms : evaluateAll ([datumTerm p].map (evaluate settings)) Scope.root =
      .ok [.datum p] := evaluateAll_data [p] Scope.root
  rw [run_of_build (build_methodTerm rfl rfl rfl hbuild hterms options?), Handle.run_eq_invoke]
  show (Call.run ⟨.update, [_, .ofValue p], _⟩ >>= Datum.materialize).outcome _ _ = _
  rw [outcome_bind, hout]
  rfl

/-- No merge leaves a literal of the patch behind, if it reaches them all, and only then. So a
query that merges a patch into the documents of a value gives a value without literals exactly if
it reaches the literals in every document, and an update of rows of a table, whichever they are,
stores no literal if it reaches them in every row. -/
theorem run_marked {p : Json} (hp : p.Marked) :
    (∀ a : Json, a.LiteralFree → ((a.merge p).LiteralFree ↔ a.Reaches p)) ∧
      (∀ {settings : Settings} {source : Json} {context : Run.Context} {state : State}
        {value : Json} {after : State}, Source settings source context state value after →
        value.LiteralFree → value.isNull = false → value.isGrouped = false →
        ∃ result : Json,
          run ⟨documentsTerm .merge source [p], settings⟩ context state = (.ok result, after) ∧
          (result.LiteralFree ↔ ∀ document ∈ value.documents, document.Reaches p)) ∧
      ∀ {settings : Settings} {store : Store} {target : Json} {name : TableName} {table : Table}
        {rows : List (Option Json)}, Target settings store target name table rows →
        (∀ document ∈ table.documents, document.LiteralFree) →
        ∀ (options? : Option (Fields Json)) (context : Run.Context) (drawn : Nat),
        ∃ (summary : Summary) (written : Table),
          run ⟨methodTerm .update target [datumTerm p] options?, settings⟩ context
            ⟨store, drawn⟩ = (.ok summary.toJson, ⟨store.setTable name written, drawn⟩) ∧
          ((∀ row, some row ∈ rows → row.Reaches p) →
            ∀ document ∈ written.documents, document.LiteralFree) := by
  refine ⟨Json.literalFree_merge_iff p hp, ?_, ?_⟩
  · intro settings source context state value after hsource hfree hnull hgrouped
    obtain ⟨first, hrun⟩ := run_documents .merge rfl [p] hsource hgrouped
    refine ⟨value.mergedEach p, ?_, Json.literalFree_mergedEach_iff hp hfree⟩
    rw [hrun, Call.compute_merge first p hnull]
    rfl
  · intro settings store target name table rows htarget hfree options? context drawn
    exact ⟨_, _, htarget.run_update options? context drawn,
      Table.literalFree_patchedRows hp hfree htarget.picked⟩

/-- A literal stands for the object in a row, and one without a value for a field beside it. -/
theorem run_marked_nested :
    let literal (held : Fields Json) : Json := .object ((tagKey, .string "LITERAL") :: held)
    let p := Json.object [("x", .object [("y", literal [("value", .ofNat 1)])]), ("z", literal [])]
    let row := Json.object [("id", .ofNat 1), ("x", .object [("y", .object [("k", .null)])]),
      ("z", .ofNat 3)]
    let name : TableName := ⟨"test", "t"⟩
    let store := Store.empty.setTable name ⟨"id", [row]⟩
    let source := Json.array (Handle.node .table [.string "t"])
    let target := lookupTerm source (.ofNat 1)
    let context : Run.Context := ⟨⟨0, 0, 0⟩, fun _ => 0⟩
    (row.merge p).LiteralFree ∧
      (∃ result, run ⟨documentsTerm .merge (datumTerm (.array [row, row])) [p], {}⟩ context
          ⟨store, 0⟩ = (.ok result, ⟨store, 0⟩) ∧ result.LiteralFree) ∧
      ∃ (summary : Summary) (written : Table),
        run ⟨methodTerm .update target [datumTerm p] none, {}⟩ context ⟨store, 0⟩ =
          (.ok summary.toJson, ⟨store.setTable name written, 0⟩) ∧
        ∀ document ∈ written.documents, document.LiteralFree := by
  intro literal p row name store source target context
  have hp : p.Marked := by
    refine ⟨rfl, by unfold Fields.Ascending; decide, .inr ⟨rfl, ?_, ?_, trivial⟩, ?_, trivial⟩
    · exact List.pairwise_singleton _ _
    · exact .inl ⟨rfl, rfl, fun held hheld => Option.some.inj hheld ▸ trivial⟩
    · exact .inl ⟨rfl, rfl, nofun⟩
  have hrow : row.LiteralFree := by
    refine ⟨rfl, by unfold Fields.Ascending; decide, trivial, ⟨rfl, ?_, ?_, trivial⟩, trivial,
      trivial⟩
    · exact List.pairwise_singleton _ _
    · exact ⟨rfl, List.pairwise_singleton _ _, trivial, trivial⟩
  have hreaches : row.Reaches p := by
    simp [row, p, literal, Json.Reaches, Json.ReachesFields, Json.isLiteral, Json.tag?,
      Fields.get?_cons, Fields.get?_nil, tagKey, Fields.has, Json.string?]
  have hrows : ∀ document ∈ [row, row], document.Reaches p := by simp [hreaches]
  have hfound : store.table? name = some ⟨"id", [row]⟩ := by rw [Store.table?_setTable, if_pos rfl]
  have hdocuments : ∀ document ∈ [row], document.LiteralFree := List.forall_mem_singleton.mpr hrow
  have hget : Table.get ⟨"id", [row]⟩ (.ofNat 1) = some row := by decide +kernel
  obtain ⟨hmerge, hmerges, hupdates⟩ := run_marked hp
  obtain ⟨result, hrun, hfree⟩ :=
    hmerges (Source.datum {} (.array [row, row]) context ⟨store, 0⟩) ⟨hrow, hrow, trivial⟩ rfl rfl
  obtain ⟨summary, written, hupdate, hwritten⟩ :=
    hupdates (.lookup (build_table {} "t") hfound (.ofNat 1)) hdocuments none context 0
  rw [hget] at hwritten
  refine ⟨(hmerge row hrow).mpr hreaches, ⟨result, hrun, hfree.mpr hrows⟩, summary, written,
    hupdate, hwritten fun other hother => ?_⟩
  cases List.mem_singleton.mp hother
  exact hreaches

end Query

end DocQuery
