import DocQuery.Proofs.Query.Chain
import DocQuery.Proofs.Value.Patch
import DocQuery.Proofs.Write.Counters

/-! Tables that are patched.

An update by an object merges it into every row. A row whose key would change is left as it
is, and so is one that is the same afterwards; any other is replaced where it stands. Since a
merge establishes its patch (`Json.merge_merge`), the same update has nothing left to
replace when it is run again, and the rows that it has replaced are kept by a filter of the
patch (`Query.run_patch`). -/
namespace DocQuery

/-! ### Rows that are rewritten -/

namespace Effect

/-- The document that stands in the place of a row that is not deleted. -/
def leaves (row : Json) : Effect → Json
  | .replaced _ new => new
  | _ => row

/-- The row is left as it is, or a document of the same key takes its place. -/
inductive Rewrites (table : Table) (row : Json) : Effect → Prop
  | unchanged : Rewrites table row .unchanged
  | failed (fault : Fault) : Rewrites table row (.failed fault)
  | replaced {new : Json} (h : table.SameKeys row new) : Rewrites table row (.replaced row new)

namespace Rewrites
variable {table other : Table} {row : Json} {e : Effect}

theorem inPlace (h : e.Rewrites table row) (hrow : row ∈ table.documents) : e.InPlace table := by
  cases h with
  | replaced h => exact ⟨hrow, h⟩
  | _ => trivial

theorem congr (h : e.Rewrites table row) (hpk : other.primaryKey = table.primaryKey) :
    e.Rewrites other row := by
  cases h with
  | unchanged => exact .unchanged
  | failed fault => exact .failed fault
  | replaced h =>
    refine .replaced ?_
    unfold Table.SameKeys
    rw [Table.keyOf?_congr hpk]
    exact h

end Rewrites

end Effect

namespace Table
variable {table : Table}

/-- The write of one row changes the documents where the row stands. -/
theorem KeysDistinct.documents_rewrite (h : table.KeysDistinct) {before after : List Json}
    {row : Json} (hdocuments : table.documents = before ++ row :: after) {e : Effect}
    (he : e.Rewrites table row) :
    (table.apply (table.writeOf? e).toList).documents = before ++ e.leaves row :: after := by
  cases he with
  | unchanged => exact hdocuments
  | failed fault => exact hdocuments
  | replaced hsame => exact congrArg documents (h.put_middle hdocuments hsame)

/-- Rows that are rewritten stay where they are. The induction is on the rows that are still to
be written, after those that are done. -/
theorem KeysDistinct.documents_rewrites (h : table.KeysDistinct) {done rows : List Json}
    (hdocuments : table.documents = done ++ rows) {f : Json → Effect}
    (hf : ∀ row ∈ rows, (f row).Rewrites table row) :
    (table.apply ((rows.map f).filterMap table.writeOf?)).documents =
      done ++ rows.map fun row => (f row).leaves row := by
  induction rows generalizing table done with
  | nil => exact hdocuments
  | cons row rest ih =>
    let next := table.apply (table.writeOf? (f row)).toList
    have hrow := hf row List.mem_cons_self
    have hpk : next.primaryKey = table.primaryKey := apply_primaryKey table _
    have hdistinct : next.KeysDistinct :=
      h.effect (hrow.inPlace (hdocuments ▸ List.mem_append_right _ List.mem_cons_self))
    have hnext : next.documents = (done ++ [(f row).leaves row]) ++ rest := by
      rw [List.append_assoc]
      exact h.documents_rewrite hdocuments hrow
    have hothers : ∀ other ∈ rest, (f other).Rewrites next other := fun other hother =>
      (hf other (List.mem_cons_of_mem row hother)).congr hpk
    have hrest := ih hdistinct hnext hothers
    rw [writeOf?_congr hpk, List.append_assoc] at hrest
    rw [List.map_cons, apply_cons_effect]
    exact hrest

end Table

/-! ### Updates by an object -/

namespace Call
open Run
variable {p : Json}

/-- An update by an object replaces a row if the merge is another document with its key. -/
def replaces (primaryKey : String) (p row : Json) : Bool :=
  settle.sameKey primaryKey row (row.merge p) && !(row.merge p).same row

/-- A row after an update by an object. -/
def patched (primaryKey : String) (p row : Json) : Json :=
  if replaces primaryKey p row then row.merge p else row

/-- A row that has been patched is not replaced by the same patch. -/
theorem replaces_patched (hp : p.LiteralFree) (primaryKey : String) (row : Json) :
    replaces primaryKey p (patched primaryKey p row) = false := by
  unfold patched
  cases h : replaces primaryKey p row with
  | false =>
    rw [if_neg Bool.false_ne_true]
    exact h
  | true =>
    rw [if_pos rfl, replaces, Json.merge_merge p hp, Json.same_self, Bool.not_true, Bool.and_false]

section Rows
variable (primaryKey : String) {row : Json} (hrow : row.isObject = true) (hp : p.LiteralFree)
  (hobject : p.isObject = true)
include hrow hp hobject

theorem isObject_patched : (patched primaryKey p row).isObject = true := by
  unfold patched
  split
  · exact Json.isObject_merge row hp hobject
  · exact hrow

/-- What an update by an object does with a row. -/
theorem settle_patch : settle .update primaryKey row p =
    if replaces primaryKey p row then .replaced row (row.merge p)
    else if settle.sameKey primaryKey row (row.merge p) then .unchanged
    else .failed (.keyChanged primaryKey) := by
  obtain ⟨merged, hmerged⟩ := Json.isObject_iff.mp (Json.isObject_merge row hp hobject)
  obtain ⟨fields, rfl⟩ := Json.isObject_iff.mp hrow
  obtain ⟨patch, rfl⟩ := Json.isObject_iff.mp hobject
  unfold replaces settle
  rw [hmerged]
  cases hkey : settle.sameKey primaryKey (.object fields) (.object merged) <;>
    cases hsame : (Json.object merged).same (.object fields) <;>
      simp [Json.isNull, Json.isObject, hkey, hsame]

theorem isReplaced_patch :
    (settle .update primaryKey row p).isReplaced = replaces primaryKey p row := by
  rw [settle_patch primaryKey hrow hp hobject]
  cases replaces primaryKey p row with
  | true => rfl
  | false =>
    rw [if_neg Bool.false_ne_true]
    split <;> rfl

theorem leaves_patch : (settle .update primaryKey row p).leaves row = patched primaryKey p row := by
  rw [settle_patch primaryKey hrow hp hobject, patched]
  cases replaces primaryKey p row with
  | true => rfl
  | false =>
    rw [if_neg Bool.false_ne_true, if_neg Bool.false_ne_true]
    split <;> rfl

theorem writeOf?_patch (hkept : replaces primaryKey p row = false) (table : Table) :
    table.writeOf? (settle .update primaryKey row p) = none := by
  rw [settle_patch primaryKey hrow hp hobject, hkept, if_neg Bool.false_ne_true]
  split <;> rfl

end Rows

/-- The effect of an update by a value on a row, which may be missing. -/
def patchEffect (primaryKey : String) (p : Json) : Option Json → Effect
  | some row => settle .update primaryKey row p
  | none => .skipped

theorem affects_patchEffect (databases : String → Bool) (primaryKey : String) (p : Json)
    (rows : List (Option Json)) :
    List.Forall₂ (Affects databases .update [.ofValue p] primaryKey) rows
      (rows.map (patchEffect primaryKey p)) := by
  rw [List.forall₂_map_right_iff, List.forall₂_same]
  intro row? _
  cases row? with
  | none => exact ⟨fun _ _ _ => rfl, .missing nofun⟩
  | some row => exact ⟨fun _ _ _ => rfl, .settled p nofun (.inl rfl)⟩

theorem affects_patch (databases : String → Bool) (primaryKey : String) (p : Json)
    (rows : List Json) :
    List.Forall₂ (Affects databases .update (Handle.changes [.datum p]) primaryKey)
      (rows.map some) (rows.map fun row => settle .update primaryKey row p) := by
  have h := affects_patchEffect databases primaryKey p (rows.map some)
  rwa [List.map_map] at h

/-- A filter of an object keeps the rows that match it. -/
theorem gives_filter {store : Store} {name : TableName} {table : Table}
    (hfound : store.table? name = some table) (first : Argument) (hobject : p.isObject = true)
    (options : Fields Json) :
    Gives store (Call.filter ⟨.filter, [first, .ofValue p], options⟩ (.table name))
      (.selection name (table.documents.filter (·.matchesPattern p))) := by
  obtain ⟨pattern, rfl⟩ := Json.isObject_iff.mp hobject
  have hkept : ∀ row ∈ table.documents, (do
      return (← found? ((Argument.ofValue (.object pattern)).test row)).getD
        (Call.flag ⟨.filter, [first, .ofValue (.object pattern)], options⟩ "default") : Run Bool) =
      pure (row.matchesPattern (.object pattern)) := fun _ _ => rfl
  unfold filter
  refine (Datum.Picks.table.gives_rows hfound).bind ?_
  dsimp only
  refine (Gives.pure (Argument.ofValue (.object pattern))).bind ?_
  rw [filterM_eq_pure hkept]
  exact Gives.pure _

end Call

namespace Table
variable {table : Table} {p : Json}

/-- The effects that an update by an object has on the rows. -/
def patches (table : Table) (p : Json) : List Effect :=
  table.documents.map fun row => Call.settle .update table.primaryKey row p

/-- The table after an update by an object. -/
def patched (table : Table) (p : Json) : Table :=
  table.apply ((table.patches p).filterMap table.writeOf?)

theorem patched_primaryKey (table : Table) (p : Json) :
    (table.patched p).primaryKey = table.primaryKey :=
  apply_primaryKey table _

theorem countP_patches (hrows : ∀ row ∈ table.documents, row.isObject = true) (hp : p.LiteralFree)
    (hobject : p.isObject = true) :
    (table.patches p).countP Effect.isReplaced =
      table.documents.countP (Call.replaces table.primaryKey p) := by
  rw [patches, List.countP_map]
  refine List.countP_congr fun row hrow => ?_
  rw [Function.comp_apply, Call.isReplaced_patch table.primaryKey (hrows row hrow) hp hobject]

namespace Keyed

theorem isObject (h : table.Keyed) : ∀ row ∈ table.documents, row.isObject = true := by
  intro row hrow
  obtain ⟨key, hkey⟩ := h.keyed row hrow
  cases row with
  | object fields => rfl
  | _ => cases hkey

theorem rewrites_patch (h : table.Keyed) (hp : p.LiteralFree) (hobject : p.isObject = true)
    {row : Json} (hrow : row ∈ table.documents) :
    (Call.settle .update table.primaryKey row p).Rewrites table row := by
  obtain ⟨key, hkey⟩ := h.keyed row hrow
  have hof : Effect.Of .update table.primaryKey (some row)
      (Call.settle .update table.primaryKey row p) := .settled p nofun (.inl rfl)
  have hplace := hof.inPlace hrow hkey
  rw [Call.settle_patch table.primaryKey (h.isObject row hrow) hp hobject] at hplace ⊢
  split at hplace
  · next hreplaced =>
    rw [if_pos hreplaced]
    exact .replaced hplace.2
  · next hkept =>
    rw [if_neg hkept]
    split
    · exact .unchanged
    · exact .failed _

/-- An update by an object patches each row where it stands. -/
theorem documents_patched (h : table.Keyed) (hp : p.LiteralFree) (hobject : p.isObject = true) :
    (table.patched p).documents = table.documents.map (Call.patched table.primaryKey p) := by
  have hdocuments := h.distinct.documents_rewrites (List.nil_append _).symm
    fun row hrow => h.rewrites_patch hp hobject hrow
  refine hdocuments.trans (List.map_congr_left fun row hrow => ?_)
  exact Call.leaves_patch table.primaryKey (h.isObject row hrow) hp hobject

theorem isObject_patched (h : table.Keyed) (hp : p.LiteralFree) (hobject : p.isObject = true) :
    ∀ row ∈ (table.patched p).documents, row.isObject = true := by
  rw [h.documents_patched hp hobject]
  exact List.forall_mem_map.mpr fun row hrow =>
    Call.isObject_patched table.primaryKey (h.isObject row hrow) hp hobject

/-- In a table that has been patched, the same patch replaces no row. -/
theorem replaces_patched (h : table.Keyed) (hp : p.LiteralFree) (hobject : p.isObject = true) :
    ∀ row ∈ (table.patched p).documents,
      Call.replaces (table.patched p).primaryKey p row = false := by
  rw [h.documents_patched hp hobject, patched_primaryKey]
  exact List.forall_mem_map.mpr fun row _ => Call.replaces_patched hp table.primaryKey row

/-- A table that has been patched is not changed by the same patch. -/
theorem patched_patched (h : table.Keyed) (hp : p.LiteralFree) (hobject : p.isObject = true) :
    (table.patched p).patched p = table.patched p := by
  have hwrites : ((table.patched p).patches p).filterMap (table.patched p).writeOf? = [] := by
    rw [List.filterMap_eq_nil_iff]
    refine List.forall_mem_map.mpr fun row hrow => ?_
    exact Call.writeOf?_patch _ (h.isObject_patched hp hobject row hrow) hp hobject
      (h.replaces_patched hp hobject row hrow) _
  rw [patched, hwrites]
  rfl

end Keyed

end Table

/-! ### Patches as queries -/

namespace Query
open Evaluation Run
variable {settings : Settings} {source p : Json} {name : TableName} {sourceOptions : Fields Json}
  {state : Run.State} {table : Table}

theorem evaluateAll_object (hobject : p.isObject = true) (scope : Scope) :
    evaluateAll ([p].map (evaluate settings)) scope = .ok [.datum p] := by
  obtain ⟨fields, rfl⟩ := Json.isObject_iff.mp hobject
  rfl

/-- An update of a table by an object. -/
theorem run_update (hbuild : DocQuery.build settings source = .ok (Handle.ofTable name sourceOptions))
    (hfound : state.store.table? name = some table) (hobject : p.isObject = true)
    (options? : Option (Fields Json)) (context : Run.Context) :
    run ⟨methodTerm .update source [p] options?, settings⟩ context state =
      (.ok (Call.summarize (Call.logs (options?.getD [])) (table.patches p)).toJson,
        ⟨state.store.setTable name (table.patched p), state.drawn⟩) := by
  have hheads : ∀ arg ∈ Handle.changes [.datum p], arg.head ≠ some .args :=
    List.forall_mem_singleton.mpr nofun
  have hop : Call.writesRows .update = true := rfl
  have hgoes := Handle.goesTo_table (Function.apply (Handle.callDepthOfAll [.datum p])) hop hheads
    hfound sourceOptions
  have hstate : State.Has state.store.hasDatabase state := fun _ => rfl
  rw [run_of_build
    (build_methodTerm rfl rfl rfl hbuild (evaluateAll_object hobject Scope.root) options?),
    Handle.run_call, Handle.made_cons rfl, outcome_bind]
  have hout := hgoes.outcome_affected (Call.affects_patch _ _ p table.documents)
    (options?.getD []) context hstate
  rw [Handle.changes] at hout
  rw [hout]
  rfl

/-- A filter of a table by an object. -/
theorem run_filter (hsource : Names settings state.store source name)
    (hfound : state.store.table? name = some table) (hobject : p.isObject = true)
    (options? : Option (Fields Json)) (context : Run.Context) :
    run ⟨methodTerm .filter source [p] options?, settings⟩ context state =
      (.ok (.array (table.documents.filter (·.matchesPattern p))), state) := by
  have hheads : ∀ handle ∈ [Handle.datum p],
      (handle.argument Function.invoke).head ≠ some .args := List.forall_mem_singleton.mpr nofun
  have hfilter := fun first => Call.gives_filter hfound first hobject (options?.getD [])
  exact run_onTable .filter rfl rfl (fun _ _ => rfl) hsource rfl
    (evaluateAll_object hobject Scope.root) hheads options? hfilter (Gives.pure _) context

/-- A merge establishes its patch: merging it again changes nothing, and what it was merged into
matches it, whatever that was. So the same update by an object can be run twice on a table
whose documents have keys of their own. The first run merges the object into the rows whose key
this does not change, where they stand, and counts those that it has made other documents of.
Whenever the table is as the first run has left it, the second run replaces no row and leaves
the table as it is, and a filter of the object keeps every row that was replaced. -/
theorem run_patch {p : Json} (hp : p.LiteralFree) :
    (∀ a : Json, (a.merge p).merge p = a.merge p ∧ (a.merge p).matchesPattern p = true) ∧
      ∀ {settings : Settings} {source : Json} {name : TableName} {sourceOptions : Fields Json}
        {state : Run.State} {table : Table}, p.isObject = true →
        DocQuery.build settings source = .ok (Handle.ofTable name sourceOptions) →
        state.store.table? name = some table → table.Keyed →
        ∀ (options? : Option (Fields Json)) (context : Run.Context),
        let update : Query := ⟨methodTerm .update source [p] options?, settings⟩
        let replaced := Call.replaces table.primaryKey p
        ∃ (first : Summary) (written : Table),
          update.run context state =
            (.ok first.toJson, ⟨state.store.setTable name written, state.drawn⟩) ∧
          written.documents =
            table.documents.map (fun row => if replaced row then row.merge p else row) ∧
          first.replaced = table.documents.countP replaced ∧
          ∀ (later : Run.State) (context' : Run.Context), later.store.table? name = some written →
            (∃ second : Summary, second.replaced = 0 ∧ update.run context' later =
              (.ok second.toJson, ⟨later.store.setTable name written, later.drawn⟩)) ∧
            ∀ filterOptions? : Option (Fields Json), ∃ kept : List Json,
              run ⟨methodTerm .filter source [p] filterOptions?, settings⟩ context' later =
                (.ok (.array kept), later) ∧
              ∀ row ∈ table.documents, replaced row = true → row.merge p ∈ kept := by
  refine ⟨fun a => ⟨Json.merge_merge p hp a, Json.matchesPattern_merge hp a⟩, ?_⟩
  intro settings source name sourceOptions state table hobject hbuild hfound hkeyed options? context
    update replaced
  have hdocuments := hkeyed.documents_patched hp hobject
  refine ⟨_, table.patched p, run_update hbuild hfound hobject options? context, hdocuments, ?_, ?_⟩
  · rw [Call.summarize_replaced, Table.countP_patches hkeyed.isObject hp hobject]
  · intro later context' hlater
    have hsecond := run_update hbuild hlater hobject options? context'
    have hfilter := fun filterOptions? => run_filter (names_of_build hbuild hlater) hlater hobject
      filterOptions? context'
    rw [hkeyed.patched_patched hp hobject] at hsecond
    refine ⟨⟨_, ?_, hsecond⟩, fun filterOptions? => ⟨_, hfilter filterOptions?, ?_⟩⟩
    · rw [Call.summarize_replaced,
        Table.countP_patches (hkeyed.isObject_patched hp hobject) hp hobject, List.countP_eq_zero]
      exact fun row hrow => by simp [hkeyed.replaces_patched hp hobject row hrow]
    · intro row hrow hreplaced
      refine List.mem_filter.mpr ⟨?_, Json.matchesPattern_merge hp row⟩
      rw [hdocuments]
      exact List.mem_map.mpr ⟨row, hrow, if_pos hreplaced⟩

/-- An object is written where a number stood. The row that has the object already, with a field
beside it, is not replaced. -/
theorem run_patch_nested :
    let source := Json.array (Handle.node .table [.string "t"])
    let name : TableName := ⟨"test", "t"⟩
    let p := Json.object [("a", .object [("b", .ofNat 1)])]
    let one := Json.object [("a", .ofNat 5), ("id", .ofNat 1)]
    let two := Json.object [("a", .object [("b", .ofNat 1), ("c", .null)]), ("id", .ofNat 2)]
    let patched := Json.object [("a", .object [("b", .ofNat 1)]), ("id", .ofNat 1)]
    let store := Store.empty.setTable name ⟨"id", [one, two]⟩
    let after : Run.State := ⟨store.setTable name ⟨"id", [patched, two]⟩, 0⟩
    let context : Run.Context := ⟨⟨0, 0, 0⟩, fun _ => 0⟩
    let update : Query := ⟨methodTerm .update source [p] none, {}⟩
    (one.merge p).merge p = one.merge p ∧
      ∃ first second : Summary, update.run context ⟨store, 0⟩ = (.ok first.toJson, after) ∧
        first.replaced = 1 ∧ (update.run context after).1 = .ok second.toJson ∧
        second.replaced = 0 ∧ ∃ kept, patched ∈ kept ∧
          run ⟨methodTerm .filter source [p] none, {}⟩ context after = (.ok (.array kept), after) := by
  intro source name p one two patched store after context update
  have hp : p.LiteralFree := by
    simp [p, Json.LiteralFree, Json.LiteralFreeFields, Json.isLiteral, Json.tag?, Fields.get?_cons,
      Fields.get?_nil, Fields.Ascending, tagKey, Json.ofNat]
  have hfound : (Run.State.mk store 0).store.table? name = some ⟨"id", [one, two]⟩ := by
    rw [Store.table?_setTable, if_pos rfl]
  have hkeys : [one, two].map (Table.keyOf? ⟨"id", [one, two]⟩) =
      [.ofNat 1, .ofNat 2].map some := rfl
  have hkeyed : Table.Keyed ⟨"id", [one, two]⟩ := .of_keys hkeys (by decide +kernel)
  obtain ⟨hmerge, hqueries⟩ := run_patch hp
  obtain ⟨first, written, hfirst, -, hcount, hlater⟩ :=
    hqueries rfl (build_table {} "t") hfound hkeyed none context
  have hwritten : (update.run context ⟨store, 0⟩).2.store.table? name =
      some ⟨"id", [patched, two]⟩ := by decide +kernel
  rw [show update.run context ⟨store, 0⟩ = _ from hfirst, Store.table?_setTable, if_pos rfl]
    at hwritten
  obtain rfl := Option.some.inj hwritten
  have hafter : after.store.table? name = some ⟨"id", [patched, two]⟩ := by
    rw [Store.table?_setTable, if_pos rfl]
  obtain ⟨⟨second, hnone, hsecond⟩, hfilter⟩ := hlater after context hafter
  obtain ⟨kept, hrun, hkept⟩ := hfilter none
  refine ⟨(hmerge one).1, first, second, hfirst, hcount.trans (by decide +kernel), ?_, hnone, kept,
    hkept one List.mem_cons_self (by decide +kernel), hrun⟩
  rw [show update.run context after = _ from hsecond]

end Query

end DocQuery
