import DocQuery.Proofs.Store.Summing
import DocQuery.Proofs.Write.Standing

/-! Counters of writes.

A summary counts the effects that were worked out, and the writes are replayed later, by
key. The counters agree with the table if nothing is deleted twice or replaced after it
was deleted, and if a document for a missing row has a key that is free; and only then. -/
namespace DocQuery

/-! ### What a summary counts -/

namespace Summary

/-- A counter that goes up with some effects counts these. -/
theorem foldl_record (counter : Summary → Nat) (counts : Effect → Bool)
    (h : ∀ s e, counter (s.record e) = counter s + (counts e).toNat) (s : Summary)
    (effects : List Effect) :
    counter (effects.foldl record s) = counter s + effects.countP counts := by
  induction effects generalizing s with
  | nil => rfl
  | cons e rest ih =>
    rw [List.foldl_cons, ih, h, Effect.countP_cons]
    omega

end Summary

namespace Call

theorem summarize_deleted (logged : Bool) (effects : List Effect) :
    (summarize logged effects).deleted = effects.countP Effect.isDeleted := by
  have hrecord : ∀ (s : Summary) (e : Effect),
      (s.record e).deleted = s.deleted + e.isDeleted.toNat := by
    intro s e
    cases e <;> rfl
  have h := Summary.foldl_record Summary.deleted Effect.isDeleted hrecord (.start logged) effects
  exact h.trans (Nat.zero_add _)

theorem summarize_inserted (logged : Bool) (effects : List Effect) :
    (summarize logged effects).inserted = effects.countP Effect.isInserted := by
  have hrecord : ∀ (s : Summary) (e : Effect),
      (s.record e).inserted = s.inserted + e.isInserted.toNat := by
    intro s e
    cases e <;> rfl
  have h := Summary.foldl_record Summary.inserted Effect.isInserted hrecord (.start logged) effects
  exact h.trans (Nat.zero_add _)

theorem summarize_replaced (logged : Bool) (effects : List Effect) :
    (summarize logged effects).replaced = effects.countP Effect.isReplaced := by
  have hrecord : ∀ (s : Summary) (e : Effect),
      (s.record e).replaced = s.replaced + e.isReplaced.toNat := by
    intro s e
    cases e <;> rfl
  have h := Summary.foldl_record Summary.replaced Effect.isReplaced hrecord (.start logged) effects
  exact h.trans (Nat.zero_add _)

end Call

/-! ### Rows that are missing -/

/-- A document takes the place of another one unless its key is free. -/
theorem Table.length_put (table : Table) (document : Json) :
    (table.put document).documents.length = table.documents.length + 1 ↔
      table.get (table.keyOf document) = none := by
  rw [get_eq_none]
  obtain ⟨before, old, after, hsplit, hold, -, hput⟩ | ⟨hfree, hput⟩ := put_cases table document
  · rw [hput, hsplit]
    refine iff_of_false (by simp) fun hfree => ?_
    rw [hfree old (List.mem_append_right _ List.mem_cons_self)] at hold
    cases hold
  · rw [hput]
    exact iff_of_true (by simp) hfree

namespace RowWrite
variable {op : Operation} {store : Store}

theorem of_mem (w : RowWrite op store) {e : Effect} (he : e ∈ w.effects) :
    ∃ row? ∈ w.rows, Effect.Of op w.table.primaryKey row? e :=
  exists_of_forall₂ w.settled.flip he

/-- What is inserted has a key that is free, and nothing is changed once it was deleted. -/
structure Orderly (w : RowWrite op store) : Prop where
  fresh : ∀ new, .inserted new ∈ w.effects → w.table.get (w.table.keyOf new) = none
  once : w.effects.Pairwise Effect.Spares

theorem inPlace (w : RowWrite op store) (hkeyed : w.table.Keyed) {row : Json}
    (hrow : some row ∈ w.rows) {e : Effect} (he : Effect.Of op w.table.primaryKey (some row) e) :
    e.InPlace w.table := by
  obtain ⟨key, hkey⟩ := hkeyed.keyed row (w.picked row hrow)
  exact he.inPlace (w.picked row hrow) hkey

/-- The rows of a write are stored, or there is one, which is missing. -/
theorem effects_cases (w : RowWrite op store) (hkeyed : w.table.Keyed) :
    (∀ e ∈ w.effects, e.InPlace w.table) ∨
      ∃ e, w.effects = [e] ∧ Effect.Of op w.table.primaryKey none e := by
  by_cases hnone : none ∈ w.rows
  · have hsettled := w.settled
    rw [w.alone hnone] at hsettled
    obtain ⟨e, rest, he, hrest, heffects⟩ := List.forall₂_cons_left_iff.mp hsettled
    cases hrest
    exact .inr ⟨e, heffects, he⟩
  · refine .inl fun e he => ?_
    obtain ⟨row?, hrow, hof⟩ := w.of_mem he
    cases row? with
    | none => exact absurd hrow hnone
    | some row => exact w.inPlace hkeyed hrow hof

theorem orderly_of_singleton (w : RowWrite op store) {e : Effect} (heffects : w.effects = [e]) :
    w.Orderly ↔ ∀ new, e = .inserted new → w.table.get (w.table.keyOf new) = none := by
  refine ⟨fun h new he => h.fresh new (by rw [heffects, he]; exact List.mem_singleton_self _), ?_⟩
  intro hfree
  refine ⟨fun new hnew => ?_, by rw [heffects]; exact List.pairwise_singleton _ _⟩
  rw [heffects, List.mem_singleton] at hnew
  exact hfree new hnew.symm

theorem counts_iff_of_inPlace (w : RowWrite op store) (hkeyed : w.table.Keyed)
    (hplace : ∀ e ∈ w.effects, e.InPlace w.table) :
    w.written.documents.length + w.effects.countP Effect.isDeleted =
        w.table.documents.length + w.effects.countP Effect.isInserted ↔ w.Orderly := by
  have hnone : ∀ e ∈ w.effects, ¬e.isInserted = true := fun e he hinserted => by
    cases e <;> first | exact hplace _ he | cases hinserted
  have hstands : ∀ e ∈ w.effects, ∀ old, e.target? = some old → old ∈ w.table.documents := by
    intro e he old htarget
    have hin := hplace e he
    cases e <;> cases htarget
    · exact hin.1
    · exact hin
  rw [written, Table.length_apply hkeyed hplace, List.countP_eq_zero.mpr hnone,
    Nat.add_left_cancel_iff, Effect.strays_eq_zero hkeyed.nodup]
  constructor
  · rintro ⟨-, hspares⟩
    exact ⟨fun new hnew => absurd rfl (hnone _ hnew), hspares⟩
  · exact fun h => ⟨hstands, h.once⟩

theorem counts_iff_of_missing (w : RowWrite op store) {e : Effect} (heffects : w.effects = [e])
    (he : Effect.Of op w.table.primaryKey none e) :
    w.written.documents.length + w.effects.countP Effect.isDeleted =
        w.table.documents.length + w.effects.countP Effect.isInserted ↔ w.Orderly := by
  rw [w.orderly_of_singleton heffects, written, heffects]
  obtain ⟨new, rfl⟩ | ⟨hinserted, hdeleted, hwrite⟩ := he.missing_cases
  · refine (Table.length_put w.table new).trans ⟨fun hfree other hother => ?_, fun h => h new rfl⟩
    cases hother
    exact hfree
  · have hwrites : [e].filterMap w.table.writeOf? = [] := by
      rw [List.filterMap_cons_none (hwrite w.table), List.filterMap_nil]
    rw [hwrites, List.countP_singleton, List.countP_singleton, hinserted, hdeleted]
    refine iff_of_true rfl fun new hnew => ?_
    rw [hnew] at hinserted
    cases hinserted

/-- The counters agree with what becomes of the table exactly in orderly writes. -/
theorem counts_iff (w : RowWrite op store) (hkeyed : w.table.Keyed) :
    w.written.documents.length + w.effects.countP Effect.isDeleted =
        w.table.documents.length + w.effects.countP Effect.isInserted ↔ w.Orderly := by
  obtain hplace | ⟨e, heffects, he⟩ := w.effects_cases hkeyed
  · exact w.counts_iff_of_inPlace hkeyed hplace
  · exact w.counts_iff_of_missing heffects he

theorem pairwise_spares {primaryKey : String} {rows : List (Option Json)} {effects : List Effect}
    (h : List.Forall₂ (Effect.Of op primaryKey) rows effects) (hrows : rows.Nodup) :
    effects.Pairwise Effect.Spares := by
  induction h with
  | nil => exact List.Pairwise.nil
  | @cons row? e rows effects he hrest ih =>
    obtain ⟨hnot, hnodup⟩ := List.nodup_cons.mp hrows
    refine List.pairwise_cons.mpr ⟨fun later hlater old hdeleted htarget => ?_, ih hnodup⟩
    obtain ⟨other?, hother, hof⟩ := exists_of_forall₂ hrest.flip hlater
    have hrow : row? = some old := he.target (by rw [hdeleted]; rfl)
    have hsame : other? = some old := hof.target htarget
    exact hnot (hrow ▸ hsame ▸ hother)

/-- A write of rows that are all different is orderly, unless it replaces a missing row. -/
theorem orderly_of_nodup (w : RowWrite op store) (hkeyed : w.table.Keyed) (hrows : w.rows.Nodup)
    (hreplace : none ∈ w.rows → op ≠ .replace) : w.Orderly := by
  refine ⟨fun new hnew => ?_, pairwise_spares w.settled hrows⟩
  obtain ⟨row?, hrow, hof⟩ := w.of_mem hnew
  cases row? with
  | none =>
    rcases hof.replace_of_missing with hop | he | ⟨fault, he⟩
    · exact absurd hop (hreplace hrow)
    · cases he
    · cases he
  | some row => exact (w.inPlace hkeyed hrow hof).elim

end RowWrite

/-! ### Running a write -/

namespace Handle

/-- A write whose arguments write nothing themselves fails and leaves the store alone, or
it replaces its table. In a table all of whose documents have keys of their own, the
counters then agree with the number of documents if the write is orderly, and only then. -/
theorem run_counts {op : Operation} (hop : Call.writesRows op = true) {args : List Handle}
    (hargs : Policy.readOnly.AllowsAll args) (options : Fields Json) (context : Run.Context)
    (store : Store) (drawn : Nat) :
    let call := made op args options
    let out := (Handle.call op args options).run.outcome context ⟨store, drawn⟩
    (∃ fault, out.1 = .error fault ∧ out.2.store = store) ∨
      ∃ (w : RowWrite op store) (receiver : Datum),
        call.Receives context ⟨store, drawn⟩ receiver ∧ receiver.Targets store w.name w.rows ∧
        let summary := Call.summarize (call.flag "return_changes") w.effects
        out.1 = .ok summary.toJson ∧ out.2.store = w.after ∧
          out.2.store.table? w.name = some w.written ∧
          (w.table.Keyed → (w.written.documents.length + summary.deleted =
            w.table.documents.length + summary.inserted ↔ w.Orderly)) := by
  intro call out
  obtain ⟨fault, drawn', hout⟩ | ⟨w, receiver, drawn', hreceives, htargets, hout⟩ :=
    outcome_write hop hargs options context store drawn
  · have hout : out = (.error fault, ⟨store, drawn'⟩) := hout
    rw [hout]
    exact .inl ⟨fault, rfl, rfl⟩
  · have hout : out = (.ok _, ⟨w.after, drawn'⟩) := hout
    rw [hout]
    refine .inr ⟨w, receiver, hreceives, htargets, rfl, rfl, ?_, fun hkeyed => ?_⟩
    · exact (Store.table?_setTable store w.name w.written w.name).trans (if_pos rfl)
    · rw [Call.summarize_deleted, Call.summarize_inserted]
      exact w.counts_iff hkeyed

/-- Deleting what two keys find, out of three documents. -/
theorem run_counts_two_keys :
    let name : TableName := ⟨"test", "t"⟩
    let document (id : Nat) : Json := .object [("id", .ofNat id)]
    let table : Table := { primaryKey := "id", documents := [document 1, document 2, document 3] }
    let store := Store.empty.setTable name table
    let args := [Handle.call .getAll
      [.call .table [database "test", .datum (.string "t")] [], .datum (.ofNat 3),
        .datum (.ofNat 1)] []]
    let out := (Handle.call .delete args []).run.outcome ⟨⟨0, 0, 0⟩, fun _ => 0⟩ ⟨store, 0⟩
    let summary : Summary := { deleted := 2 }
    table.Keyed ∧ out.1 = .ok summary.toJson ∧
      ∃ after, out.2.store.table? name = some after ∧
        after.documents.length + summary.deleted = table.documents.length + summary.inserted := by
  intro name document table store args out summary
  have hkeys : table.documents.map table.keyOf? = [.ofNat 1, .ofNat 2, .ofNat 3].map some := rfl
  have hkeyed : table.Keyed := .of_keys hkeys (by decide +kernel)
  have hop : Call.writesRows .delete = true := rfl
  have hargs : Policy.readOnly.AllowsAll args := by repeat constructor
  have hout : out.1 = .ok summary.toJson := by decide +kernel
  have hreceived : ((made .delete args []).received.outcome ⟨⟨0, 0, 0⟩, fun _ => 0⟩
      ⟨store, 0⟩).1.map Prod.snd = .ok (.selection name [document 3, document 1]) := by
    decide +kernel
  obtain ⟨fault, herror, -⟩ | ⟨w, receiver, hreceives, htargets, hsummary, -, hafter, hcounts⟩ :=
    run_counts hop hargs [] ⟨⟨0, 0, 0⟩, fun _ => 0⟩ store 0
  · cases hout.symm.trans herror
  · -- Each row is named once, so that nothing is changed after it was deleted.
    rw [Call.receives_iff, hreceived] at hreceives
    cases hreceives
    obtain ⟨hname, hrows⟩ := htargets
    have hnodup : w.rows.Nodup := by
      rw [hrows]
      decide +kernel
    have htable : w.table = table := by
      have hfound := w.found
      rw [hname, Store.table?_setTable, if_pos rfl] at hfound
      exact (Option.some.inj hfound).symm
    have horderly : w.Orderly := w.orderly_of_nodup (htable ▸ hkeyed) hnodup fun _ => nofun
    have hcount := (hcounts (htable ▸ hkeyed)).mpr horderly
    have hsame := Summary.toJson_injective (Except.ok.inj (hsummary.symm.trans hout))
    have hwritten : out.2.store.table? name = some w.written := by rw [← hname, ← hafter]
    rw [hsame, htable] at hcount
    exact ⟨hkeyed, hout, w.written, hwritten, hcount⟩

/-- A row that two keys find is deleted once and counted twice. -/
theorem miscounts_repeated_key :
    let name : TableName := ⟨"test", "t"⟩
    let table : Table := { primaryKey := "id", documents := [.object [("id", .ofNat 1)]] }
    let store := Store.empty.setTable name table
    let args := [Handle.call .getAll
      [.call .table [database "test", .datum (.string "t")] [], .datum (.ofNat 1),
        .datum (.ofNat 1)] []]
    let out := (Handle.call .delete args []).run.outcome ⟨⟨0, 0, 0⟩, fun _ => 0⟩ ⟨store, 0⟩
    ∃ summary after, out.1 = .ok (Summary.toJson summary) ∧
      out.2.store.table? name = some after ∧
      after.documents.length + summary.deleted ≠ table.documents.length + summary.inserted := by
  intro name table store args out
  refine ⟨{ deleted := 2 }, { primaryKey := "id" }, ?_, ?_, by decide⟩
  · decide +kernel
  · decide +kernel

end Handle

end DocQuery
