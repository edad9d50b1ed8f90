import DocQuery.Proofs.Store.Summing
import DocQuery.Proofs.Write.Exact

/-! Writing rows one by one.

The write of a whole table works out all effects first and then replays them. If the rows are
looked up and written one after another instead, each lookup has to find the row as it was:
the writes before it have changed other rows only, since keys are different and no write
changes one. So each row has the effect that it has in the write of the whole
table, the tables are the same in the end, and the summaries add up. -/
namespace DocQuery

/-! ### Rows that wait to be written -/

namespace Table
variable {table : Table}

/-- A document is found under its key. -/
theorem KeysDistinct.get_of_mem (h : table.KeysDistinct) {document key : Json}
    (hdocument : document ∈ table.documents) (hkey : table.keyOf? document = some key) :
    table.get key = some document := by
  cases hget : table.get key with
  | none =>
    have hnone := get_eq_none.mp hget document hdocument
    rw [hasKey_self hkey] at hnone
    cases hnone
  | some found =>
    obtain ⟨k, hk, hequals⟩ := hasKey_eq_true.mp (hasKey_of_get hget)
    rw [h.eq_of_equals (Call.mem_of_get hget) hdocument hk hkey hequals]

/-- The write of an effect on a row leaves the keys different. -/
theorem KeysDistinct.effect (h : table.KeysDistinct) {e : Effect} (he : e.InPlace table) :
    (table.apply (table.writeOf? e).toList).KeysDistinct := by
  cases e with
  | inserted new => exact he.elim
  | replaced old new =>
    obtain ⟨hold, hsame⟩ := he
    show (table.put new).KeysDistinct
    refine h.put fun found hin htaken other _ hdiffer => ?_
    obtain rfl : found = old := h.eq_of_hasKey hin hold hsame htaken
    exact hsame.keysDiffer hdiffer
  | deleted old => exact h.remove (table.keyOf old)
  | _ => exact h

/-- Rows of a table that are still to be written, by keys that are all different. -/
structure Awaits (table : Table) (rows : List Json) : Prop where
  distinct : table.KeysDistinct
  stored : ∀ row ∈ rows, row ∈ table.documents
  keyed : ∀ row ∈ rows, ∃ key, table.keyOf? row = some key
  differ : rows.Pairwise table.KeysDiffer

theorem Keyed.awaits (h : table.Keyed) : table.Awaits table.documents :=
  ⟨h.distinct, fun _ hrow => hrow, h.keyed, h.distinct⟩

namespace Awaits
variable {row : Json} {rest : List Json}

/-- The next row is found under its key. -/
theorem get (h : table.Awaits (row :: rest)) : table.get (table.keyOf row) = some row := by
  obtain ⟨key, hkey⟩ := h.keyed row List.mem_cons_self
  rw [keyOf_eq hkey]
  exact h.distinct.get_of_mem (h.stored row List.mem_cons_self) hkey

/-- When the next row has been written, the others are as they were. -/
theorem step (h : table.Awaits (row :: rest)) {op : Operation} {e : Effect}
    (he : Effect.Of op table.primaryKey (some row) e) :
    (table.apply (table.writeOf? e).toList).Awaits rest := by
  have hpk : (table.apply (table.writeOf? e).toList).primaryKey = table.primaryKey :=
    apply_primaryKey table _
  obtain ⟨key, hkey⟩ := h.keyed row List.mem_cons_self
  have hrow : row ∈ table.documents := h.stored row List.mem_cons_self
  have hget : table.get key = some row := h.distinct.get_of_mem hrow hkey
  obtain ⟨hbeside, hdiffer⟩ := List.pairwise_cons.mp h.differ
  refine ⟨h.distinct.effect (he.inPlace hrow hkey), fun other hother => ?_, ?_, ?_⟩
  · have hfree : table.hasKey key other = false := hasKey_eq_false.mpr fun found hfound =>
      Json.equals_comm found key ▸ hbeside other hother key found hkey hfound
    exact (he.touchesOnly h.distinct hget).kept other
      (h.stored other (List.mem_cons_of_mem row hother)) hfree
  · rw [keyOf?_congr hpk]
    exact fun other hother => h.keyed other (List.mem_cons_of_mem row hother)
  · unfold KeysDiffer
    rw [keyOf?_congr hpk]
    exact hdiffer

end Awaits

/-- Writes are replayed as they come. -/
theorem apply_cons_effect (table : Table) (e : Effect) (rest : List Effect) :
    table.apply ((e :: rest).filterMap table.writeOf?) =
      (table.apply (table.writeOf? e).toList).apply (rest.filterMap table.writeOf?) := by
  rw [List.filterMap_cons]
  cases table.writeOf? e <;> rfl

theorem writeOf?_congr {other : Table} (h : other.primaryKey = table.primaryKey) :
    other.writeOf? = table.writeOf? := by
  funext e
  cases e <;> simp [writeOf?, keyOf, keyOf?_congr h]

end Table

/-! ### Runs one after another -/

/-- Runs queries one after another, each in a context of its own and in the state that the
one before it has left. -/
def Query.runAll : List (Query × Run.Context) → Run.State → List (Except Fault Json) × Run.State
  | [], state => ([], state)
  | (query, context) :: rest, state =>
    let (result, after) := query.run context state
    let (results, last) := runAll rest after
    (result :: results, last)

namespace Handle
open Run
variable {databases : String → Bool} {op : Operation} {name : TableName} {rest : List Handle}
  {sourceOptions options : Fields Json}

/-- What a write of a whole table comes to if it succeeds: an effect on each row, which does
not vary. -/
theorem affects_of_ok (hop : Call.writesRows op = true)
    (hrest : (Policy.avoiding Operation.unsteady).AllowsAll rest)
    (hheads : ∀ arg ∈ changes rest, arg.head ≠ some .args) {store : Store} {table : Table}
    (htable : store.table? name = some table) {context : Run.Context} {drawn : Nat}
    (hstate : State.Has databases ⟨store, drawn⟩) {result : Json} {after : State}
    (h : (Handle.call op (ofTable name sourceOptions :: rest) options).run.outcome context
      ⟨store, drawn⟩ = (.ok result, after)) :
    ∃ effects, List.Forall₂ (fun row => Call.Affects databases op (changes rest) table.primaryKey
        (some row)) table.documents effects ∧
      result = (Call.summarize (Call.logs options) effects).toJson ∧
      after = ⟨store.setTable name (table.apply (effects.filterMap table.writeOf?)), drawn⟩ := by
  have hgoes := goesTo_table (Function.apply (callDepthOfAll rest)) hop hheads htable sourceOptions
  rw [run_call, made_cons rfl, outcome_bind] at h
  obtain ⟨fault, hout⟩ | ⟨effects, heffects, hout⟩ :=
    hgoes.outcome_cases (steady_changes databases hrest) options context hstate
  · rw [changes] at hout
    rw [hout] at h
    cases h
  · rw [changes] at hout
    rw [hout] at h
    cases h
    exact ⟨effects, List.forall₂_map_left_iff.mp heffects, rfl, rfl⟩

/-- The write of a row that is found under its key has the effect that it has on this row. -/
theorem outcome_lookup (hop : Call.writesRows op = true)
    (hheads : ∀ arg ∈ changes rest, arg.head ≠ some .args) {store : Store} {table : Table}
    (htable : store.table? name = some table) {key row : Json} (hget : table.get key = some row)
    {e : Effect}
    (he : Call.Affects databases op (changes rest) table.primaryKey (some row) e)
    (sourceOptions options : Fields Json) (context : Run.Context) {drawn : Nat}
    (hstate : State.Has databases ⟨store, drawn⟩) :
    (Handle.call op (lookup name sourceOptions key :: rest) options).run.outcome context
        ⟨store, drawn⟩ =
      (.ok (Call.summarize (Call.logs options) [e]).toJson,
        ⟨store.setTable name (table.apply (table.writeOf? e).toList), drawn⟩) := by
  have hgoes := goesTo_lookup (Function.apply (callDepthOfAll rest)) hop hheads htable
    sourceOptions key
  rw [hget] at hgoes
  have hout := hgoes.outcome_affected (.cons he .nil) options context hstate
  have hwrites : [e].filterMap table.writeOf? = (table.writeOf? e).toList := by
    cases hwrite : table.writeOf? e <;> simp [hwrite]
  rw [hwrites, changes] at hout
  rw [run_call, made_cons rfl, outcome_bind, hout]
  rfl

end Handle

namespace Query
open Run Table

theorem run_of_build {term : Json} {settings : Settings} {handle : Handle}
    (h : DocQuery.build settings term = .ok handle) (context : Run.Context) (state : Run.State) :
    run ⟨term, settings⟩ context state = handle.run.outcome context state := by
  rw [run_eq]
  unfold whole build
  rw [h]
  rfl

theorem build_of_run_ok {term : Json} {settings : Settings} {context : Run.Context}
    {state after : Run.State} {result : Json}
    (h : run ⟨term, settings⟩ context state = (.ok result, after)) :
    ∃ handle, DocQuery.build settings term = .ok handle := by
  rw [run_eq] at h
  unfold whole build at h
  cases hbuild : DocQuery.build settings term with
  | ok handle => exact ⟨handle, rfl⟩
  | error fault =>
    rw [hbuild] at h
    cases h

/-- Rows that wait to be written are written one after another, each with the effect that it
was to have. The induction is on the rows; that each of them is found as it was is what
`Table.Awaits` carries from one write to the next. -/
theorem runAll_lookups {databases : String → Bool} {op : Operation} {name : TableName}
    {rest : List Handle} {sourceOptions options : Fields Json} {settings : Settings}
    (hop : Call.writesRows op = true)
    (hheads : ∀ arg ∈ Handle.changes rest, arg.head ≠ some .args)
    {term : Json → Json} {primaryKey : String}
    (hbuild : ∀ key, DocQuery.build settings (term key) =
      .ok (.call op (Handle.lookup name sourceOptions key :: rest) options))
    (contexts : Json → Run.Context) {rows : List Json} {effects : List Effect}
    (heffects : List.Forall₂ (fun row =>
      Call.Affects databases op (Handle.changes rest) primaryKey (some row)) rows effects)
    {store : Store} {table : Table} (htable : store.table? name = some table)
    (hpk : table.primaryKey = primaryKey) (hawaits : table.Awaits rows) {drawn : Nat}
    (hstate : State.Has databases ⟨store, drawn⟩) :
    ∃ last : Store,
      runAll (rows.map fun row => (⟨term (table.keyOf row), settings⟩, contexts row))
          ⟨store, drawn⟩ =
        (effects.map fun e => .ok (Call.summarize (Call.logs options) [e]).toJson,
          ⟨last, drawn⟩) ∧
      last.table? name = some (table.apply (effects.filterMap table.writeOf?)) ∧
      ∀ other, other ≠ name → last.table? other = store.table? other := by
  induction heffects generalizing store table with
  | nil => exact ⟨store, rfl, htable, fun _ _ => rfl⟩
  | @cons row e rows effects he _ ih =>
    subst hpk
    have hpk : (table.apply (table.writeOf? e).toList).primaryKey = table.primaryKey :=
      apply_primaryKey table _
    have hfirst := (run_of_build (hbuild (table.keyOf row)) (contexts row) ⟨store, drawn⟩).trans
      (Handle.outcome_lookup hop hheads htable hawaits.get he sourceOptions options (contexts row)
        hstate)
    have htable' : (store.setTable name (table.apply (table.writeOf? e).toList)).table? name =
        some (table.apply (table.writeOf? e).toList) := by
      rw [Store.table?_setTable, if_pos rfl]
    have hstate' : State.Has databases
        ⟨store.setTable name (table.apply (table.writeOf? e).toList), drawn⟩ := fun db =>
      (Store.hasDatabase_setTable_of_found htable _ db).trans (hstate db)
    obtain ⟨last, hrest, hlast, hothers⟩ := ih htable' hpk (hawaits.step he.of) hstate'
    rw [keyOf_congr hpk] at hrest
    rw [writeOf?_congr hpk] at hlast
    refine ⟨last, ?_, ?_, fun other hother => ?_⟩
    · rw [List.map_cons, runAll, hfirst]
      dsimp only
      rw [hrest]
      rfl
    · rw [hlast, apply_cons_effect]
    · rw [hothers other hother, Store.table?_setTable, if_neg hother]

end Query

end DocQuery
