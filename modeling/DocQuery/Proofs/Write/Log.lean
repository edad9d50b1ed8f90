import DocQuery.Proofs.Query.Bulk
import DocQuery.Proofs.Write.Counters

/-! Logs of writes.

A write that is asked for a log tells of every document that it inserted, replaced or deleted,
one change each and in order. Whoever replays the changes on the table as it was gets the table
as it is (`Summary.Tells`). An effect adds at most one change, writes the table only if it adds
one, and is counted once, so a summary that tells of the table goes on telling of it
(`Tells.record`). An insertion writes as it goes and the other writes replay theirs
at the end; in both the table and the summary keep in step. -/
namespace DocQuery

/-! ### Replaying a log -/

namespace Table

/-- Does again what a change tells: without a new document, the document that has the key of
the old one is removed, and otherwise the new document is put by its key. -/
def redo (table : Table) (change : Json) : Table :=
  match (change.field? "new_val").getD .null with
  | .null => table.remove (table.keyOf ((change.field? "old_val").getD .null))
  | new => table.put new

def redoAll (table : Table) (changes : List Json) : Table := changes.foldl redo table

variable (table : Table)

theorem redoAll_append (changes : List Json) (change : Json) :
    table.redoAll (changes ++ [change]) = (table.redoAll changes).redo change :=
  List.foldl_append ..

theorem new_of_entry (old new : Option Json) :
    (Summary.entry old new).field? "new_val" = some (new.getD .null) :=
  Fields.get?_insert_self _ "new_val" _

theorem old_of_entry (old new : Option Json) :
    (Summary.entry old new).field? "old_val" = some (old.getD .null) := by
  have hne : "old_val" ≠ "new_val" := by decide
  exact (Fields.get?_insert_of_ne _ _ hne).trans (Fields.get?_insert_self [] "old_val" _)

theorem redo_deleted (old : Json) :
    table.redo (Summary.entry (some old) none) = table.remove (table.keyOf old) := by
  simp [redo, new_of_entry, old_of_entry]

theorem redo_put (old : Option Json) {new : Json} (hnew : new.isNull = false) :
    table.redo (Summary.entry old (some new)) = table.put new := by
  unfold redo
  rw [new_of_entry]
  cases new with
  | null => cases hnew
  | _ => rfl

end Table

/-! ### Summaries that tell of a table -/

namespace Effect

/-- The document that an effect writes. -/
def new? : Effect → Option Json
  | .inserted new | .replaced _ new => some new
  | _ => none

/-- No effect writes `null` for a document. -/
def WritesDocument (e : Effect) : Prop := ∀ new, e.new? = some new → new.isNull = false

end Effect

namespace Summary

/-- The log leads from one table to another, has a change for every document written, and every
one of so many documents is counted. -/
structure Tells (s : Summary) (before after : Table) (count : Nat) : Prop where
  log : ∃ changes, s.changes = some changes ∧ before.redoAll changes = after ∧
    changes.length = s.inserted + s.replaced + s.deleted
  total : s.deleted + s.errors + s.inserted + s.replaced + s.skipped + s.unchanged = count

namespace Tells
variable {s : Summary} {before after : Table} {count : Nat}

theorem start (table : Table) : (Summary.start true).Tells table table 0 :=
  ⟨⟨[], rfl, rfl, rfl⟩, rfl⟩

/-- Keys that were made up are no matter of the log. -/
theorem noted (h : s.Tells before after count) (generatedKeys : List String) :
    { s with generatedKeys }.Tells before after count :=
  ⟨h.log, h.total⟩

/-- An effect is logged as it is written, and counted. -/
theorem record (h : s.Tells before after count) {e : Effect} (he : e.WritesDocument) :
    (s.record e).Tells before (after.apply (after.writeOf? e).toList) (count + 1) := by
  obtain ⟨⟨changes, hchanges, hredo, hlength⟩, htotal⟩ := h
  have hlogged : ∀ change, before.redoAll (changes ++ [change]) = after.redo change := by
    intro change
    rw [Table.redoAll_append, hredo]
  have hput : ∀ old new, e.new? = some new →
      before.redoAll (changes ++ [entry old (some new)]) = after.put new := by
    intro old new hnew
    rw [hlogged, Table.redo_put after old (he new hnew)]
  cases e with
  | skipped | unchanged | failed fault =>
    exact ⟨⟨changes, hchanges, hredo, hlength⟩, by simp [Summary.record, fail]; omega⟩
  | inserted new =>
    refine ⟨⟨changes ++ [entry none (some new)], ?_, hput none new rfl, ?_⟩, ?_⟩
    · simp [Summary.record, Summary.log, hchanges]
    · simp [Summary.record, Summary.log, hlength]; omega
    · simp [Summary.record, Summary.log]; omega
  | replaced old new =>
    refine ⟨⟨changes ++ [entry (some old) (some new)], ?_, hput (some old) new rfl, ?_⟩, ?_⟩
    · simp [Summary.record, Summary.log, hchanges]
    · simp [Summary.record, Summary.log, hlength]; omega
    · simp [Summary.record, Summary.log]; omega
  | deleted old =>
    refine ⟨⟨changes ++ [entry (some old) none], ?_, ?_, ?_⟩, ?_⟩
    · simp [Summary.record, Summary.log, hchanges]
    · rw [hlogged, Table.redo_deleted]
      rfl
    · simp [Summary.record, Summary.log, hlength]; omega
    · simp [Summary.record, Summary.log]; omega

/-- Effects that were worked out are logged as they are replayed. -/
theorem recordAll {effects : List Effect} (h : s.Tells before after count)
    (he : ∀ e ∈ effects, e.WritesDocument) :
    (effects.foldl Summary.record s).Tells before
      (after.apply (effects.filterMap after.writeOf?)) (count + effects.length) := by
  induction effects generalizing s after count with
  | nil => exact h
  | cons e rest ih =>
    obtain ⟨hfirst, hrest⟩ := List.forall_mem_cons.mp he
    have hstep := ih (h.record hfirst) hrest
    rw [Table.writeOf?_congr (Table.apply_primaryKey after _), ← Table.apply_cons_effect] at hstep
    rw [List.foldl_cons, List.length_cons, ← Nat.add_assoc, Nat.add_right_comm]
    exact hstep

end Tells

end Summary

/-! ### Rows -/

/-- What is written for a row is an object. -/
theorem Effect.Of.writesDocument {op : Operation} {primaryKey : String} {row? : Option Json}
    {e : Effect} (h : Effect.Of op primaryKey row? e) : e.WritesDocument := by
  intro new hnew
  have hobject : new.isObject = true → new.isNull = false := by
    cases new <;> simp [Json.isObject, Json.isNull]
  obtain ⟨old, -, rfl⟩ | ⟨old, -, hs⟩ := h.cases
  · cases hnew
  · cases hs with
    | inserted _ _ hmade => exact hobject (Option.some.inj hnew ▸ hmade)
    | replaced _ _ hmade => exact hobject (Option.some.inj hnew ▸ hmade)
    | _ => cases hnew

theorem RowWrite.tells {op : Operation} {store : Store} (w : RowWrite op store) :
    (Call.summarize true w.effects).Tells w.table w.written w.rows.length := by
  have he : ∀ e ∈ w.effects, e.WritesDocument := by
    intro e he
    obtain ⟨row?, -, hof⟩ := w.of_mem he
    exact hof.writesDocument
  have htells := (Summary.Tells.start w.table).recordAll he
  rwa [Nat.zero_add, ← w.settled.length_eq] at htells

/-! ### Documents that are inserted -/

namespace Table
variable {conflict : Conflict} {table : Table}

/-- An insertion that does not merge writes the document that it is given, or nothing. -/
theorem insertKeyed_writes (hconflict : conflict ≠ .update) (table : Table) (document : Json) :
    (insertKeyed conflict table document).2 =
        table.apply (table.writeOf? (insertKeyed conflict table document).1).toList ∧
      ∀ new, (insertKeyed conflict table document).1.new? = some new → new = document := by
  unfold insertKeyed
  cases hposition : table.position (table.keyOf document) with
  | none =>
    refine ⟨?_, fun new h => (Option.some.inj h).symm⟩
    show table.append document = table.put document
    unfold put
    rw [hposition]
  | some position =>
    dsimp only
    generalize hold : table.documents[position]?.getD .null = old
    cases heffect : collision conflict table old document with
    | replaced old' new =>
      obtain rfl := collision_replaced hconflict heffect
      refine ⟨?_, fun new h => (Option.some.inj h).symm⟩
      show table.setAt position new = table.put new
      unfold put
      rw [hposition]
    | skipped | unchanged | failed => exact ⟨rfl, nofun⟩
    | inserted | deleted =>
      unfold collision at heffect
      cases conflict with
      | error => cases heffect
      | replace | update =>
        dsimp only at heffect
        split at heffect <;> cases heffect

theorem tells_insertKeyed (hconflict : conflict ≠ .update) {before after : Table} {s : Summary}
    {count : Nat} (h : s.Tells before after count) {document : Json}
    (hdocument : document.isNull = false) :
    (s.record (insertKeyed conflict after document).1).Tells before
      (insertKeyed conflict after document).2 (count + 1) := by
  obtain ⟨hwritten, hnew⟩ := insertKeyed_writes hconflict after document
  rw [hwritten]
  exact h.record fun new h => hnew new h ▸ hdocument

/-- One more document is inserted, whether it has a key, is given one or is refused. -/
theorem tells_step (hconflict : conflict ≠ .update) (fresh : Nat → String) {i : Insertion}
    {before : Table} {count : Nat} (h : i.summary.Tells before i.table count) (document : Json) :
    (i.step conflict fresh document).summary.Tells before (i.step conflict fresh document).table
      (count + 1) := by
  unfold Insertion.step
  split
  · split
    · exact tells_insertKeyed hconflict h rfl
    · exact tells_insertKeyed hconflict (h.noted _) rfl
  · refine h.record (e := .failed _) fun new hnew => ?_
    cases hnew

theorem tells_insert (hconflict : conflict ≠ .update) (table : Table) (documents : List Json)
    (fresh : Nat → String) :
    (table.insert documents conflict true fresh).summary.Tells table
      (table.insert documents conflict true fresh).table documents.length := by
  have hrun : ∀ (i : Insertion) (count : Nat), i.summary.Tells table i.table count →
      (documents.foldl (Insertion.step conflict fresh) i).summary.Tells table
        (documents.foldl (Insertion.step conflict fresh) i).table (count + documents.length) := by
    induction documents with
    | nil => exact fun i count h => h
    | cons document rest ih =>
      intro i count h
      rw [List.foldl_cons, List.length_cons, ← Nat.add_assoc, Nat.add_right_comm]
      exact ih _ _ (tells_step hconflict fresh h document)
  have htells := hrun { table, summary := .start true } 0 (.start table)
  rwa [Nat.zero_add] at htells

end Table

/-! ### Runs of writes -/

namespace Call
open Run
variable {store : Store} {call : Call}

/-- The table that a write goes to, and how many documents it is given or how many rows it is
to write. -/
def given (call : Call) : Run (TableName × Nat) := do
  let (spliced, receiver) ← call.received
  if call.op = .insert then
    let (name, documents, _) ← spliced.request receiver
    return (name, documents.length)
  else
    let (name, rows) ← receiver.targets
    return (name, rows.length)

/-- What a write reports of the table that it goes to. -/
structure Report (call : Call) (context : Run.Context) (store : Store) (drawn : Nat) where
  name : TableName
  table : Table
  written : Table
  summary : Summary
  count : Nat
  found : store.table? name = some table
  given : ∃ drawn', call.given.outcome context ⟨store, drawn⟩ =
    (.ok (name, count), ⟨store, drawn'⟩)
  tells : summary.Tells table written count

/-- The run fails, or it writes a table and reports it. -/
def Reported (call : Call) (context : Run.Context) (store : Store) (drawn : Nat) : Prop :=
  (∃ fault after, call.run.outcome context ⟨store, drawn⟩ = (.error fault, after)) ∨
    ∃ (r : Report call context store drawn) (drawn' : Nat),
      call.run.outcome context ⟨store, drawn⟩ =
        (.ok (.value r.summary.toJson), ⟨store.setTable r.name r.written, drawn'⟩)

theorem gives_targets {receiver : Datum} {name : TableName} {rows : List (Option Json)}
    (h : receiver.Targets store name rows) : Gives store receiver.targets (name, rows) := by
  cases receiver with
  | table other =>
    obtain ⟨rfl, table, htable, rfl⟩ := h
    exact Gives.view htable (Gives.pure _)
  | selection other picked =>
    obtain ⟨rfl, rfl⟩ := h
    exact Gives.pure _
  | row other row? =>
    obtain ⟨rfl, rfl⟩ := h
    exact Gives.pure _
  | value v => exact h.elim
  | database other => exact h.elim
  | function arity => exact h.elim

/-- A write of rows that asks for a log reports what it did to them. -/
theorem reported_rows (hop : writesRows call.op = true) (ha : (reading store).Arguments call)
    (hlogs : call.flag "return_changes" = true) (context : Run.Context) (drawn : Nat) :
    call.Reported context store drawn := by
  obtain ⟨fault, drawn', h⟩ | ⟨w, receiver, drawn', hreceives, htargets, h⟩ :=
    outcome_run hop ha context drawn
  · exact .inl ⟨fault, _, h⟩
  · obtain ⟨spliced, after, hreceived⟩ := hreceives
    obtain ⟨result, drawn'', hread, -⟩ := reading_received ha context drawn
    cases hread.symm.trans hreceived
    have hgiven : call.given.outcome context ⟨store, drawn⟩ =
        (.ok (w.name, w.rows.length), ⟨store, drawn''⟩) := by
      have hne : call.op ≠ .insert := fun heq => by rw [heq] at hop; cases hop
      unfold given
      rw [outcome_bind, hreceived]
      dsimp only
      rw [if_neg hne, (gives_targets htargets).outcome_bind]
      rfl
    rw [hlogs] at h
    exact .inr ⟨⟨w.name, w.table, w.written, _, _, w.found, ⟨drawn'', hgiven⟩, w.tells⟩, drawn', h⟩

/-- Nothing but its name asks for documents to be merged. -/
theorem eq_update_of_ofName {option : Json}
    (h : (option.asString >>= Conflict.ofName) = .ok .update) : option = .string "update" := by
  obtain ⟨name, hname, hrule⟩ := bind_eq_ok h
  cases option with
  | string text =>
    cases hname
    unfold Conflict.ofName at hrule
    split at hrule <;> first | rfl | cases hrule
  | _ => cases hname

/-- An insertion that is not asked to merge finds out what it is asked for, and does not merge. -/
theorem reading_request (ha : (reading store).Arguments call)
    {receiver : Datum} (hr : (reading store).Datum receiver)
    (hconflict : call.option? "conflict" ≠ some (.string "update")) :
    (reading store).Holds (call.request receiver) fun asked => asked.2.2 ≠ .update := by
  refine (reading store).bind (Logic.asTable hr) fun name _ =>
    ha.value 1 (.inl trivial) fun v => ?_
  have hrule : ∀ option, call.option? "conflict" = some option →
      (reading store).Holds (liftExcept (option.asString >>= Conflict.ofName)) (· ≠ .update) := by
    intro option hoption
    cases hrule : option.asString >>= Conflict.ofName with
    | error fault => exact (reading store).fail trivial
    | ok conflict =>
      refine (reading store).pure ?_
      rintro rfl
      exact hconflict (by rw [hoption, eq_update_of_ofName hrule])
  dsimp only
  -- An array of documents and a single document are inserted alike.
  split <;>
  · refine (reading store).bind (Logic.runs_pure _) fun documents _ => ?_
    split
    · next option hoption =>
      exact (reading store).bind (hrule option hoption) fun _ h => (reading store).pure h
    · refine (reading store).pure fun h => ?_
      cases h

/-- An insertion that asks for a log and does not merge reports what it did. -/
theorem reported_insert (hop : call.op = .insert) (ha : (reading store).Arguments call)
    (hlogs : call.flag "return_changes" = true)
    (hconflict : call.option? "conflict" ≠ some (.string "update")) (context : Run.Context)
    (drawn : Nat) : call.Reported context store drawn := by
  obtain ⟨result, drawn', hreceived, hspliced⟩ := reading_received ha context drawn
  have hwrites : call.op.writes = true := by rw [hop]; rfl
  unfold Reported
  rw [run_of_writes hwrites, outcome_bind, hreceived]
  cases result with
  | error fault => exact .inl ⟨fault, _, rfl⟩
  | ok p =>
    obtain ⟨⟨op, args, options⟩, receiver⟩ := p
    obtain ⟨hargs, hsame, hoptions, hr⟩ := hspliced _ rfl
    dsimp only at hsame hoptions
    subst hsame hoptions
    have hdispatch : (Call.mk call.op args call.options).dispatch receiver =
        (Call.mk call.op args call.options).insert receiver := by rw [hop]; rfl
    dsimp only
    rw [hdispatch, insert_eq, outcome_bind]
    obtain ⟨asked, drawn'', hrequest, hasked⟩ := reading_request hargs hr hconflict context drawn'
    rw [hrequest]
    cases asked with
    | error fault => exact .inl ⟨fault, _, rfl⟩
    | ok asked =>
      obtain ⟨name, documents, conflict⟩ := asked
      have hgiven : call.given.outcome context ⟨store, drawn⟩ =
          (.ok (name, documents.length), ⟨store, drawn''⟩) := by
        unfold given
        rw [outcome_bind, hreceived]
        dsimp only
        rw [if_pos hop, outcome_bind, hrequest]
        rfl
      have hconflict : conflict ≠ .update := hasked _ rfl
      have hflag : (Call.mk call.op args call.options).flag "return_changes" = true := hlogs
      dsimp only
      rw [outcome_enter, hflag]
      cases htarget : store.target name with
      | error fault => exact .inl ⟨fault, _, rfl⟩
      | ok table =>
        refine .inr ⟨⟨name, table, _, _, _, Store.target_eq_ok.mp htarget, ⟨drawn'', hgiven⟩,
          Table.tells_insert hconflict table documents _⟩, _, rfl⟩

/-- A write that asks for a log reports what it did. -/
theorem reported (call : Call) (hop : call.op.writes = true) (ha : (reading store).Arguments call)
    (hlogs : call.flag "return_changes" = true)
    (hconflict : call.op = .insert → call.option? "conflict" ≠ some (.string "update"))
    (context : Run.Context) (drawn : Nat) : call.Reported context store drawn := by
  by_cases hinsert : call.op = .insert
  · exact reported_insert hinsert ha hlogs (hconflict hinsert) context drawn
  · refine reported_rows ?_ ha hlogs context drawn
    simpa [Operation.writes, hinsert] using hop

end Call

/-! ### Queries -/

namespace Query
variable {settings : Settings} {op : Operation} {source : Json} {rest : List Json}
  {options : Fields Json}

/-- The term of a write whose arguments write nothing themselves is built to a call of it. -/
theorem build_write (hop : op.writes = true) (hread : ∀ term ∈ source :: rest, ReadOnly term)
    {options? : Option (Fields Json)} {handle : Handle}
    (h : DocQuery.build settings (methodTerm op source rest options?) = .ok handle) :
    ∃ args, handle = .call op args (options?.getD []) ∧ Policy.readOnly.AllowsAll args := by
  unfold DocQuery.build at h
  rw [evaluate_methodTerm (Operation.consumption_of_writes hop)] at h
  obtain ⟨-, -, h⟩ := bind_eq_ok h
  obtain ⟨first, hfirst, h⟩ := bind_eq_ok h
  obtain ⟨more, hmore, h⟩ := bind_eq_ok h
  cases h
  obtain ⟨hsource, hrest⟩ := List.forall_mem_cons.mp hread
  have hadmits := Policy.readOnly_admits settings
  refine ⟨first :: more, rfl, hadmits.build_means hsource hfirst, ?_⟩
  refine Policy.evaluateAll_allows (fun meaning hmeaning => ?_) Policy.binds_root hmore
  obtain ⟨term, hterm, rfl⟩ := List.mem_map.mp hmeaning
  exact hadmits.means term (hrest term hterm)

/-- The log of a write that succeeds is complete. Replayed in order on the table as it was, it
gives the table as it is; it has one change for each document inserted, replaced or deleted;
and every document that was given, or every row that was to be written, is counted once. An
insertion must not merge documents, and the arguments must write nothing themselves. -/
theorem log_complete (hop : op.writes = true) (hread : ∀ term ∈ source :: rest, ReadOnly term)
    (hlogs : Call.logs options = true)
    (hconflict : op = .insert → Fields.get? options "conflict" ≠ some (.string "update"))
    {context : Run.Context} {store : Store} {drawn : Nat} {result : Json} {after : Run.State}
    (h : run ⟨methodTerm op source rest (some options), settings⟩ context ⟨store, drawn⟩ =
      (.ok result, after)) :
    ∃ (args : List Handle) (name : TableName) (table written : Table) (summary : Summary)
      (changes : List Json) (count drawn' : Nat),
      build ⟨methodTerm op source rest (some options), settings⟩ = .ok (.call op args options) ∧
      (Handle.made op args options).given.outcome context ⟨store, drawn⟩ =
        (.ok (name, count), ⟨store, drawn'⟩) ∧
      store.table? name = some table ∧ after.store = store.setTable name written ∧
      result = summary.toJson ∧ summary.changes = some changes ∧
      table.redoAll changes = written ∧
      changes.length = summary.inserted + summary.replaced + summary.deleted ∧
      summary.deleted + summary.errors + summary.inserted + summary.replaced + summary.skipped +
        summary.unchanged = count := by
  obtain ⟨handle, hbuild⟩ := build_of_run_ok h
  obtain ⟨args, rfl, hargs⟩ := build_write hop hread hbuild
  rw [run_of_build hbuild, Handle.run_call, Run.outcome_bind] at h
  have hreported : (Handle.made op args options).Reported context store drawn :=
    Call.reported _ hop (Handle.reading_made store op hargs options) hlogs hconflict context drawn
  obtain ⟨fault, last, hrun⟩ | ⟨r, last, hrun⟩ := hreported
  · rw [Option.getD_some, hrun] at h
    cases h
  · rw [Option.getD_some, hrun] at h
    cases h
    obtain ⟨drawn', hgiven⟩ := r.given
    obtain ⟨changes, hchanges, hredo, hlength⟩ := r.tells.log
    exact ⟨args, r.name, r.table, r.written, r.summary, changes, r.count, drawn', hbuild, hgiven,
      r.found, rfl, rfl, hchanges, hredo, hlength, r.tells.total⟩

/-- A batch with two documents of one new key, of which the later replaces the earlier. -/
theorem log_complete_batch :
    let old := Json.object [("id", .ofNat 1)]
    let new := Json.object [("id", .ofNat 1), ("x", .ofNat 1)]
    let first := Json.object [("id", .ofNat 2)]
    let second := Json.object [("id", .ofNat 2), ("x", .ofNat 2)]
    let documents := Json.array (Handle.node .makeArray [new, first, second, .ofNat 5])
    let source := Json.array (Handle.node .table [.string "t"])
    let options : Fields Json := [("conflict", .string "replace"), ("return_changes", .bool true)]
    let query : Query := ⟨methodTerm .insert source [documents] (some options), {}⟩
    let table : Table := ⟨"id", [old]⟩
    let store := Store.empty.setTable ⟨"test", "t"⟩ table
    let out := query.run ⟨⟨0, 0, 0⟩, fun _ => 0⟩ ⟨store, 0⟩
    let changes := [Summary.entry (some old) (some new), Summary.entry none (some first),
      Summary.entry (some first) (some second)]
    let summary : Summary :=
      { errors := 1, inserted := 1, replaced := 2, changes := some changes
        firstError := some "Expected type OBJECT but found 5." }
    out.1 = .ok summary.toJson ∧ (table.redoAll changes).documents = [new, second] ∧
      ∃ name table written summary changes, store.table? name = some table ∧
        out.2.store = store.setTable name written ∧ out.1 = .ok (Summary.toJson summary) ∧
        summary.changes = some changes ∧ table.redoAll changes = written ∧
        changes.length = summary.inserted + summary.replaced + summary.deleted := by
  intro old new first second documents source options query table store out changes summary
  have hresult : out.1 = .ok summary.toJson := by decide +kernel
  have hread : ∀ term ∈ [source, documents], ReadOnly term := by
    have hlacks : ∀ term ∈ [source, documents], term.lacks [53, 54, 55, 56] = true := by
      decide +kernel
    exact fun term hterm =>
      (Avoids.of_lacks (fun _ => Operation.code_of_writes) term (hlacks term hterm)).readOnly
  have hlogs : Call.logs options = true := by decide +kernel
  have hconflict : Fields.get? options "conflict" ≠ some (.string "update") := by decide +kernel
  have hrun : out = (.ok summary.toJson, out.2) := Prod.ext hresult rfl
  obtain ⟨-, name, found, written, told, log, -, -, -, -, hfound, hafter, htold, hlog, hredo,
    hlength, -⟩ := log_complete rfl hread hlogs (fun _ => hconflict) hrun
  exact ⟨hresult, by decide +kernel, name, found, written, told, log, hfound, hafter,
    htold ▸ hresult, hlog, hredo, hlength⟩

end Query

end DocQuery
