import DocQuery.Proofs.Write.Standing

/-! Writes of a single lookup.

A lookup that finds a row is written in place, and all other documents stay. A lookup that
finds none does not keep the key that it was made with: a document for it is put by a key
of its own, in the place of the document that has this key. -/
namespace DocQuery

/-! ### Documents beside the one that is written -/

namespace Table
variable {table : Table} {old document : Json}

/-- The document that a key of a document finds is this document. -/
theorem KeysDistinct.eq_of_hasKey (h : table.KeysDistinct) {found new : Json}
    (hfound : found ∈ table.documents) (hold : old ∈ table.documents)
    (hnew : table.SameKeys old new) (hkey : table.hasKey (table.keyOf new) found = true) :
    found = old := by
  obtain ⟨ko, kn, hko, hkn, hsame⟩ := hnew
  obtain ⟨kf, hkf, hequals⟩ := hasKey_eq_true.mp hkey
  rw [keyOf_eq hkn, ← hsame kf] at hequals
  exact h.eq_of_equals hfound hold hkf hko hequals

theorem mem_put (h : table.KeysDistinct) (hold : old ∈ table.documents) {new : Json}
    (hnew : table.SameKeys old new) (hdocument : document ∈ table.documents)
    (hne : document ≠ old) : document ∈ (table.put new).documents := by
  obtain ⟨before, found, after, hsplit, hfound, -, hput⟩ | ⟨-, hput⟩ := put_cases table new
  · have hin : found ∈ table.documents := hsplit ▸ List.mem_append_right _ List.mem_cons_self
    obtain rfl : found = old := h.eq_of_hasKey hin hold hnew hfound
    rw [hsplit] at hdocument
    rw [hput]
    exact others_subset before after new (mem_others hdocument hne)
  · rw [hput]
    exact List.mem_append_left _ hdocument

theorem mem_remove (h : table.KeysDistinct) (hold : old ∈ table.documents)
    (hself : table.SameKeys old old) (hdocument : document ∈ table.documents)
    (hne : document ≠ old) : document ∈ (table.remove (table.keyOf old)).documents := by
  obtain ⟨before, found, after, hsplit, hfound, -, hremove⟩ | ⟨-, hremove⟩ :=
    remove_cases table (table.keyOf old)
  · have hin : found ∈ table.documents := hsplit ▸ List.mem_append_right _ List.mem_cons_self
    obtain rfl : found = old := h.eq_of_hasKey hin hold hself hfound
    rw [hsplit] at hdocument
    rw [hremove]
    exact mem_others hdocument hne
  · rw [hremove]
    exact hdocument

/-- A document whose key is free is put beside all others. -/
theorem mem_put_of_free {new : Json} (hfree : table.get (table.keyOf new) = none)
    (hdocument : document ∈ table.documents) : document ∈ (table.put new).documents := by
  obtain ⟨before, found, after, hsplit, hfound, -, -⟩ | ⟨-, hput⟩ := put_cases table new
  · have hin : found ∈ table.documents := hsplit ▸ List.mem_append_right _ List.mem_cons_self
    rw [get_eq_none.mp hfree found hin] at hfound
    cases hfound
  · rw [hput]
    exact List.mem_append_left _ hdocument

/-- A document whose key is taken is put in the place of another one, which is gone then
unless it is the same. -/
theorem lost_of_put (h : table.KeysDistinct) {new : Json}
    (htaken : table.get (table.keyOf new) ≠ none) :
    ∃ old ∈ table.documents, old ∈ (table.put new).documents → old = new := by
  obtain ⟨before, found, after, hsplit, hfound, hbefore, hput⟩ | ⟨hfree, -⟩ := put_cases table new
  · refine ⟨found, hsplit ▸ List.mem_append_right _ List.mem_cons_self, fun hin => ?_⟩
    obtain ⟨kf, hkf, -⟩ := hasKey_eq_true.mp hfound
    have hdistinct := h
    unfold KeysDistinct at hdistinct
    rw [hsplit, pairwise_split] at hdistinct
    rw [hput] at hin
    refine Decidable.byContradiction fun hne => ?_
    have hself : Json.equals kf kf = false :=
      hdistinct.1 found (mem_others hin hne) kf kf hkf hkf
    rw [Json.equals_self] at hself
    cases hself
  · exact absurd (get_eq_none.mpr hfree) htaken

theorem hasKey_of_get {key row : Json} (h : table.get key = some row) :
    table.hasKey key row = true :=
  List.find?_some h

end Table

/-! ### The effect on a row that was looked up -/

namespace Effect
variable {op : Operation} {table : Table} {key row : Json} {e : Effect}

/-- From one table to the next, an effect touches no key but the one that was looked up. -/
structure TouchesOnly (key : Json) (table after : Table) (e : Effect) : Prop where
  kept : ∀ document ∈ table.documents, table.hasKey key document = false →
    document ∈ after.documents
  inserted : table.get key = none → ∀ new, e = .inserted new → table.hasKey key new = true

/-- A document is only inserted with the key that was looked up, if this key is free. -/
def Fits (key : Json) (table : Table) (e : Effect) : Prop :=
  ∀ new, e = .inserted new → table.hasKey key new = true ∧ table.get (table.keyOf new) = none

/-- A row that was found is written in place, and nothing else is touched. -/
theorem Of.touchesOnly (hdistinct : table.KeysDistinct) (hget : table.get key = some row)
    (he : Of op table.primaryKey (some row) e) :
    e.TouchesOnly key table (table.apply (table.writeOf? e).toList) := by
  have hrow : row ∈ table.documents := Call.mem_of_get hget
  have hfound : table.hasKey key row = true := Table.hasKey_of_get hget
  obtain ⟨k, hk, -⟩ := Table.hasKey_eq_true.mp hfound
  have hplace : e.InPlace table := he.inPlace hrow hk
  refine ⟨fun document hdocument hother => ?_, fun hnone => ?_⟩
  · have hne : document ≠ row := by
      rintro rfl
      rw [hfound] at hother
      cases hother
    cases e with
    | inserted new => exact hplace.elim
    | replaced old new =>
      cases he.target rfl
      exact Table.mem_put hdistinct hrow hplace.2 hdocument hne
    | deleted old =>
      cases he.target rfl
      exact Table.mem_remove hdistinct hrow (.self hk) hdocument hne
    | _ => exact hdocument
  · rw [hget] at hnone
    cases hnone

/-- A document for a missing row is put by its own key, so it has to have the key that was
looked up. -/
theorem touchesOnly_inserted_iff (hdistinct : table.KeysDistinct) (hget : table.get key = none)
    (new : Json) :
    (Effect.inserted new).TouchesOnly key table (table.put new) ↔
      (Effect.inserted new).Fits key table := by
  constructor
  · rintro ⟨hkept, hinserted⟩ other hother
    cases hother
    have hnew : table.hasKey key new = true := hinserted hget new rfl
    refine ⟨hnew, Decidable.byContradiction fun htaken => ?_⟩
    obtain ⟨old, hold, hlost⟩ := Table.lost_of_put hdistinct htaken
    have hother : table.hasKey key old = false := Table.get_eq_none.mp hget old hold
    rw [hlost (hkept old hold hother), hnew] at hother
    cases hother
  · intro hfits
    obtain ⟨hnew, hfree⟩ := hfits new rfl
    refine ⟨fun document hdocument _ => Table.mem_put_of_free hfree hdocument, fun _ other hother => ?_⟩
    cases hother
    exact hnew

/-- The effect on a lookup touches no other key exactly if a document that it inserts has
the key and the key is free. -/
theorem touchesOnly_iff (hdistinct : table.KeysDistinct)
    (he : Of op table.primaryKey (table.get key) e) :
    e.TouchesOnly key table (table.apply (table.writeOf? e).toList) ↔ e.Fits key table := by
  cases hget : table.get key with
  | some row =>
    rw [hget] at he
    refine iff_of_true (he.touchesOnly hdistinct hget) fun new hnew => ?_
    obtain ⟨k, hk, -⟩ := Table.hasKey_eq_true.mp (Table.hasKey_of_get hget)
    rw [hnew] at he
    exact (he.inPlace (Call.mem_of_get hget) hk).elim
  | none =>
    rw [hget] at he
    obtain ⟨new, rfl⟩ | ⟨hinserted, -, hwrite⟩ := he.missing_cases
    · exact touchesOnly_inserted_iff hdistinct hget new
    · have hnot : ∀ new, e ≠ .inserted new := by
        rintro new rfl
        cases hinserted
      rw [hwrite table]
      refine iff_of_true ⟨fun _ hdocument _ => hdocument, ?_⟩ ?_
      · exact fun _ new hnew => absurd hnew (hnot new)
      · exact fun new hnew => absurd hnew (hnot new)

end Effect

/-! ### Running a lookup -/

namespace Run
variable {store : Store}

/-- Read in a store, an argument comes to nothing but this datum. A list to be spliced in
comes to none. -/
structure ComesTo (store : Store) (arg : DocQuery.Argument) (d : DocQuery.Datum) : Prop where
  head : arg.head ≠ some .args
  run : (reading store).Holds arg.run (· = d)

theorem comesTo_ofValue (store : Store) (v : Json) : ComesTo store (.ofValue v) (.value v) :=
  ⟨nofun, (reading store).pure rfl⟩

end Run

namespace Call
open Run
variable {store : Store} {call : Call} {first : Argument} {more : List Argument}

theorem reading_db (store : Store) (db : String) :
    (reading store).Holds (Call.run ⟨.db, [.ofValue (.string db)], []⟩) (· = .database db) := by
  rw [run_eq_perform (List.forall_mem_singleton.mpr nofun)]
  exact reading_named store db

/-- Naming a table of a database comes to it, if there is one. -/
theorem reading_table {source : Argument} {name : TableName}
    (hsource : ComesTo store source (.database name.db)) :
    (reading store).Holds (Call.run ⟨.table, [source, .ofValue (.string name.table)], []⟩)
      (· = .table name) := by
  have hheads : ∀ arg ∈ [source, .ofValue (.string name.table)], arg.head ≠ some .args :=
    List.forall_mem_cons.mpr ⟨hsource.head, List.forall_mem_singleton.mpr nofun⟩
  rw [run_eq_perform hheads]
  show (reading store).Holds (source.run >>= _) _
  refine (reading store).bind hsource.run fun d hd => ?_
  subst hd
  show (reading store).Holds (Run.store >>= fun s => liftM (s.table name) >>= fun _ =>
    pure (Datum.table name)) _
  exact Reading.opened fun table _ => (reading store).pure rfl

/-- The first argument stays the first one. -/
theorem reading_splice (ha : (reading store).Arguments call) (hargs : call.args = first :: more)
    (hfirst : first.head ≠ some .args) :
    (reading store).Holds call.splice fun out => ∃ more, out.args = first :: more := by
  refine Logic.mono (Logic.splice_first ha hargs hfirst) ?_
  rintro out ⟨-, more, rfl⟩
  exact ⟨more, rfl⟩

theorem reading_receiver (ha : (reading store).Arguments call) (hargs : call.args = first :: more)
    {d : Datum} (hfirst : ComesTo store first d) :
    (reading store).Holds call.received fun p => p.2 = d := by
  refine (reading store).bind (reading_splice ha hargs hfirst.head) fun spliced hspliced => ?_
  obtain ⟨more, hspliced⟩ := hspliced
  have harg : spliced.arg 0 = pure first := by
    unfold arg
    rw [hspliced]
    rfl
  rw [harg, pure_bind]
  exact (reading store).bind hfirst.run fun found hfound => (reading store).pure hfound

/-- A lookup comes to the row that the table has under the key. -/
theorem reading_get {source keyed : Argument} (options : Fields Json) {name : TableName}
    {table : Table} {key : Json} (hfound : store.table? name = some table)
    (hsource : ComesTo store source (.table name)) (hkeyed : ComesTo store keyed (.value key)) :
    (reading store).Holds (Call.run ⟨.get, [source, keyed], options⟩)
      (· = .row name (table.get key)) := by
  have hheads : ∀ arg ∈ [source, keyed], arg.head ≠ some .args :=
    List.forall_mem_cons.mpr ⟨hsource.head, List.forall_mem_singleton.mpr hkeyed.head⟩
  rw [run_eq_perform hheads]
  show (reading store).Holds (source.run >>= _) _
  refine (reading store).bind hsource.run fun d hd => ?_
  subst hd
  have hkey : (reading store).Holds keyed.value (· = key) :=
    (reading store).bind hkeyed.run fun d hd => hd ▸ (reading store).pure rfl
  show (reading store).Holds (keyed.value >>= fun v => Run.store >>= fun s =>
    liftM ((s.table name).map (·.get v)) >>= fun row? => pure (Datum.row name row?)) _
  refine (reading store).bind hkey fun v hv => ?_
  rw [view_eq]
  refine Reading.bind (Reading.table_eq name) fun found ht => (reading store).pure ?_
  cases hfound.symm.trans ht
  rw [hv]

end Call

/-! ### Replacing what a lookup finds -/

namespace Handle
variable {store : Store} {name : TableName} {table : Table} {key : Json}

/-- Read in a store, a handle comes to nothing but this datum, however deep calls nest. -/
def ComesTo (store : Store) (handle : Handle) (d : Datum) : Prop :=
  ∀ depth, Run.ComesTo store (handle.argument (Function.apply depth)) d

theorem comesTo_datum (store : Store) (v : Json) : (datum v).ComesTo store (.value v) :=
  fun _ => Run.comesTo_ofValue store v

theorem comesTo_table (store : Store) (name : TableName) :
    (Handle.call .table [database name.db, .datum (.string name.table)] []).ComesTo store
      (.table name) :=
  fun _ => ⟨nofun, Call.reading_table ⟨nofun, Call.reading_db store name.db⟩⟩

/-- A write of what a lookup finds comes to the row that the table has under the key. -/
theorem receiver_of_get (hfound : store.table? name = some table) {source keyed : Handle}
    (hsource : source.ComesTo store (.table name)) (hkeyed : keyed.ComesTo store (.value key))
    {op : Operation} {rest : List Handle} {getOptions options : Fields Json}
    (hargs : Policy.readOnly.AllowsAll (.call .get [source, keyed] getOptions :: rest))
    {context : Run.Context} {drawn : Nat} {receiver : Datum}
    (h : (made op (.call .get [source, keyed] getOptions :: rest) options).Receives context
      ⟨store, drawn⟩ receiver) : receiver = .row name (table.get key) := by
  obtain ⟨spliced, after, hreceived⟩ := h
  have ha := reading_made store op hargs options
  refine (Call.reading_receiver ha rfl ⟨nofun, ?_⟩).of_outcome hreceived
  exact Call.reading_get getOptions hfound (hsource _) (hkeyed _)

/-- A replacement of what a lookup by key finds fails and leaves the store alone, or it has
one effect. It touches no document with another key exactly if the effect fits the key. -/
theorem replace_touchesOnly_iff (hfound : store.table? name = some table)
    (hdistinct : table.KeysDistinct) {source keyed : Handle}
    (hsource : source.ComesTo store (.table name)) (hkeyed : keyed.ComesTo store (.value key))
    {rest : List Handle} (getOptions options : Fields Json)
    (hargs : Policy.readOnly.AllowsAll (.call .get [source, keyed] getOptions :: rest))
    (context : Run.Context) (drawn : Nat) :
    let args := Handle.call .get [source, keyed] getOptions :: rest
    let out := (Handle.call .replace args options).run.outcome context ⟨store, drawn⟩
    (∃ fault, out.1 = .error fault ∧ out.2.store = store) ∨
      ∃ (e : Effect) (after : Table),
        Effect.Of .replace table.primaryKey (table.get key) e ∧
        after = table.apply (table.writeOf? e).toList ∧
        out.1 = .ok (Call.summarize ((made .replace args options).flag "return_changes") [e]).toJson ∧
        out.2.store = store.setTable name after ∧
        (e.TouchesOnly key table after ↔ e.Fits key table) := by
  intro args out
  have hop : Call.writesRows .replace = true := rfl
  obtain ⟨fault, drawn', hout⟩ | ⟨w, receiver, drawn', hreceives, htargets, hout⟩ :=
    outcome_write hop hargs options context store drawn
  · have hout : out = (.error fault, ⟨store, drawn'⟩) := hout
    rw [hout]
    exact .inl ⟨fault, rfl, rfl⟩
  · have hout : out = (.ok _, ⟨w.after, drawn'⟩) := hout
    rw [hout]
    rw [receiver_of_get hfound hsource hkeyed hargs hreceives] at htargets
    obtain ⟨hname, hrows⟩ := htargets
    have htable : w.table = table := by
      have h := w.found
      rw [hname, hfound] at h
      exact (Option.some.inj h).symm
    have hsettled := w.settled
    rw [hrows, htable] at hsettled
    obtain ⟨e, more, he, hmore, heffects⟩ := List.forall₂_cons_left_iff.mp hsettled
    cases hmore
    have hafter : w.after = store.setTable name (table.apply (table.writeOf? e).toList) := by
      unfold RowWrite.after RowWrite.written
      rw [hname, htable, heffects]
      cases he' : table.writeOf? e <;> simp [he']
    exact .inr ⟨e, _, he, rfl, by rw [heffects], hafter, Effect.touchesOnly_iff hdistinct he⟩

/-- Replacing a row that is there, beside another one. -/
theorem replace_found_touchesOnly :
    let name : TableName := ⟨"test", "t"⟩
    let old := Json.object [("id", .ofNat 1), ("name", .string "a")]
    let other := Json.object [("id", .ofNat 2), ("name", .string "b")]
    let new := Json.object [("id", .ofNat 1), ("x", .ofNat 2)]
    let table : Table := { primaryKey := "id", documents := [old, other] }
    let store := Store.empty.setTable name table
    let source := Handle.call .table [database "test", .datum (.string "t")] []
    let args := [Handle.call .get [source, .datum (.ofNat 1)] [], .datum new]
    let out := (Handle.call .replace args []).run.outcome ⟨⟨0, 0, 0⟩, fun _ => 0⟩ ⟨store, 0⟩
    table.KeysDistinct ∧ out.1 = .ok (Summary.toJson { replaced := 1 }) ∧
      ∃ (e : Effect) (after : Table), out.2.store = store.setTable name after ∧
        e.TouchesOnly (.ofNat 1) table after ∧ other ∈ after.documents := by
  intro name old other new table store source args out
  have hfound : store.table? name = some table :=
    (Store.table?_setTable Store.empty name table name).trans (if_pos rfl)
  have hkeys : table.documents.map table.keyOf? = [.ofNat 1, .ofNat 2].map some := rfl
  have hkeyed : table.Keyed := .of_keys hkeys (by decide +kernel)
  have hargs : Policy.readOnly.AllowsAll args := by repeat constructor
  have hout : out.1 = .ok (Summary.toJson { replaced := 1 }) := by decide +kernel
  obtain ⟨fault, herror, -⟩ | ⟨e, after, he, -, -, hstore, hiff⟩ :=
    replace_touchesOnly_iff hfound hkeyed.distinct (comesTo_table store name)
      (comesTo_datum store (.ofNat 1)) [] [] hargs ⟨⟨0, 0, 0⟩, fun _ => 0⟩ 0
  · cases hout.symm.trans herror
  · have hget : table.get (.ofNat 1) = some old := by decide +kernel
    have hfits : e.Fits (.ofNat 1) table := by
      intro inserted hinserted
      rw [hget, hinserted] at he
      cases he.inserted
    have htouches : e.TouchesOnly (.ofNat 1) table after := hiff.mpr hfits
    have hother : table.hasKey (.ofNat 1) other = false := by decide +kernel
    have hkept : other ∈ after.documents :=
      htouches.kept other (List.mem_cons_of_mem _ (List.mem_singleton_self other)) hother
    have hafter : out.2.store = store.setTable name after := by rw [← hstore]
    exact ⟨hkeyed.distinct, hout, e, after, hafter, htouches, hkept⟩

/-- A document for a key that is missing takes the place of the one whose key it has. -/
theorem replace_missing_overwrites :
    let name : TableName := ⟨"test", "t"⟩
    let old := Json.object [("id", .ofNat 1), ("name", .string "a")]
    let new := Json.object [("id", .ofNat 1), ("x", .ofNat 2)]
    let table : Table := { primaryKey := "id", documents := [old] }
    let store := Store.empty.setTable name table
    let source := Handle.call .table [database "test", .datum (.string "t")] []
    let args := [Handle.call .get [source, .datum (.ofNat 99)] [], .datum new]
    let out := (Handle.call .replace args []).run.outcome ⟨⟨0, 0, 0⟩, fun _ => 0⟩ ⟨store, 0⟩
    ∃ after : Table, out.1 = .ok (Summary.toJson { inserted := 1 }) ∧
      out.2.store.table? name = some after ∧ table.KeysDistinct ∧
      old ∈ table.documents ∧ table.hasKey (.ofNat 99) old = false ∧ old ∉ after.documents := by
  intro name old new table store source args out
  refine ⟨{ primaryKey := "id", documents := [new] }, ?_, ?_, List.pairwise_singleton _ _, ?_, ?_, ?_⟩
  · decide +kernel
  · decide +kernel
  · exact List.mem_singleton_self old
  · decide +kernel
  · decide +kernel

end Handle

end DocQuery
