import DocQuery.Proofs.Query.Policy
import DocQuery.Proofs.Run.Outcome
import DocQuery.Proofs.Run.Write
import DocQuery.Proofs.Store.Lookup

/-! Pinned queries are isolated to one database.

Two runs of one query are followed at once, on stores that hold the same in the database
of the settings and may differ in all others. A pinned term names that database only, and
what a datum ties to the store is in it, so both runs read the same and write the same. -/
namespace DocQuery

/-! ### Stores side by side -/

namespace Store
variable {db : String} {s t u : Store}

/-- Both stores lack the database, or both hold the same tables in it. -/
def AgreeOn (db : String) (s t : Store) : Prop :=
  s.hasDatabase db = t.hasDatabase db ∧ ∀ table, s.table? ⟨db, table⟩ = t.table? ⟨db, table⟩

/-- Every other database is as it was. -/
def KeptOff (db : String) (before after : Store) : Prop :=
  ∀ other, other ≠ db → after.databases.get? other = before.databases.get? other

namespace AgreeOn

theorem table? (h : s.AgreeOn db t) {name : TableName} (hname : name.db = db) :
    s.table? name = t.table? name := by
  obtain ⟨_, table⟩ := name
  subst hname
  exact h.2 table

theorem table (h : s.AgreeOn db t) {name : TableName} (hname : name.db = db) :
    s.table name = t.table name := by
  rw [table_eq, table_eq, h.table? hname, hname, h.1]

theorem target (h : s.AgreeOn db t) {name : TableName} (hname : name.db = db) :
    s.target name = t.target name := by
  unfold Store.target
  rw [h.table? hname]

/-- The same table put into both keeps them alike. -/
theorem setTable (h : s.AgreeOn db t) {name : TableName} (hname : name.db = db)
    (table : DocQuery.Table) : (s.setTable name table).AgreeOn db (t.setTable name table) := by
  refine ⟨?_, fun other => ?_⟩
  · subst hname
    rw [hasDatabase_setTable, hasDatabase_setTable]
  · rw [table?_setTable, table?_setTable, h.2 other]

end AgreeOn

/-- A table put into another database is not seen. -/
theorem agreeOn_setTable (s : Store) {name : TableName} (hname : name.db ≠ db) (table : Table) :
    s.AgreeOn db (s.setTable name table) := by
  refine ⟨?_, fun other => ?_⟩
  · unfold hasDatabase Fields.has
    rw [get?_setTable s name table hname.symm]
  · rw [table?_setTable, if_neg fun h => hname (congrArg TableName.db h).symm]

namespace KeptOff

theorem refl (db : String) (s : Store) : s.KeptOff db s := fun _ _ => rfl

theorem trans (h : s.KeptOff db t) (h' : t.KeptOff db u) : s.KeptOff db u :=
  fun other hne => (h' other hne).trans (h other hne)

theorem setTable (s : Store) {name : TableName} (hname : name.db = db) (table : Table) :
    s.KeptOff db (s.setTable name table) :=
  fun _ hne => get?_setTable s name table (hname ▸ hne)

end KeptOff

end Store

/-! ### Runs side by side -/

namespace Run
variable {α β : Type} {db : String} {P : α → Prop} {Q : β → Prop}

/-- Two states after two others: the stores agree on the database again, as many random
numbers were drawn, and all other databases are as they were. -/
structure Isolated.Step (db : String) (s t s' t' : State) : Prop where
  drawn : s'.drawn = t'.drawn
  agree : s'.store.AgreeOn db t'.store
  left : s.store.KeptOff db s'.store
  right : t.store.KeptOff db t'.store

/-- From states that agree on the database, a run ends as the same in both. -/
def Isolated (db : String) (x : Run α) (P : α → Prop) : Prop :=
  ∀ context s t, s.drawn = t.drawn → s.store.AgreeOn db t.store →
    ∃ result s' t', x.outcome context s = (result, s') ∧ x.outcome context t = (result, t') ∧
      Isolated.Step db s t s' t' ∧ ∀ a, result = .ok a → P a

namespace Isolated

theorem Step.refl {s t : State} (hd : s.drawn = t.drawn) (h : s.store.AgreeOn db t.store) :
    Step db s t s t :=
  ⟨hd, h, .refl db s.store, .refl db t.store⟩

theorem Step.trans {s t s' t' s'' t'' : State} (h : Step db s t s' t')
    (h' : Step db s' t' s'' t'') : Step db s t s'' t'' :=
  ⟨h'.drawn, h'.agree, h.left.trans h'.left, h.right.trans h'.right⟩

/-- A run that leaves the state alone and ends as something that both states give. -/
theorem of_read {x : Run α} (r : Context → State → Except Fault α)
    (hx : ∀ context s, x.outcome context s = (r context s, s))
    (hsame : ∀ context s t, s.drawn = t.drawn → s.store.AgreeOn db t.store →
      r context s = r context t)
    (hP : ∀ context s a, r context s = .ok a → P a) : Isolated db x P := by
  intro context s t hd hs
  refine ⟨r context s, s, t, hx context s, ?_, .refl hd hs, hP context s⟩
  rw [hx, hsame context s t hd hs]

theorem bind {x : Run α} {f : α → Run β} (hx : Isolated db x P)
    (hf : ∀ a, P a → Isolated db (f a) Q) : Isolated db (x >>= f) Q := by
  intro context s t hd hs
  obtain ⟨result, s', t', hs', ht', hstep, hP⟩ := hx context s t hd hs
  simp only [outcome_bind, hs', ht']
  cases result with
  | error fault => exact ⟨.error fault, s', t', rfl, rfl, hstep, fun b hb => by cases hb⟩
  | ok a =>
    obtain ⟨result, s'', t'', hs'', ht'', hstep', hQ⟩ :=
      hf a (hP a rfl) context s' t' hstep.drawn hstep.agree
    exact ⟨result, s'', t'', hs'', ht'', hstep.trans hstep', hQ⟩

theorem caught {x : Run α} (catches : Fault → Bool) (hx : Isolated db x P) :
    Isolated db (Run.caught catches x) fun result => ∀ a, result = .ok a → P a := by
  intro context s t hd hs
  obtain ⟨result, s', t', hs', ht', hstep, hP⟩ := hx context s t hd hs
  simp only [outcome_caught, hs', ht']
  cases result with
  | ok a =>
    refine ⟨.ok (.ok a), s', t', rfl, rfl, hstep, fun result hr => ?_⟩
    cases hr
    exact hP
  | error fault =>
    by_cases h : catches fault
    · refine ⟨.ok (.error fault), s', t', by simp [h], by simp [h], hstep, fun result hr => ?_⟩
      cases hr
      exact fun a ha => by cases ha
    · exact ⟨.error fault, s', t', by simp [h], by simp [h], hstep, fun a ha => by cases ha⟩

theorem draw : Isolated db Run.draw fun _ => True := by
  intro context s t hd hs
  refine ⟨.ok (context.random s.drawn), { s with drawn := s.drawn + 1 },
    { t with drawn := t.drawn + 1 }, rfl, ?_, ⟨congrArg (· + 1) hd, hs, .refl db _, .refl db _⟩,
    fun _ _ => trivial⟩
  rw [outcome_draw, hd]

theorem table {name : TableName} (hname : name.db = db) :
    Isolated db (Run.table name) fun _ => name.db = db := by
  refine of_read (fun _ s => s.store.table name) (fun context s => ?_)
    (fun _ _ _ _ hs => hs.table hname) fun _ _ _ _ => hname
  unfold Run.table
  rw [outcome_bind, outcome_store]
  exact outcome_lift context s _

/-- A database that both states have or lack is found in both or in neither. -/
theorem named : Isolated db (Call.named db) fun d => d = .database db := by
  refine of_read
    (fun _ s => if s.store.hasDatabase db then .ok (.database db) else .error (.noDatabase db))
    (fun context s => ?_) (fun _ s t _ hs => ?_) fun _ s d hd => ?_
  · unfold Call.named
    rw [outcome_bind, outcome_store]
    dsimp only
    split <;> rfl
  · rw [hs.1]
  · split at hd
    · exact (Except.ok.inj hd).symm
    · cases hd

/-! ### Writes -/

theorem replay {name : TableName} (hname : name.db = db) (writes : List Write) :
    Isolated db (Call.replay name writes) fun _ => True := by
  intro context s t hd hs
  rw [Call.outcome_replay, Call.outcome_replay, hs.target hname]
  cases t.store.target name with
  | error fault => exact ⟨_, s, t, rfl, rfl, .refl hd hs, fun _ h => by cases h⟩
  | ok table =>
    refine ⟨_, _, _, rfl, rfl, ⟨hd, hs.setTable hname _, ?_, ?_⟩, fun _ _ => trivial⟩
    · exact .setTable s.store hname _
    · exact .setTable t.store hname _

theorem enter {name : TableName} (hname : name.db = db) (documents : List Json)
    (conflict : Conflict) (logged : Bool) :
    Isolated db (Call.enter name documents conflict logged) fun d => ∃ v, d = .value v := by
  intro context s t hd hs
  rw [Call.outcome_enter, Call.outcome_enter, hs.target hname, hd]
  cases t.store.target name with
  | error fault => exact ⟨_, s, t, rfl, rfl, .refl hd hs, fun _ h => by cases h⟩
  | ok table =>
    refine ⟨_, _, _, rfl, rfl, ⟨rfl, hs.setTable hname _, ?_, ?_⟩, fun d hd => ⟨_, (Except.ok.inj hd).symm⟩⟩
    · exact .setTable s.store hname _
    · exact .setTable t.store hname _

end Isolated

/-- Data is tied to the one database, and runs do not tell two states apart that agree on
it. -/
def isolated (db : String) : Logic where
  Holds := Isolated db
  Faults _ := True
  operational _ _ := trivial
  Database name := name = db
  Rows name _ := name.db = db
  rows_subset h _ := h
  pure {_ P a} ha := Isolated.of_read (fun _ _ => .ok a) (fun _ _ => rfl) (fun _ _ _ _ _ => rfl)
    fun _ _ _ h => Except.ok.inj h ▸ ha
  bind := Isolated.bind
  fail {_ _ fault} _ := Isolated.of_read (fun _ _ => .error fault) (fun _ _ => rfl)
    (fun _ _ _ _ _ => rfl) fun _ _ _ h => by cases h
  caught := Isolated.caught
  context _ := Isolated.of_read (fun context _ => .ok context) (fun _ _ => rfl)
    (fun _ _ _ _ _ => rfl) fun _ _ _ _ => trivial
  draw _ := Isolated.draw
  table := Isolated.table

end Run

/-! ### Pinned terms -/

namespace Policy

/-- The settings of a pinned database. -/
def pinnedTo (db : String) : Settings := { database := db, pinned := true }

/-- Calls name no other database, and functions keep it pinned. -/
def pinned (db : String) : Policy where
  Calls op args := op = .db → args = [.datum (.string db)]
  Functions f := f.settings = pinnedTo db

/-- Pinned settings admit any term. -/
theorem pinned_admits (db : String) : (pinned db).Admits (pinnedTo db) fun _ => True where
  below _ _ _ _ := trivial
  call _ _ _ _ _ hne _ hdb := absurd hdb hne
  database _ := rfl
  unpinned h := by cases h
  function _ _ _ _ _ _ _ _ := rfl

theorem isolated_database (db : String) (call : Function → List Json → Run Json)
    (options : Fields Json) :
    (Run.isolated db).Holds
      (Call.run ⟨.db, Handle.arguments call [.datum (.string db)], options⟩)
      (Run.isolated db).Datum :=
  Run.Logic.mono Run.Isolated.named fun _ hd => hd ▸ rfl

theorem pinned_sound (db : String) : (pinned db).Sound (Run.isolated db) where
  run call op args options hcall hargs := by
    by_cases hop : op = .db
    · subst hop
      rw [hcall rfl]
      exact isolated_database db call options
    · refine Call.holds_run hargs hop fun spliced ha _ _ receiver hr => ?_
      refine Call.holds_dispatch ha hr (fun _ => ?_) (fun _ => ?_) fun _ => ?_
      · exact Call.holds_table ha hr fun _ _ h => h
      · exact Call.holds_insert ha hr fun name documents conflict logged hname =>
          Run.Logic.mono (Run.Isolated.enter hname documents conflict logged) fun d hd => by
            obtain ⟨v, rfl⟩ := hd
            trivial
      · exact Call.holds_write ha hr fun name writes hname => Run.Isolated.replay hname writes
  body f args handle hf h := by
    have hadmits : (pinned db).Admits f.settings fun _ => True := hf ▸ pinned_admits db
    exact Admits.call_means f hadmits trivial h
  fails _ _ _ _ _ := trivial

end Policy

/-! ### Queries -/

namespace Query

/-- A query of any term, pinned to a database. -/
def pinned (db : String) (term : Json) : Query := ⟨term, Policy.pinnedTo db⟩

/-- On stores that agree on its database, a pinned query has the same outcome; the stores
agree on the database afterwards, and keep all other databases as they were. -/
theorem run_pinned (db : String) (term : Json) (context : Run.Context) (drawn : Nat)
    (s t : Store) (h : s.AgreeOn db t) :
    let left := (pinned db term).run context ⟨s, drawn⟩
    let right := (pinned db term).run context ⟨t, drawn⟩
    left.1 = right.1 ∧ left.2.store.AgreeOn db right.2.store ∧
      s.KeptOff db left.2.store ∧ t.KeptOff db right.2.store := by
  have hrun : Run.Isolated db (pinned db term).whole fun _ => True :=
    (Policy.pinned_sound db).query (Policy.pinned_admits db) trivial
  obtain ⟨result, s', t', hs', ht', hstep, -⟩ := hrun context ⟨s, drawn⟩ ⟨t, drawn⟩ rfl h
  intro left right
  have hleft : left = (result, s') := (run_eq _ _ _).trans hs'
  have hright : right = (result, t') := (run_eq _ _ _).trans ht'
  rw [hleft, hright]
  exact ⟨rfl, hstep.agree, hstep.left, hstep.right⟩

/-- A term that asks for another database, which one of the stores has: the name is not
looked at. -/
theorem run_pinned_beside_other :
    let s := Store.empty.createTable ⟨"test", "t"⟩ "id"
    let t := s.createTable ⟨"other", "t"⟩ "name"
    let query := pinned "test" (.array (Handle.node .table
      [.array (Handle.node .db [.string "other"]), .string "t"]))
    let context : Run.Context := ⟨⟨0, 0, 0⟩, fun _ => 0⟩
    s.AgreeOn "test" t ∧ (query.run context ⟨s, 0⟩).1 = (query.run context ⟨t, 0⟩).1 := by
  intro s t query context
  have h : s.AgreeOn "test" t := Store.agreeOn_setTable s (by decide) _
  exact ⟨h, (run_pinned "test" _ context 0 s t h).1⟩

end Query

end DocQuery
