import DocQuery.Proofs.Steady
import DocQuery.Proofs.Write.Single

/-! What a write does, exactly.

Naming a table that is there and looking up a row of it cannot fail. If the change is steady
as well, the effect on a row is the same whenever it is worked out, and so is the
effect on a row that was looked up when all rows were to be written. -/
namespace DocQuery

/-! ### Runs that come to a result -/

namespace Run
variable {α β : Type} {store : Store}

/-- In a store, the run has this result in any context, and changes nothing. -/
def Gives (store : Store) (x : Run α) (a : α) : Prop :=
  ∀ context drawn, x.outcome context ⟨store, drawn⟩ = (.ok a, ⟨store, drawn⟩)

namespace Gives

theorem pure (a : α) : Gives store (Pure.pure a) a := fun _ _ => rfl

theorem outcome_bind {x : Run α} {a : α} (hx : Gives store x a) (f : α → Run β)
    (context : Context) (drawn : Nat) :
    (x >>= f).outcome context ⟨store, drawn⟩ = (f a).outcome context ⟨store, drawn⟩ := by
  rw [Run.outcome_bind, hx]

theorem bind {x : Run α} {f : α → Run β} {a : α} {b : β} (hx : Gives store x a)
    (hf : Gives store (f a) b) : Gives store (x >>= f) b := fun context drawn =>
  (hx.outcome_bind f context drawn).trans (hf context drawn)

theorem table {name : TableName} {table : Table} (h : store.table? name = some table) :
    Gives store (Run.table name) table := by
  intro context drawn
  unfold Run.table
  rw [Run.outcome_bind, outcome_store]
  dsimp only
  rw [Store.table_eq_ok.mpr h, outcome_lift]

/-- A view of a table that is there is had. -/
theorem view {name : TableName} {table : Table} (h : store.table? name = some table)
    {f : Table → α} {k : α → Run β} {b : β} (hk : Gives store (k (f table)) b) :
    Gives store (Run.store >>= fun s => liftM ((s.table name).map f) >>= k) b := by
  rw [view_eq]
  exact bind (Gives.table h) hk

end Gives

end Run

/-! ### Tables and rows that are named -/

namespace Call
open Run
variable {store : Store} {name : TableName} {table : Table}

theorem gives_db (h : store.table? name = some table) :
    Gives store (Call.run ⟨.db, [.ofValue (.string name.db)], []⟩) (.database name.db) := by
  have hdb : store.hasDatabase name.db = true := Store.hasDatabase_of_table h
  rw [run_eq_perform (List.forall_mem_singleton.mpr nofun)]
  intro context drawn
  show (named name.db).outcome context ⟨store, drawn⟩ = _
  unfold named
  rw [Run.outcome_bind, outcome_store]
  dsimp only
  rw [hdb]
  rfl

theorem gives_table (h : store.table? name = some table) {source : Argument}
    (hhead : source.head ≠ some .args) (hsource : Gives store source.run (.database name.db))
    (options : Fields Json) :
    Gives store (Call.run ⟨.table, [source, .ofValue (.string name.table)], options⟩)
      (.table name) := by
  have hheads : ∀ arg ∈ [source, .ofValue (.string name.table)], arg.head ≠ some .args :=
    List.forall_mem_cons.mpr ⟨hhead, List.forall_mem_singleton.mpr nofun⟩
  rw [run_eq_perform hheads]
  show Gives store (source.run >>= _) _
  refine hsource.bind ?_
  show Gives store (Run.store >>= fun s => liftM (s.table name) >>= fun _ =>
    pure (Datum.table name)) _
  rw [← bind_assoc]
  exact (Gives.table h).bind (Gives.pure _)

theorem gives_get (h : store.table? name = some table) {source : Argument}
    (hhead : source.head ≠ some .args) (hsource : Gives store source.run (.table name))
    (key : Json) :
    Gives store (Call.run ⟨.get, [source, .ofValue key], []⟩) (.row name (table.get key)) := by
  have hheads : ∀ arg ∈ [source, .ofValue key], arg.head ≠ some .args :=
    List.forall_mem_cons.mpr ⟨hhead, List.forall_mem_singleton.mpr nofun⟩
  rw [run_eq_perform hheads]
  show Gives store (source.run >>= _) _
  refine hsource.bind ?_
  show Gives store (Run.store >>= fun s => liftM ((s.table name).map (·.get key)) >>= fun row? =>
    pure (Datum.row name row?)) _
  exact Gives.view h (Gives.pure _)

end Call

/-! ### Effects that do not vary -/

namespace Run
variable {α β : Type} {databases : String → Bool} {P : α → Prop}

/-- What a steady run comes to is what it comes to in every state. -/
theorem Steady.known {x : Run α} (hx : Steady databases x P) :
    Steady databases x fun a => Ends databases x (.ok a) ∧ P a := by
  obtain ⟨result, hx, hP⟩ := hx
  exact ⟨result, hx, fun a ha => ⟨ha ▸ hx, hP a ha⟩⟩

theorem ends_mapM {f : α → Run β} {xs : List α} {ys : List β}
    (h : List.Forall₂ (fun x y => Ends databases (f x) (.ok y)) xs ys) :
    Ends databases (xs.mapM f) (.ok ys) := fun context state hstate =>
  outcome_mapM (h.imp fun _ _ hy => hy context state hstate)

end Run

namespace Call
open Run
variable {databases : String → Bool} {op : Operation} {changes : List Argument}

/-- A write with these arguments after a receiver that does not matter. -/
def ofChanges (op : Operation) (changes : List Argument) : Call :=
  ⟨op, .ofValue .null :: changes, []⟩

/-- With these arguments after the receiver, the write has this effect on a row, in every
state with these databases. -/
structure Affects (databases : String → Bool) (op : Operation) (changes : List Argument)
    (primaryKey : String) (row? : Option Json) (e : Effect) : Prop where
  ends : Ends databases ((ofChanges op changes).effectOn primaryKey row?) (.ok e)
  of : Effect.Of op primaryKey row? e

theorem steady_effectOn (hchanges : ∀ arg ∈ changes, (steady databases).Argument arg)
    (primaryKey : String) (row? : Option Json) :
    (steady databases).Holds ((ofChanges op changes).effectOn primaryKey row?)
      (Affects databases op changes primaryKey row?) := by
  have hchange : (steady databases).Holds ((ofChanges op changes).arg 1)
      (steady databases).Argument := by
    unfold arg
    split
    · next found hfound =>
      exact (steady databases).pure (hchanges found (List.mem_of_getElem? hfound))
    · exact Logic.lack trivial _ trivial
  exact Logic.mono (Steady.known (holds_effectOn (fun _ => hchange) primaryKey row?)) fun e he =>
    ⟨he.1, he.2⟩

/-- The options ask for a log of the changes. -/
def logs (options : Fields Json) : Bool := (Fields.get? options "return_changes").any Json.truthy

/-- In a store, a write with this receiver and these changes goes to rows of a table. -/
structure GoesTo (store : Store) (op : Operation) (first : Argument) (changes : List Argument)
    (name : TableName) (table : Table) (rows : List (Option Json)) : Prop where
  writes : writesRows op = true
  heads : ∀ arg ∈ first :: changes, arg.head ≠ some .args
  targets : ∃ d, Gives store first.run d ∧ Gives store d.targets (name, rows)
  found : store.table? name = some table

namespace GoesTo
variable {store : Store} {name : TableName} {table : Table} {first : Argument}
  {rows : List (Option Json)}

/-- A write whose rows are known works out the effects on them and replays these. -/
theorem outcome (h : GoesTo store op first changes name table rows) (options : Fields Json)
    (context : Run.Context) (drawn : Nat) :
    (Call.run ⟨op, first :: changes, options⟩).outcome context ⟨store, drawn⟩ =
      (do
        let effects ← rows.mapM ((ofChanges op changes).effectOn table.primaryKey)
        replay name (effects.filterMap table.writeOf?)
        return Datum.value (summarize (logs options) effects).toJson).outcome context
          ⟨store, drawn⟩ := by
  obtain ⟨d, hfirst, htargets⟩ := h.targets
  have hwrites : op.writes = true := by rw [Operation.writes, h.writes, Bool.or_true]
  rw [run_eq_perform h.heads, perform_of_writes hwrites]
  show (first.run >>= _).outcome context ⟨store, drawn⟩ = _
  rw [hfirst.outcome_bind, dispatch_of_writesRows h.writes, write_eq]
  unfold plan
  simp only [bind_assoc, pure_bind]
  rw [htargets.outcome_bind]
  dsimp only
  rw [← bind_assoc]
  -- An effect is worked out of the changes alone, whatever the receiver and the options are.
  exact (Gives.table h.found).outcome_bind _ context drawn

/-- A write with effects that do not vary has these effects. -/
theorem outcome_affected (h : GoesTo store op first changes name table rows)
    {effects : List Effect}
    (heffects : List.Forall₂ (Affects databases op changes table.primaryKey) rows effects)
    (options : Fields Json) (context : Run.Context) {drawn : Nat}
    (hstate : State.Has databases ⟨store, drawn⟩) :
    (Call.run ⟨op, first :: changes, options⟩).outcome context ⟨store, drawn⟩ =
      (.ok (.value (summarize (logs options) effects).toJson),
        ⟨store.setTable name (table.apply (effects.filterMap table.writeOf?)), drawn⟩) := by
  have hends := ends_mapM (heffects.imp fun row e he => he.ends)
  rw [h.outcome, outcome_bind, hends context _ hstate]
  dsimp only
  rw [outcome_bind, outcome_replay, Store.target_eq_ok.mpr h.found]
  rfl

/-- A write with steady changes fails, or it has effects that do not vary. -/
theorem outcome_cases (h : GoesTo store op first changes name table rows)
    (hchanges : ∀ arg ∈ changes, (steady databases).Argument arg) (options : Fields Json)
    (context : Run.Context) {drawn : Nat} (hstate : State.Has databases ⟨store, drawn⟩) :
    (∃ fault, (Call.run ⟨op, first :: changes, options⟩).outcome context ⟨store, drawn⟩ =
      (.error fault, ⟨store, drawn⟩)) ∨
    ∃ effects, List.Forall₂ (Affects databases op changes table.primaryKey) rows effects ∧
      (Call.run ⟨op, first :: changes, options⟩).outcome context ⟨store, drawn⟩ =
        (.ok (.value (summarize (logs options) effects).toJson),
          ⟨store.setTable name (table.apply (effects.filterMap table.writeOf?)), drawn⟩) := by
  obtain ⟨worked, hends, heffects⟩ :=
    holds_mapM (steady_effectOn hchanges table.primaryKey) rows
  cases worked with
  | ok effects =>
    have heffects := heffects effects rfl
    exact .inr ⟨effects, heffects, h.outcome_affected heffects options context hstate⟩
  | error fault =>
    refine .inl ⟨fault, ?_⟩
    rw [h.outcome, outcome_bind, hends context _ hstate]

end GoesTo

end Call

/-! ### Handles -/

namespace Handle
open Run
variable {databases : String → Bool} {store : Store} {name : TableName} {table : Table}
  {call : Function → List Json → Run Json}

/-- The handle of a table in its database. -/
def ofTable (name : TableName) (options : Fields Json) : Handle :=
  .call .table [database name.db, .datum (.string name.table)] options

/-- The handle of what a table has under a key. -/
def lookup (name : TableName) (options : Fields Json) (key : Json) : Handle :=
  .call .get [ofTable name options, .datum key] []

theorem gives_ofTable (h : store.table? name = some table) (options : Fields Json) :
    Gives store ((ofTable name options).argument call).run (.table name) :=
  Call.gives_table h (by nofun) (Call.gives_db h) options

theorem gives_lookup (h : store.table? name = some table) (options : Fields Json) (key : Json) :
    Gives store ((lookup name options key).argument call).run (.row name (table.get key)) :=
  Call.gives_get h (by nofun) (gives_ofTable h options) key

/-- A receiver that makes no function does not change how deep calls may nest. -/
theorem made_cons {first : Handle} (hdepth : first.callDepth = 0) (op : Operation)
    (rest : List Handle) (options : Fields Json) :
    made op (first :: rest) options =
      ⟨op, first.argument (Function.apply (callDepthOfAll rest)) ::
        arguments (Function.apply (callDepthOfAll rest)) rest, options⟩ := by
  unfold made
  rw [callDepthOfAll, hdepth, Nat.zero_max]
  rfl

/-- The changes that a write makes of the handles after its receiver. -/
def changes (rest : List Handle) : List Argument :=
  arguments (Function.apply (callDepthOfAll rest)) rest

theorem steady_changes (databases : String → Bool) {rest : List Handle}
    (hrest : (Policy.avoiding Operation.unsteady).AllowsAll rest) :
    ∀ arg ∈ changes rest, (steady databases).Argument arg :=
  have hs := Policy.steady_sound databases
  hs.arguments (fun f hf => hs.apply _ f hf trivial) rest hrest

section Writing
variable {op : Operation} {rest : List Handle}

/-- The write of a table goes to all of its rows. -/
theorem goesTo_table (call : Function → List Json → Run Json)
    (hop : Call.writesRows op = true)
    (hheads : ∀ arg ∈ changes rest, arg.head ≠ some .args)
    (htable : store.table? name = some table) (options : Fields Json) :
    Call.GoesTo store op ((ofTable name options).argument call) (changes rest) name table
      (table.documents.map some) where
  writes := hop
  heads := List.forall_mem_cons.mpr ⟨by nofun, hheads⟩
  targets := ⟨.table name, gives_ofTable htable options, Gives.view htable (Gives.pure _)⟩
  found := htable

/-- The write of what is found under a key goes to this row. -/
theorem goesTo_lookup (call : Function → List Json → Run Json)
    (hop : Call.writesRows op = true)
    (hheads : ∀ arg ∈ changes rest, arg.head ≠ some .args)
    (htable : store.table? name = some table) (options : Fields Json) (key : Json) :
    Call.GoesTo store op ((lookup name options key).argument call) (changes rest) name table
      [table.get key] where
  writes := hop
  heads := List.forall_mem_cons.mpr ⟨by nofun, hheads⟩
  targets := ⟨.row name (table.get key), gives_lookup htable options key, Gives.pure _⟩
  found := htable

end Writing

end Handle

end DocQuery
