import DocQuery.Proofs.Run.Operand
import DocQuery.Proofs.Run.Outcome
import DocQuery.Run.Write

/-! Writes in a logic.

A write finds its effects as any operation finds its result. What becomes of the store is
for each logic to say. -/
namespace DocQuery

/-! ### Effects -/

/-- What an operation can do with a row, or with a row that is missing. -/
inductive Effect.Of (op : Operation) (primaryKey : String) : Option Json → Effect → Prop
  | deleted {old : Json} (h : op = .delete) : Of op primaryKey (some old) (.deleted old)
  | missing (h : op ≠ .replace) : Of op primaryKey none .skipped
  | settled {row? : Option Json} {old : Json} (computed : Json) (h : op ≠ .delete)
    (hold : row? = some old ∨ op = .replace ∧ row? = none ∧ old = .null) :
    Of op primaryKey row? (Call.settle op primaryKey old computed)
  | failed {row? : Option Json} (fault : Fault) : Of op primaryKey row? (.failed fault)

namespace Call
open Run

variable {L : Logic} {call : Call}

/-- An effect is worked out of the second argument alone. -/
theorem holds_effectOn (hchange : call.op ≠ .delete → L.Holds (call.arg 1) L.Argument)
    (primaryKey : String) (row? : Option Json) :
    L.Holds (call.effectOn primaryKey row?) (Effect.Of call.op primaryKey row?) := by
  unfold effectOn
  by_cases hdelete : call.op = .delete
  · rw [if_pos hdelete]
    refine L.pure ?_
    cases row? with
    | none => exact .missing (by rw [hdelete]; nofun)
    | some old => exact .deleted hdelete
  rw [if_neg hdelete]
  by_cases hreplace : call.op = .replace
  · have hold : row? = some (row?.getD .null) ∨
        call.op = .replace ∧ row? = none ∧ row?.getD .null = .null := by
      cases row? with
      | none => exact .inr ⟨hreplace, rfl, rfl⟩
      | some old => exact .inl rfl
    simp only [if_pos hreplace]
    refine L.bind (hchange hdelete) fun change hchange => ?_
    refine L.bind (Logic.counted (hchange.apply _)) fun result _ => ?_
    split
    · exact L.pure (.settled _ hdelete hold)
    · exact L.pure (.failed _)
  · simp only [if_neg hreplace]
    cases row? with
    | none => exact L.pure (.missing hreplace)
    | some old =>
      refine L.bind (hchange hdelete) fun change hchange => ?_
      refine L.bind (Logic.counted (hchange.apply _)) fun result _ => ?_
      split
      · exact L.pure (.settled _ hdelete (.inl rfl))
      · exact L.pure (.failed _)

theorem runs_effects (ha : L.Arguments call) (primaryKey : String) (rows : List (Option Json))
    (hn : call.op ≠ .delete → L.Supplied call 2 := by exact fun _ => Or.inl trivial) :
    L.Runs (rows.mapM (call.effectOn primaryKey)) :=
  Logic.runs_mapM fun row? _ =>
    Logic.runs (holds_effectOn (fun hdelete => ha.arg 1 (hn hdelete)) primaryKey row?)

/-! ### Writing -/

/-- The writes of a table, replayed on what the table is by then. -/
def replay (name : TableName) (writes : List Write) : Run Unit := do
  Run.setStore (← (← Run.store).apply name writes)

/-- The writes go to the table of the name, if there is one. -/
theorem outcome_replay (name : TableName) (writes : List Write) (context : Run.Context)
    (state : Run.State) :
    (replay name writes).outcome context state =
      match state.store.target name with
      | .ok table => (.ok (), { state with store := state.store.setTable name (table.apply writes) })
      | .error fault => (.error fault, state) := by
  unfold replay Store.apply
  rw [outcome_bind, outcome_store]
  dsimp only
  rw [outcome_bind, outcome_lift]
  cases state.store.target name <;> rfl

theorem holds_write {receiver : Datum} (ha : L.Arguments call) (hr : L.Datum receiver)
    (hreplay : ∀ name writes, L.Rows name [] → L.Runs (replay name writes))
    (hn : call.op ≠ .delete → L.Supplied call 2 := by exact fun _ => Or.inl trivial) :
    L.Holds (call.write receiver) L.Datum := by
  refine L.bind (Logic.targets hr) fun target htarget => ?_
  have hname : L.Rows target.1 [] := Logic.rows_nil htarget
  refine Logic.opened hname fun table _ => ?_
  refine L.bind (runs_effects ha table.primaryKey target.2 hn) fun effects _ => ?_
  have h : L.Holds (replay target.1 (effects.filterMap table.writeOf?) >>= fun _ =>
      pure (Datum.value (summarize (call.flag "return_changes") effects).toJson)) L.Datum :=
    L.bind (hreplay target.1 _ hname) fun _ _ => L.pure trivial
  simp only [replay, bind_assoc] at h
  exact h

/-! ### Inserting -/

/-- The insertion of documents, as the operation makes it. -/
def enter (name : TableName) (documents : List Json) (conflict : Conflict) (logged : Bool) :
    Run Datum := do
  let context ← read
  let s ← get
  let fresh (index : Nat) : String := Uuid.text (Uuid.ofRandom (context.random (s.drawn + index)))
  let (done, store) ← s.store.insert name documents conflict logged fresh
  set { s with store, drawn := s.drawn + done.drawn }
  return .value done.summary.toJson

/-- Documents are inserted into the table of the name, with keys drawn for those that have
none. -/
theorem outcome_enter (name : TableName) (documents : List Json) (conflict : Conflict)
    (logged : Bool) (context : Run.Context) (state : Run.State) :
    (enter name documents conflict logged).outcome context state =
      match state.store.target name with
      | .ok table =>
        let done := table.insert documents conflict logged fun index =>
          Uuid.text (Uuid.ofRandom (context.random (state.drawn + index)))
        (.ok (.value done.summary.toJson),
          { store := state.store.setTable name done.table, drawn := state.drawn + done.drawn })
      | .error fault => (.error fault, state) := by
  unfold enter Store.insert
  rw [outcome_bind, outcome_read]
  dsimp only
  rw [outcome_bind, outcome_get]
  dsimp only
  rw [outcome_bind, outcome_lift]
  cases state.store.target name <;> rfl

theorem operational_ofName (name : String) : Operational (Conflict.ofName name) := by
  unfold Conflict.ofName
  split
  · exact .ok _
  · exact .ok _
  · exact .ok _
  · exact FailsOnly.error_iff.mpr trivial

theorem operational_conflict (option : Json) :
    Operational (option.asString >>= Conflict.ofName) :=
  .bind (Json.operational_asString option) operational_ofName

/-- What an insertion is asked for: a table, documents, and a rule for taken keys. -/
def request (call : Call) (receiver : Datum) : Run (TableName × List Json × Conflict) := do
  let name ← receiver.asTable
  let documents ← match ← (← call.arg 1).value with
    | .array documents => pure documents
    | document => pure [document]
  let conflict ← match call.option? "conflict" with
    | some conflict => liftExcept (conflict.asString >>= Conflict.ofName)
    | none => pure .error
  return (name, documents, conflict)

/-- An insertion finds out what it is asked for before it touches the store. -/
theorem insert_eq (call : Call) (receiver : Datum) :
    call.insert receiver = (call.request receiver >>= fun asked =>
      enter asked.1 asked.2.1 asked.2.2 (call.flag "return_changes")) := by
  unfold insert request enter
  simp only [bind_assoc]
  refine congrArg (_ >>= ·) (funext fun name => congrArg (_ >>= ·) (funext fun arg => ?_))
  refine congrArg (_ >>= ·) (funext fun v => ?_)
  cases v <;> cases call.option? "conflict" <;> simp only [bind_assoc, pure_bind]

theorem holds_request {receiver : Datum} (ha : L.Arguments call) (hr : L.Datum receiver)
    (hn : L.Supplied call 2 := by exact Or.inl trivial) :
    L.Holds (call.request receiver) fun asked => L.Rows asked.1 [] := by
  refine L.bind (Logic.asTable hr) fun name hname => ha.value 1 hn fun v => ?_
  have hnamed : ∀ (documents : List Json) (option : Json), L.Holds (do
      let conflict ← liftExcept (option.asString >>= Conflict.ofName)
      return (name, documents, conflict)) fun asked => L.Rows asked.1 [] := fun documents option =>
    L.bind (Logic.runs_liftExcept (operational_conflict option)) fun _ _ => L.pure hname
  have hunnamed : ∀ documents : List Json, L.Holds (do
      let conflict ← (pure .error : Run Conflict)
      return (name, documents, conflict)) fun asked => L.Rows asked.1 [] := fun documents =>
    L.bind (Logic.runs_pure Conflict.error) fun _ _ => L.pure hname
  dsimp only
  split
  · refine L.bind (Logic.runs_pure _) fun documents _ => ?_
    split
    · exact hnamed documents _
    · exact hunnamed documents
  · refine L.bind (Logic.runs_pure _) fun documents _ => ?_
    split
    · exact hnamed documents _
    · exact hunnamed documents

theorem holds_insert {receiver : Datum} (ha : L.Arguments call) (hr : L.Datum receiver)
    (henter : ∀ name documents conflict logged, L.Rows name [] →
      L.Holds (enter name documents conflict logged) L.Datum)
    (hn : L.Supplied call 2 := by exact Or.inl trivial) :
    L.Holds (call.insert receiver) L.Datum := by
  rw [insert_eq]
  exact L.bind (holds_request ha hr hn) fun asked hname => henter _ _ _ _ hname

end Call

end DocQuery
