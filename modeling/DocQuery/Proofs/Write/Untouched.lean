import DocQuery.Proofs.Query.Avoids
import DocQuery.Proofs.Write.Rows

/-! Queries that leave the store as it is.

A query whose term names no write leaves the store alone, whatever it ends as. A query that
writes at its root, and nowhere below, leaves the store alone if it fails: all that can
fail has been done by the time the store is changed (`Run.Atomic`), so that no write is
undone and none is left half done. -/
namespace DocQuery

/-! ### All or nothing -/

namespace Run
variable {α β : Type} {store : Store} {P : α → Prop} {Q : β → Prop}

/-- From a store, a run fails and leaves the store as it is, or it has a result as the
predicate says. -/
def Atomic (store : Store) (x : Run α) (P : α → Prop) : Prop :=
  ∀ context drawn,
    (∃ fault drawn', x.outcome context ⟨store, drawn⟩ = (.error fault, ⟨store, drawn'⟩)) ∨
    ∃ a after, x.outcome context ⟨store, drawn⟩ = (.ok a, after) ∧ P a

namespace Atomic

/-- What is read first may fail. -/
theorem after_reading {x : Run α} {f : α → Run β} (hx : Reading store x P)
    (hf : ∀ a, P a → Atomic store (f a) Q) : Atomic store (x >>= f) Q := by
  intro context drawn
  obtain ⟨result, drawn', hx, hP⟩ := hx context drawn
  rw [outcome_bind, hx]
  cases result with
  | error fault => exact .inl ⟨fault, drawn', rfl⟩
  | ok a => exact hf a (hP a rfl) context drawn'

/-- What is done last may not fail. -/
theorem before_pure {x : Run α} {f : α → Run β} (hx : Atomic store x P)
    (hf : ∀ a, P a → ∃ b, f a = pure b) : Atomic store (x >>= f) fun _ => True := by
  intro context drawn
  rw [outcome_bind]
  obtain ⟨fault, drawn', hx⟩ | ⟨a, after, hx, ha⟩ := hx context drawn
  · exact .inl ⟨fault, drawn', by rw [hx]⟩
  · obtain ⟨b, hb⟩ := hf a ha
    exact .inr ⟨b, after, by rw [hx]; dsimp only; rw [hb]; rfl, trivial⟩

theorem store_eq {x : Run α} (hx : Atomic store x P) {context : Context} {drawn : Nat}
    {fault : Fault} (h : (x.outcome context ⟨store, drawn⟩).1 = .error fault) :
    (x.outcome context ⟨store, drawn⟩).2.store = store := by
  obtain ⟨fault, drawn', hx⟩ | ⟨a, after, hx, -⟩ := hx context drawn
  · rw [hx]
  · rw [hx] at h
    cases h

end Atomic

end Run

/-! ### Writes -/

namespace Call
open Run

variable {store : Store} {call : Call} {receiver : Datum}

/-- What a write answers with. -/
def Answers (d : Datum) : Prop := ∃ v, d = .value v

theorem atomic_write (ha : (reading store).Arguments call) (hr : (reading store).Datum receiver) :
    Atomic store (call.write receiver) Answers := by
  intro context drawn
  obtain ⟨fault, drawn', h⟩ | ⟨w, drawn', -, h⟩ := outcome_write ha hr context drawn
  · exact .inl ⟨fault, drawn', h⟩
  · exact .inr ⟨_, _, h, _, rfl⟩

theorem atomic_enter (name : TableName) (documents : List Json) (conflict : Conflict)
    (logged : Bool) : Atomic store (enter name documents conflict logged) Answers := by
  intro context drawn
  rw [outcome_enter]
  cases store.target name with
  | error fault => exact .inl ⟨fault, drawn, rfl⟩
  | ok table => exact .inr ⟨_, _, rfl, _, rfl⟩

theorem atomic_insert (ha : (reading store).Arguments call)
    (hr : (reading store).Datum receiver) : Atomic store (call.insert receiver) Answers := by
  rw [insert_eq]
  exact Atomic.after_reading (holds_request ha hr) fun _ _ => atomic_enter _ _ _ _

/-- A write whose arguments only read changes the store last. -/
theorem atomic_run (hop : call.op.writes = true) (ha : (reading store).Arguments call) :
    Atomic store call.run Answers := by
  rw [run_of_writes hop]
  refine Atomic.after_reading (reading_received ha) fun p hp => ?_
  obtain ⟨hargs, hsame, -, hr⟩ := hp
  rw [Operation.writes, ← hsame, Bool.or_eq_true] at hop
  rcases hop with hinsert | hrows
  · have hdispatch : p.1.dispatch p.2 = p.1.insert p.2 := by
      rw [Call.dispatch, eq_of_beq hinsert]
    rw [hdispatch]
    exact atomic_insert hargs hr
  · rw [dispatch_of_writesRows hrows]
    exact atomic_write hargs hr

end Call

theorem Handle.atomic_run {store : Store} {op : Operation} (hop : op.writes = true)
    {args : List Handle} (hargs : Policy.readOnly.AllowsAll args) (options : Fields Json) :
    Run.Atomic store (Handle.call op args options).run fun _ => True := by
  rw [run_call]
  refine (Call.atomic_run hop (reading_made store op hargs options)).before_pure fun d hd => ?_
  obtain ⟨v, rfl⟩ := hd
  exact ⟨v, rfl⟩

/-! ### Queries -/

/-- The handle of an operation that takes options is a call of it. -/
theorem Policy.Admits.keyed {p : Policy} {settings : Settings} {T : Json → Prop}
    (hp : p.Admits settings T) {items : List Json} {op : Operation}
    (hop : items.head?.bind Operation.ofHead? = some op) (hrule : op.consumption = .keyed)
    (hbelow : ∀ term ∈ subterms items, T term) {handle : Handle}
    (h : build settings (.array items) = .ok handle) :
    ∃ args options, handle = .call op args options ∧ p.AllowsAll args := by
  rw [build, evaluate_array, Evaluation.assemble_eq] at h
  obtain ⟨operator, hoperator, h⟩ := bind_eq_ok h
  obtain ⟨-, -, h⟩ := bind_eq_ok h
  have hsame : operator.operation = op :=
    Option.some.inj ((ofItems_eq_ok hoperator).1.symm.trans hop)
  simp only [Evaluation.consume, hsame, hrule] at h
  obtain ⟨args, hargs, h⟩ := bind_eq_ok h
  have hspecial : operator.operation.consumption ≠ .special := by
    rw [hsame, hrule]
    nofun
  have hallowed : p.AllowsAll args :=
    evaluateAll_allows (arguments_mean (subterms_eq hoperator hspecial) fun term hterm =>
      hp.means term (hbelow term hterm)) binds_root hargs
  split at h
  · cases h
  · cases h
    exact ⟨args, operator.options, rfl, hallowed⟩

theorem Operation.consumption_of_writes {op : Operation} (h : op.writes = true) :
    op.consumption = .keyed := by
  cases op <;> first | rfl | cases h

theorem Operation.code_of_writes {op : Operation} (h : op.writes = true) :
    op.code ∈ [53, 54, 55, 56] := by
  cases op <;> first | decide | cases h

namespace Query

theorem keeps_store_of_readOnly {query : Query} (h : ReadOnly query.term) (context : Run.Context)
    (state : Run.State) : (query.run context state).2.store = state.store := by
  have hreads : (Run.reading state.store).Runs query.whole :=
    (Policy.readOnly_sound state.store).query (Policy.readOnly_admits query.settings) h
  obtain ⟨result, drawn', hrun, -⟩ := hreads context state.drawn
  rw [run_eq]
  exact congrArg (fun out => out.2.store) hrun

/-- A query without an insertion, an update, a replacement or a deletion anywhere in its
term leaves the store as it is, whether it fails or not. -/
theorem run_keeps_store {query : Query} (h : query.term.lacks [53, 54, 55, 56] = true)
    (context : Run.Context) (state : Run.State) :
    (query.run context state).2.store = state.store :=
  keeps_store_of_readOnly (Avoids.of_lacks (fun _ => Operation.code_of_writes) _ h).readOnly
    context state

/-- A function that is called for every row. -/
theorem run_keeps_store_map :
    let row := Json.array (Handle.node .var [.ofNat 1])
    let name := Json.array (Handle.node .bracket [row, .string "name"])
    let params := Json.array (Handle.node .makeArray [.ofNat 1])
    let function := Json.array (Handle.node .func [params, name])
    let source := Json.array (Handle.node .table [.string "t"])
    let query : Query := ⟨.array (Handle.node .map [source, function]), {}⟩
    let document := Json.object [("id", .ofNat 1), ("name", .string "a")]
    let store := Store.empty.setTable ⟨"test", "t"⟩ ⟨"id", [document]⟩
    let out := query.run ⟨⟨0, 0, 0⟩, fun _ => 0⟩ ⟨store, 0⟩
    query.term.lacks [53, 54, 55, 56] = true ∧ out.1 = .ok (.array [.string "a"]) ∧
      out.2.store = store := by
  intro row name params function source query document store out
  have h : query.term.lacks [53, 54, 55, 56] = true := by decide +kernel
  exact ⟨h, by decide +kernel, run_keeps_store h ⟨⟨0, 0, 0⟩, fun _ => 0⟩ ⟨store, 0⟩⟩

/-- A query that writes at most at the root of its term leaves the store as it is if it
fails. -/
theorem failed_run_keeps_store {query : Query} {items : List Json}
    (hterm : query.term = .array items) (h : ∀ item ∈ items, item.lacks [53, 54, 55, 56] = true)
    {context : Run.Context} {state : Run.State} {fault : Fault}
    (hfails : (query.run context state).1 = .error fault) :
    (query.run context state).2.store = state.store := by
  have hbelow : ∀ term ∈ subterms items, ReadOnly term := fun term hsub =>
    have hlacks := Json.lacks_subterms h term hsub
    (Avoids.of_lacks (fun _ => Operation.code_of_writes) term hlacks).readOnly
  by_cases hop : ∃ op, items.head?.bind Operation.ofHead? = some op ∧ op.writes = true
  · obtain ⟨op, hhead, hop⟩ := hop
    have hbuild : (Run.reading state.store).Holds (liftM query.build) fun handle =>
        ∃ args options, handle = .call op args options ∧ Policy.readOnly.AllowsAll args := by
      refine Run.Logic.ofExcept (fun _ _ => trivial) fun handle h => ?_
      rw [build, hterm] at h
      exact (Policy.readOnly_admits query.settings).keyed hhead
        (Operation.consumption_of_writes hop) hbelow h
    have hatomic : Run.Atomic state.store query.whole fun _ => True := by
      refine Run.Atomic.after_reading hbuild ?_
      rintro _ ⟨args, options, rfl, hargs⟩
      exact Handle.atomic_run hop hargs options
    rw [run_eq] at hfails ⊢
    exact hatomic.store_eq hfails
  · refine keeps_store_of_readOnly ?_ context state
    rw [hterm]
    refine .node (fun op hhead => ?_) hbelow
    exact Bool.eq_false_iff.mpr fun hwrites => hop ⟨op, hhead, hwrites⟩

/-- An update whose function gives up on the second of two rows. -/
theorem failed_run_keeps_store_second_row :
    let row := Json.array (Handle.node .var [.ofNat 1])
    let id := Json.array (Handle.node .bracket [row, .string "id"])
    let first := Json.array (Handle.node .eq [id, .ofNat 1])
    let refused := Json.array (Handle.node .http [.string "localhost"])
    let body := Json.array
      (Handle.node .branch [first, .object [("seen", .bool true)], refused])
    let params := Json.array (Handle.node .makeArray [.ofNat 1])
    let function := Json.array (Handle.node .func [params, body])
    let items := Handle.node .update [.array (Handle.node .table [.string "t"]), function]
    let query : Query := ⟨.array items, {}⟩
    let documents := [Json.object [("id", .ofNat 1)], Json.object [("id", .ofNat 2)]]
    let store := Store.empty.setTable ⟨"test", "t"⟩ ⟨"id", documents⟩
    let out := query.run ⟨⟨0, 0, 0⟩, fun _ => 0⟩ ⟨store, 0⟩
    out.1 = .error (.unsupported "HTTP") ∧ out.2.store = store := by
  intro row id first refused body params function items query documents store out
  have hbelow : ∀ item ∈ items, item.lacks [53, 54, 55, 56] = true := by decide +kernel
  have hfails : out.1 = .error (.unsupported "HTTP") := by decide +kernel
  exact ⟨hfails, failed_run_keeps_store rfl hbelow hfails⟩

end Query

end DocQuery
