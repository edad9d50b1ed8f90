import DocQuery.Proofs.Run.Operand
import DocQuery.Proofs.Value.Sorting
import DocQuery.Run.Selection
import Mathlib.Data.List.Perm.Subperm

/-! Reading and selecting rows in a logic.

Every operation that selects rows picks from those of its receiver or of the table that
it names, so what it gives is tied to the store as its receiver was. -/
namespace DocQuery.Call
open Run

variable {L : Logic} {call : Call} {receiver : Datum}

/-! ### Tables and rows by key -/

/-- Opening a table needs the right to do so in the database of the receiver. -/
theorem holds_table (ha : L.Arguments call) (hr : L.Datum receiver)
    (hopen : ∀ db table, L.Database db → L.Rows ⟨db, table⟩ [])
    (hn : L.Supplied call 2 := by exact Or.inl trivial) :
    L.Holds (call.table receiver) L.Datum := by
  cases receiver with
  | database db =>
    refine ha.string 1 hn fun name => ?_
    have hname : L.Rows ⟨db, name⟩ [] := hopen db name hr
    exact Logic.opened hname fun _ _ => L.pure hname
  | _ => exact L.throw _ trivial

theorem mem_of_get {t : Table} {key row : Json} (h : t.get key = some row) :
    row ∈ t.documents :=
  List.mem_of_find?_eq_some h

theorem holds_get (ha : L.Arguments call) (hn : L.Supplied call 2) (hr : L.Datum receiver) :
    L.Holds (call.get receiver) L.Datum := by
  refine L.bind (Logic.asTable hr) fun name hname => ?_
  refine ha.value 1 hn fun key => Logic.view hname fun t ht => L.pure ?_
  refine L.rows_subset ht fun row hrow => ?_
  exact mem_of_get (Option.mem_toList.mp hrow)

theorem runs_lookupField {name : TableName} (hname : L.Rows name []) :
    L.Runs (call.lookupField name) := by
  refine L.bind (Logic.runs_lift (by simp)) fun index _ => ?_
  split
  · exact L.pure trivial
  · have h : L.Holds (Run.store >>= fun s => liftM ((s.table name).map Table.primaryKey) >>= pure)
        fun _ => True := Logic.view hname fun _ _ => L.pure trivial
    simp only [bind_pure] at h
    exact h

theorem rowsOfKeys_subset (field : String) (keys rows : List Json) :
    rowsOfKeys field keys rows ⊆ rows := by
  intro row hrow
  obtain ⟨key, -, hrow⟩ := List.mem_flatMap.mp hrow
  exact (List.mem_filter.mp hrow).1

theorem holds_getAll (ha : L.Arguments call) (hr : L.Datum receiver) :
    L.Holds (call.getAll receiver) L.Datum := by
  refine L.bind (Logic.asTable hr) fun name hname => ?_
  refine L.bind (Logic.values ha.rest) fun keys _ => ?_
  refine L.bind (runs_lookupField hname) fun field _ => Logic.view hname fun t ht => L.pure ?_
  exact L.rows_subset ht (rowsOfKeys_subset field keys t.documents)

/-! ### Rows that are picked -/

/-- Of rows that were found, some may be left out, and the others may stand in another order. -/
def Picked (P : Option TableName × List Json → Prop) (d : Datum) : Prop :=
  ∃ found kept, P found ∧ d = .ofRows found.1 kept ∧ List.Subperm kept found.2

/-- Rows that may be tied to their table may still be if they are picked. -/
theorem datum_of_picked {d : Datum}
    (h : Picked (fun found => ∀ name, found.1 = some name → L.Rows name found.2) d) :
    L.Datum d := by
  obtain ⟨found, kept, hfound, rfl, hkept⟩ := h
  exact Logic.datum_ofRows hfound hkept.subset

variable {P : Option TableName × List Json → Prop}

/-! ### Ranges -/

theorem runs_bound {arg : Argument} (h : L.Argument arg) : L.Runs (bound arg) := by
  unfold bound
  split
  · exact L.pure trivial
  · exact L.bind h.value fun _ _ => L.pure trivial

theorem picks_between (ha : L.Arguments call) (hn : L.Supplied call 3)
    (hrows : L.Holds receiver.rows P)
    (hname : ∀ name rows, P (some name, rows) → L.Rows name []) :
    L.Holds (call.between receiver) (Picked P) := by
  refine L.bind hrows fun found hfound => ?_
  split
  · exact L.throw _ trivial
  · next name rows =>
    refine L.bind (runs_lookupField (hname name rows hfound)) fun field _ => ?_
    refine L.bind (ha.arg 1 (hn.mono (by decide))) fun lower hlower =>
      L.bind (runs_bound hlower) fun low _ => ?_
    refine L.bind (ha.arg 2 hn) fun upper hupper => L.bind (runs_bound hupper) fun high _ => ?_
    refine L.bind (Logic.runs_lift (by simp)) fun left _ =>
      L.bind (Logic.runs_lift (by simp)) fun right _ => ?_
    exact L.pure ⟨(some name, rows), _, hfound, rfl, List.filter_sublist.subperm⟩

theorem holds_between (ha : L.Arguments call) (hn : L.Supplied call 3)
    (hr : L.Datum receiver) :
    L.Holds (call.between receiver) L.Datum :=
  Logic.mono (picks_between ha hn (Logic.rows hr) fun name _ h => Logic.rows_nil (h name rfl))
    fun _ => datum_of_picked

/-! ### Filtering and sorting -/

theorem picks_filter (ha : L.Arguments call) (hn : L.Supplied call 2)
    (hrows : L.Holds receiver.rows P) : L.Holds (call.filter receiver) (Picked P) := by
  refine L.bind hrows fun found hfound => L.bind (ha.arg 1 hn) fun predicate hp => ?_
  refine L.bind (Logic.filterM fun row _ => ?_) fun kept hkept =>
    L.pure ⟨found, kept, hfound, rfl, hkept.subperm⟩
  exact L.bind (Logic.found (hp.test row)) fun _ _ => L.pure trivial

theorem holds_filter (ha : L.Arguments call) (hn : L.Supplied call 2) (hr : L.Datum receiver) :
    L.Holds (call.filter receiver) L.Datum :=
  Logic.mono (picks_filter ha hn (Logic.rows hr)) fun _ => datum_of_picked

theorem holds_sortKeys (ha : L.Arguments call) :
    L.Holds call.sortKeys fun keys => ∀ key ∈ keys, L.Operand key.selector := by
  refine L.bind (Logic.runs_lift (by simp)) fun index _ => ?_
  refine L.bind (Logic.mapM (Q := fun key => L.Operand key.selector) fun arg harg => ?_)
    fun keys hkeys => L.pure fun key hkey => ?_
  · have h := ha.rest arg harg
    split
    · next hhead => exact L.bind (Logic.firstBelow h hhead Nat.one_pos) fun _ ho => L.pure ho
    · next hhead => exact L.bind (Logic.firstBelow h hhead Nat.one_pos) fun _ ho => L.pure ho
    · exact L.pure h.toOperand
  rcases List.mem_append.mp hkey with hkey | hkey
  · obtain ⟨field, -, rfl⟩ := Option.map_eq_some_iff.mp (Option.mem_toList.mp hkey)
    exact Logic.operand_ofValue _
  · exact hkeys key hkey

theorem runs_sortValues {keys : List SortKey} (h : ∀ key ∈ keys, L.Operand key.selector)
    (row : Json) : L.Runs (sortValues keys row) :=
  Logic.runs_mapM fun key hkey =>
    L.bind (Logic.found ((h key hkey).select row)) fun _ _ => L.pure trivial

/-- Rows that stand beside what was worked out for each stay the rows they were. -/
theorem holds_decorate {β : Type} {f : Json → Run β} {rows : List Json}
    (h : ∀ row ∈ rows, L.Runs (f row)) :
    L.Holds (rows.mapM fun row => do return (← f row, row)) fun out => out.map Prod.snd = rows := by
  induction rows with
  | nil => exact L.pure rfl
  | cons row rest ih =>
    rw [List.mapM_cons, bind_assoc]
    refine L.bind (h row List.mem_cons_self) fun values _ => ?_
    rw [pure_bind]
    refine L.bind (ih fun row hrow => h row (List.mem_cons_of_mem _ hrow)) fun out hout => ?_
    exact L.pure (by rw [List.map_cons, hout])

theorem picks_orderBy (ha : L.Arguments call) (hrows : L.Holds receiver.rows P) :
    L.Holds (call.orderBy receiver) (Picked P) := by
  refine L.bind hrows fun found hfound => L.bind (holds_sortKeys ha) fun keys hkeys => ?_
  dsimp only
  split
  · exact L.bind (L.throw _ trivial) fun _ (h : False) => h.elim
  · refine L.bind (holds_decorate fun row _ => runs_sortValues hkeys row) fun out hout =>
      L.pure ⟨found, _, hfound, rfl, ?_⟩
    rw [← hout]
    exact ((Sorting.stable_perm _ _).map Prod.snd).subperm

theorem holds_orderBy (ha : L.Arguments call) (hr : L.Datum receiver) :
    L.Holds (call.orderBy receiver) L.Datum :=
  Logic.mono (picks_orderBy ha (Logic.rows hr)) fun _ => datum_of_picked

/-! ### Stretches -/

theorem picks_skip (ha : L.Arguments call) (hn : L.Supplied call 2)
    (hrows : L.Holds receiver.rows P) : L.Holds (call.skip receiver) (Picked P) :=
  L.bind hrows fun found hfound => ha.integer 1 hn fun _ =>
    L.pure ⟨found, _, hfound, rfl, (List.drop_sublist _ _).subperm⟩

theorem holds_skip (ha : L.Arguments call) (hn : L.Supplied call 2) (hr : L.Datum receiver) :
    L.Holds (call.skip receiver) L.Datum :=
  Logic.mono (picks_skip ha hn (Logic.rows hr)) fun _ => datum_of_picked

theorem picks_limit (ha : L.Arguments call) (hn : L.Supplied call 2)
    (hrows : L.Holds receiver.rows P) : L.Holds (call.limit receiver) (Picked P) :=
  L.bind hrows fun found hfound => ha.integer 1 hn fun _ =>
    L.pure ⟨found, _, hfound, rfl, (List.take_sublist _ _).subperm⟩

theorem holds_limit (ha : L.Arguments call) (hn : L.Supplied call 2) (hr : L.Datum receiver) :
    L.Holds (call.limit receiver) L.Datum :=
  Logic.mono (picks_limit ha hn (Logic.rows hr)) fun _ => datum_of_picked

theorem runs_bounds (ha : L.Arguments call) (hn : L.Supplied call 2) (length : Nat) :
    L.Runs (call.bounds length) := by
  refine ha.integer 1 hn fun start => ?_
  have hrest : ∀ stop : Option Int, L.Runs (do
      let leftClosed ← call.leftClosed
      let rightClosed ← call.rightClosed
      return Position.bounds length start stop leftClosed rightClosed) := fun stop =>
    L.bind (Logic.runs_lift (by simp)) fun _ _ =>
      L.bind (Logic.runs_lift (by simp)) fun _ _ => L.pure trivial
  dsimp only
  split
  · next stop hstop =>
    have h : L.Runs (some <$> stop.integer) :=
      Logic.map (ha.getElem? hstop).integer fun _ _ => trivial
    exact L.bind h fun stop _ => hrest stop
  · exact L.bind (Logic.runs_pure none) fun stop _ => hrest stop

theorem stretch_sublist {α : Type} (items : List α) (range : Nat × Nat) :
    (Position.stretch items range).Sublist items :=
  (List.drop_sublist _ _).trans (List.take_sublist _ _)

/-- A slice of a text is no rows. -/
theorem picks_slice (ha : L.Arguments call) (hn : L.Supplied call 2)
    (hrows : L.Holds receiver.rows P) (hreceiver : ∀ text, receiver ≠ .value (.string text)) :
    L.Holds (call.slice receiver) (Picked P) := by
  unfold slice
  split
  · next text => exact absurd rfl (hreceiver text)
  · exact L.bind hrows fun found hfound => L.bind (runs_bounds ha hn _) fun range _ =>
      L.pure ⟨found, _, hfound, rfl, (stretch_sublist _ range).subperm⟩

theorem holds_slice (ha : L.Arguments call) (hn : L.Supplied call 2) (hr : L.Datum receiver) :
    L.Holds (call.slice receiver) L.Datum := by
  by_cases hreceiver : ∀ text, receiver ≠ .value (.string text)
  · exact Logic.mono (picks_slice ha hn (Logic.rows hr) hreceiver) fun _ => datum_of_picked
  · obtain ⟨text, rfl⟩ : ∃ text, receiver = .value (.string text) := by simpa using hreceiver
    exact L.bind (runs_bounds ha hn _) fun _ _ => L.pure trivial

theorem mem_of_itemAt {items : List Json} {i : Int} {item : Json}
    (h : Json.itemAt items i = .ok item) : item ∈ items := by
  unfold Json.itemAt at h
  split at h
  · next found hfound =>
    cases h
    obtain ⟨position, -, hposition⟩ := Option.bind_eq_some_iff.mp hfound
    exact List.mem_of_getElem? hposition
  · cases h

theorem holds_nth (ha : L.Arguments call) (hn : L.Supplied call 2) (hr : L.Datum receiver) :
    L.Holds (call.nth receiver) L.Datum := by
  refine L.bind (Logic.rows hr) fun found hfound => ha.integer 1 hn fun i => ?_
  have hitem : L.Holds (liftM (Json.itemAt found.2 i)) fun row => row ∈ found.2 :=
    Logic.lift (Json.operational_itemAt _ i) fun row => mem_of_itemAt
  refine L.bind hitem fun row hrow => ?_
  refine L.pure ?_
  split
  · next name hname =>
    refine L.rows_subset (hfound name hname) fun other hother => ?_
    rw [List.mem_singleton.mp hother]
    exact hrow
  · trivial

/-! ### Describing -/

theorem runs_info (hr : L.Datum receiver) : L.Runs (info receiver) := by
  unfold info
  cases receiver with
  | table name => exact Logic.view hr fun _ _ => L.pure trivial
  | _ => exact L.pure trivial

end DocQuery.Call
