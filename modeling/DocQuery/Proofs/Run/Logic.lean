import DocQuery.Proofs.Fault
import DocQuery.Run.Call

/-! Reasoning about runs.

What a run may read, what it may change and what it may end as is said by a `Logic`: a
predicate on runs that holds of results and of faults of a class, passes through sequences
and caught faults, and knows how a table is read. An operation is made of nothing else, apart
from those that write or that name stored data, so what holds of its operands holds of the
operation in every logic. All faults of operations are in the class; which others are is for
each logic to say. So it is whether calls may have fewer arguments than their operations read:
if they may not, what is known of a call includes how many it has.

The rules below are the ones that the proofs about operations use: one for each way in
which runs are put together, and one for each view of a datum. -/
namespace DocQuery.Run

/-- The table of a name, as a run reads it. -/
def table (name : TableName) : Run Table := do (← Run.store).table name

theorem view_eq {α β : Type} (name : TableName) (f : Table → α) (k : α → Run β) :
    (Run.store >>= fun s => liftM ((s.table name).map f) >>= k) =
      Run.table name >>= fun t => k (f t) := by
  unfold Run.table
  rw [bind_assoc]
  refine congrArg (Run.store >>= ·) (funext fun s => ?_)
  cases s.table name <;> rfl

/-- A predicate on runs and their results that the ways of composing runs keep. -/
structure Logic where
  /-- The run keeps to the rules, and its result is as the predicate says. -/
  Holds : {α : Type} → Run α → (α → Prop) → Prop
  /-- The faults that a run may end as. -/
  Faults : Fault → Prop
  operational : ∀ fault : Fault, fault.Operational → Faults fault
  /-- Calls may have fewer arguments than their operations read. -/
  Lacks : Prop := True
  lacking : Lacks → ∀ fault : Fault, fault.Lacking → Faults fault := by exact fun _ _ _ => trivial
  /-- The databases that a datum may name. -/
  Database : String → Prop
  /-- The rows that a datum may tie to a table. -/
  Rows : TableName → List Json → Prop
  rows_subset : ∀ {name : TableName} {rows picked : List Json},
    Rows name rows → picked ⊆ rows → Rows name picked
  pure : ∀ {α : Type} {P : α → Prop} {a : α}, P a → Holds (pure a) P
  bind : ∀ {α β : Type} {P : α → Prop} {Q : β → Prop} {x : Run α} {f : α → Run β},
    Holds x P → (∀ a, P a → Holds (f a) Q) → Holds (x >>= f) Q
  fail : ∀ {α : Type} {P : α → Prop} {fault : Fault}, Faults fault → Holds (throw fault) P
  caught : ∀ {α : Type} {P : α → Prop} {x : Run α} (catches : Fault → Bool),
    Holds x P → Holds (Run.caught catches x) fun result => ∀ a, result = .ok a → P a
  /-- Runs may read the time and draw random numbers. -/
  Chance : Prop := True
  context : Chance → Holds (read : Run Run.Context) fun _ => True
  draw : Chance → Holds Run.draw fun _ => True
  table : ∀ {name : TableName},
    Rows name [] → Holds (Run.table name) fun table => Rows name table.documents

namespace Logic
variable {L : Logic} {α β : Type} {P : α → Prop} {Q : β → Prop}

/-! ### Results -/

theorem mono {P' : α → Prop} {x : Run α} (hx : L.Holds x P) (h : ∀ a, P a → P' a) :
    L.Holds x P' := by
  rw [← bind_pure x]
  exact L.bind hx fun a ha => L.pure (h a ha)

/-- The run keeps to the rules, whatever it ends as. -/
def Runs (L : Logic) (x : Run α) : Prop := L.Holds x fun _ => True

theorem runs {x : Run α} (hx : L.Holds x P) : L.Runs x := mono hx fun _ _ => trivial

/-- An operation that fails. -/
theorem throw (L : Logic) (fault : Fault) (h : fault.Operational) :
    L.Holds (MonadExcept.throw fault) P :=
  L.fail (L.operational fault h)

/-- An operation that lacks an argument, if calls may. -/
theorem lack (h : L.Lacks) (fault : Fault) (hfault : fault.Lacking) :
    L.Holds (MonadExcept.throw fault) P :=
  L.fail (L.lacking h fault hfault)

theorem ofExcept {e : Except Fault α} (he : FailsOnly L.Faults e) (h : ∀ a, e = .ok a → P a) :
    L.Holds (liftM e) P := by
  cases e with
  | ok a => exact L.pure (h a rfl)
  | error fault => exact L.fail (FailsOnly.error_iff.mp he)

theorem lift {e : Except Fault α} (he : Operational e) (h : ∀ a, e = .ok a → P a) :
    L.Holds (liftM e) P :=
  ofExcept (he.mono L.operational) h

theorem runs_lift {e : Except Fault α} (he : Operational e) : L.Runs (liftM e : Run α) :=
  lift he fun _ _ => trivial

theorem runs_liftExcept {e : Except Fault α} (he : Operational e) :
    L.Runs (liftExcept e : Run α) := by
  cases e with
  | ok a => exact L.pure trivial
  | error fault => exact L.fail (L.operational fault (FailsOnly.error_iff.mp he))

theorem runs_pure (a : α) : L.Runs (Pure.pure a : Run α) := L.pure trivial

theorem map {x : Run α} {f : α → β} (hx : L.Holds x P) (h : ∀ a, P a → Q (f a)) :
    L.Holds (f <$> x) Q := by
  rw [map_eq_pure_bind]
  exact L.bind hx fun a ha => L.pure (h a ha)

/-! ### Lists -/

/-- As many results as there are items. -/
theorem mapM_length {f : α → Run β} {xs : List α} (h : ∀ x ∈ xs, L.Holds (f x) Q) :
    L.Holds (xs.mapM f) fun ys => ys.length = xs.length ∧ ∀ y ∈ ys, Q y := by
  induction xs with
  | nil =>
    rw [List.mapM_nil]
    exact L.pure ⟨rfl, fun y hy => absurd hy List.not_mem_nil⟩
  | cons x xs ih =>
    rw [List.mapM_cons]
    refine L.bind (h x List.mem_cons_self) fun y hy => ?_
    refine L.bind (ih fun z hz => h z (List.mem_cons_of_mem x hz)) fun ys hys => L.pure ?_
    exact ⟨by rw [List.length_cons, List.length_cons, hys.1], List.forall_mem_cons.mpr ⟨hy, hys.2⟩⟩

theorem mapM {f : α → Run β} {xs : List α} (h : ∀ x ∈ xs, L.Holds (f x) Q) :
    L.Holds (xs.mapM f) fun ys => ∀ y ∈ ys, Q y :=
  mono (mapM_length h) fun _ => And.right

theorem runs_mapM {f : α → Run β} {xs : List α} (h : ∀ x ∈ xs, L.Runs (f x)) :
    L.Runs (xs.mapM f) :=
  runs (mapM h)

theorem foldlM {f : β → α → Run β} {xs : List α} {b : β} (hb : Q b)
    (h : ∀ b, Q b → ∀ x ∈ xs, L.Holds (f b x) Q) : L.Holds (xs.foldlM f b) Q := by
  induction xs generalizing b with
  | nil => exact L.pure hb
  | cons x xs ih =>
    rw [List.foldlM_cons]
    refine L.bind (h b hb x List.mem_cons_self) fun c hc => ?_
    exact ih hc fun c hc y hy => h c hc y (List.mem_cons_of_mem x hy)

theorem runs_foldlM {f : β → α → Run β} {xs : List α} {b : β}
    (h : ∀ b, ∀ x ∈ xs, L.Runs (f b x)) : L.Runs (xs.foldlM f b) :=
  foldlM trivial fun b _ => h b

/-- A filter gathers what it keeps from the last to the first. -/
theorem filterAuxM {f : α → Run Bool} {xs gathered : List α} (h : ∀ x ∈ xs, L.Runs (f x)) :
    L.Holds (xs.filterAuxM f gathered) fun kept =>
      ∃ picked : List α, picked.Sublist xs ∧ kept = picked.reverse ++ gathered := by
  induction xs generalizing gathered with
  | nil => exact L.pure ⟨[], List.Sublist.refl _, rfl⟩
  | cons x xs ih =>
    refine L.bind (h x List.mem_cons_self) fun keep _ => ?_
    refine mono (ih fun y hy => h y (List.mem_cons_of_mem x hy)) ?_
    rintro kept ⟨picked, hpicked, rfl⟩
    cases keep with
    | true => exact ⟨x :: picked, hpicked.cons_cons x, by simp⟩
    | false => exact ⟨picked, hpicked.cons x, rfl⟩

/-- What a filter keeps was there. -/
theorem filterM {f : α → Run Bool} {xs : List α} (h : ∀ x ∈ xs, L.Runs (f x)) :
    L.Holds (xs.filterM f) fun kept => kept.Sublist xs := by
  refine L.bind (filterAuxM h) ?_
  rintro kept ⟨picked, hpicked, rfl⟩
  refine L.pure ?_
  rw [List.append_nil, List.reverse_reverse]
  exact hpicked

/-! ### Faults that are caught -/

theorem found {x : Run α} (hx : L.Holds x P) :
    L.Holds (Run.found? x) fun result => ∀ a, result = some a → P a := by
  refine map (L.caught Fault.isMissing hx) fun result hresult a ha => ?_
  cases result with
  | ok b => exact hresult a (congrArg Except.ok (Option.some.inj ha))
  | error fault => cases ha

theorem counted {x : Run α} (hx : L.Holds x P) :
    L.Holds (Run.counted x) fun result => ∀ a, result = .ok a → P a :=
  L.caught Fault.isCounted hx

/-! ### Tables -/

theorem opened {name : TableName} {k : Table → Run β} (hname : L.Rows name [])
    (hk : ∀ t : Table, L.Rows name t.documents → L.Holds (k t) Q) :
    L.Holds (Run.store >>= fun s => liftM (s.table name) >>= k) Q := by
  rw [← bind_assoc]
  exact L.bind (L.table hname) hk

/-- A view of a table is read through the table. -/
theorem view {name : TableName} {f : Table → α} {k : α → Run β} (hname : L.Rows name [])
    (hk : ∀ t : Table, L.Rows name t.documents → L.Holds (k (f t)) Q) :
    L.Holds (Run.store >>= fun s => liftM ((s.table name).map f) >>= k) Q := by
  rw [view_eq]
  exact L.bind (L.table hname) hk

theorem rows_nil {name : TableName} {rows : List Json} (h : L.Rows name rows) :
    L.Rows name [] :=
  L.rows_subset h (List.nil_subset rows)

/-! ### Data -/

/-- What a datum ties to the store is allowed. -/
def Datum (L : Logic) : Datum → Prop
  | .value _ | .function _ => True
  | .database name => L.Database name
  | .table name => L.Rows name []
  | .selection name rows => L.Rows name rows
  | .row name row? => L.Rows name row?.toList

theorem materialize {d : DocQuery.Datum} (h : L.Datum d) : L.Runs d.materialize := by
  cases d with
  | value v => exact L.pure trivial
  | table name => exact view h fun t _ => L.pure trivial
  | selection name rows => exact L.pure trivial
  | row name row? => exact L.pure trivial
  | database name => exact L.throw _ trivial
  | function arity => exact L.throw _ trivial

theorem rows {d : DocQuery.Datum} (h : L.Datum d) :
    L.Holds d.rows fun found => ∀ name, found.1 = some name → L.Rows name found.2 := by
  cases d with
  | table name =>
    refine view h fun t ht => L.pure fun name' hname => ?_
    cases hname
    exact ht
  | selection name rows =>
    refine L.pure fun name' hname => ?_
    cases hname
    exact h
  | value v =>
    cases v with
    | array items => exact L.pure fun name hname => by cases hname
    | _ => exact L.throw _ trivial
  | database name => exact L.throw _ trivial
  | row name row? => exact L.throw _ trivial
  | function arity => exact L.throw _ trivial

theorem sequence {d : DocQuery.Datum} (h : L.Datum d) : L.Runs d.sequence :=
  L.bind (rows h) fun _ _ => L.pure trivial

theorem asTable {d : DocQuery.Datum} (h : L.Datum d) :
    L.Holds d.asTable fun name => L.Rows name [] := by
  cases d with
  | table name => exact L.pure h
  | _ => exact L.throw _ trivial

theorem targets {d : DocQuery.Datum} (h : L.Datum d) :
    L.Holds d.targets fun found => L.Rows found.1 (found.2.filterMap id) := by
  cases d with
  | table name =>
    refine view h fun t ht => L.pure ?_
    rw [List.filterMap_map, Function.id_comp, List.filterMap_some]
    exact ht
  | selection name rows =>
    refine L.pure ?_
    rw [List.filterMap_map, Function.id_comp, List.filterMap_some]
    exact h
  | row name row? =>
    refine L.pure ?_
    cases row? <;> exact h
  | value v => exact L.throw _ trivial
  | database name => exact L.throw _ trivial
  | function arity => exact L.throw _ trivial

/-- Rows that were picked from others stay as they are allowed. -/
theorem datum_ofRows {name? : Option TableName} {rows picked : List Json}
    (h : ∀ name, name? = some name → L.Rows name rows) (hp : picked ⊆ rows) :
    L.Datum (.ofRows name? picked) := by
  cases name? with
  | none => trivial
  | some name => exact L.rows_subset (h name rfl) hp

end Logic

end DocQuery.Run
