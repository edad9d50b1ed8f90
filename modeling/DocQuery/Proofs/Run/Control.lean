import DocQuery.Proofs.Run.Operand
import DocQuery.Run.Control
import DocQuery.Run.Document

/-! Control flow and operations on documents in a logic. -/
namespace DocQuery.Call
open Run

variable {L : Logic} {call : Call}

/-! ### Choosing what is run -/

/-- Some of the arguments are run, each of which is sound. -/
theorem holds_choose {otherwise : Argument} (ho : L.Argument otherwise) :
    ∀ cases : List Argument, (∀ arg ∈ cases, L.Argument arg) →
      L.Holds (choose otherwise cases) L.Datum
  | [], _ => ho.run
  | [_], _ => ho.run
  | test :: result :: rest, h => by
    refine L.bind (h test List.mem_cons_self).value fun v _ => ?_
    split
    · exact (h result (List.mem_cons_of_mem _ List.mem_cons_self)).run
    · exact holds_choose ho rest fun arg harg =>
        h arg (List.mem_cons_of_mem _ (List.mem_cons_of_mem _ harg))

theorem holds_branch (ha : L.Arguments call) (hn : L.Supplied call 1) : L.Holds call.branch L.Datum := by
  unfold branch
  split
  · next hnone =>
    rcases hn with hlacks | hn
    · exact Logic.lack hlacks _ trivial
    · rw [List.getLast?_eq_none_iff.mp hnone] at hn
      cases hn
  · next otherwise ho =>
    dsimp only
    split
    · exact L.bind (L.throw _ trivial) fun _ (h : False) => h.elim
    · exact holds_choose (ha otherwise (List.mem_of_getLast? ho)) _ fun arg harg =>
        ha arg (List.dropLast_subset _ harg)

theorem runs_default (ha : L.Arguments call) (hn : L.Supplied call 2) : L.Runs call.default := by
  refine L.bind (ha.arg 1 hn) fun fallback hf => L.bind (ha.arg 0 (hn.mono (by decide))) fun arg harg => ?_
  refine L.bind (L.caught Fault.isMissing harg.value) fun result _ => ?_
  split
  · exact hf.apply [.null]
  · exact L.pure trivial
  · exact hf.apply _

theorem runs_allHold (last : Json) {args : List Argument} (h : ∀ arg ∈ args, L.Argument arg) :
    L.Runs (allHold last args) := by
  induction args generalizing last with
  | nil => exact L.pure trivial
  | cons arg rest ih =>
    refine L.bind (h arg List.mem_cons_self).value fun v _ => ?_
    split
    · exact ih v fun arg harg => h arg (List.mem_cons_of_mem _ harg)
    · exact L.pure trivial

theorem runs_someHolds {args : List Argument} (h : ∀ arg ∈ args, L.Argument arg) :
    L.Runs (someHolds args) := by
  induction args with
  | nil => exact L.pure trivial
  | cons arg rest ih =>
    refine L.bind (h arg List.mem_cons_self).value fun v _ => ?_
    split
    · exact L.pure trivial
    · exact ih fun arg harg => h arg (List.mem_cons_of_mem _ harg)

theorem runs_invoke (ha : L.Arguments call) (hn : L.Supplied call 1) : L.Runs call.invoke := by
  unfold invoke
  split
  · next hnone =>
    rcases hn with hlacks | hn
    · exact Logic.lack hlacks _ trivial
    · rw [hnone] at hn
      cases hn
  · next function args hargs =>
    have hfunction : L.Argument function := ha function (hargs ▸ List.mem_cons_self)
    have hrest : ∀ arg ∈ args, L.Argument arg := fun arg harg =>
      ha arg (hargs ▸ List.mem_cons_of_mem _ harg)
    exact L.bind (Logic.values hrest) fun args _ => hfunction.apply args

theorem holds_error {α : Type} {P : α → Prop} (ha : L.Arguments call) :
    L.Holds (call.error : Run α) P := by
  unfold error
  split
  · next message hm =>
    exact L.bind (ha message (List.mem_of_mem_head? hm)).string fun _ _ => L.throw _ trivial
  · exact L.throw _ trivial

/-! ### Making values -/

theorem runs_literal (ha : L.Arguments call) : L.Runs call.literal := by
  unfold literal
  dsimp only
  split
  · next value hv =>
    exact L.bind (ha value (List.mem_of_mem_head? hv)).value fun _ _ => L.pure trivial
  · exact L.bind (Logic.runs_pure []) fun _ _ => L.pure trivial

@[simp] theorem operational_pairUp (fields : Fields Json) (values : List Json) :
    Operational (pairUp fields values) := by
  fun_induction pairUp fields values with
  | case1 fields key value rest ih =>
    refine .bind (Json.operational_asString key) fun key => ?_
    dsimp only
    split
    · exact .throw_bind trivial
    · exact ih key
  | case2 fields values => exact .ok _

theorem runs_object (ha : L.Arguments call) : L.Runs call.object := by
  refine L.bind (Logic.values ha) fun values _ => ?_
  dsimp only
  split
  · exact L.bind (L.throw _ trivial) fun _ (h : False) => h.elim
  · exact L.bind (Logic.runs_lift (by simp)) fun _ _ => L.pure trivial

@[simp] theorem operational_integers (start stop : Int) : Operational (integers start stop) := by
  unfold integers
  dsimp only
  split
  · exact .throw_bind trivial
  · exact .bind (Json.operational_boundedLength _) fun _ => .ok _

theorem runs_range (ha : L.Arguments call) : L.Runs call.range := by
  unfold range
  split
  · exact L.throw _ trivial
  · next stop hargs =>
    have hstop : L.Argument stop := ha stop (hargs ▸ List.mem_cons_self)
    exact L.bind hstop.integer fun _ _ => Logic.runs_lift (by simp)
  · next start stop _ hargs =>
    have hstart : L.Argument start := ha start (hargs ▸ List.mem_cons_self)
    have hstop : L.Argument stop :=
      ha stop (hargs ▸ List.mem_cons_of_mem _ List.mem_cons_self)
    exact L.bind hstart.integer fun _ _ => L.bind hstop.integer fun _ _ => Logic.runs_lift (by simp)

theorem runs_identifier (hchance : L.Chance) (ha : L.Arguments call) : L.Runs call.identifier := by
  unfold identifier
  split
  · next name hn =>
    exact L.bind (ha name (List.mem_of_mem_head? hn)).string fun _ _ => L.pure trivial
  · exact L.bind (L.draw hchance) fun _ _ => L.pure trivial

theorem runs_readJson (ha : L.Arguments call) (hn : L.Supplied call 1) : L.Runs call.readJson := by
  refine ha.string 0 hn fun text => ?_
  split
  · exact L.pure trivial
  · exact L.throw _ trivial

/-! ### Random numbers -/

theorem runs_unit (hchance : L.Chance) : L.Runs unit :=
  L.bind (L.draw hchance) fun _ _ => L.pure trivial

theorem runs_randomReal (hchance : L.Chance) (lower upper : Binary64) :
    L.Runs (randomReal lower upper) := by
  unfold randomReal
  dsimp only
  split
  · refine L.bind (runs_unit hchance) fun x _ => ?_
    split <;> exact Logic.runs_lift (by simp)
  · exact L.bind (L.throw _ trivial) fun _ (h : False) => h.elim

theorem runs_randomInteger (hchance : L.Chance) (lower upper : Int) :
    L.Runs (randomInteger lower upper) := by
  unfold randomInteger
  dsimp only
  split
  · exact L.bind (L.draw hchance) fun _ _ => L.pure trivial
  · exact L.bind (L.throw _ trivial) fun _ (h : False) => h.elim

theorem runs_random (hchance : L.Chance) (ha : L.Arguments call) : L.Runs call.random := by
  have hbounds : ∀ lower upper : Json, L.Runs (if call.flag "float" then do
        let lower ← lower.asNumber
        randomReal lower (← upper.asNumber)
      else do
        let lower ← lower.asInteger
        randomInteger lower (← upper.asInteger)) := by
    intro lower upper
    split
    · exact L.bind (Logic.runs_lift (by simp)) fun _ _ =>
        L.bind (Logic.runs_lift (by simp)) fun _ _ =>
        runs_randomReal hchance _ _
    · exact L.bind (Logic.runs_lift (by simp)) fun _ _ =>
        L.bind (Logic.runs_lift (by simp)) fun _ _ =>
        runs_randomInteger hchance _ _
  refine L.bind (Logic.values ha) fun values _ => ?_
  split
  · exact L.bind (runs_unit hchance) fun _ _ => Logic.runs_lift (by simp)
  · exact hbounds _ _
  · exact hbounds _ _

/-! ### Documents -/

theorem runs_eachDocument (receiver : Json) {change : Json → Run Json}
    (h : ∀ document, L.Runs (change document)) : L.Runs (eachDocument receiver change) := by
  refine L.bind (Logic.runs_lift (by simp)) fun document _ => ?_
  split
  · exact L.bind (Logic.runs_mapM fun row _ => h row) fun _ _ => L.pure trivial
  · exact h _

theorem runs_pluck (ha : L.Arguments call) (receiver : Json) : L.Runs (call.pluck receiver) :=
  L.bind (Logic.values ha.rest) fun _ _ =>
    runs_eachDocument receiver fun _ => Logic.runs_lift (by simp)

theorem runs_without (ha : L.Arguments call) (receiver : Json) : L.Runs (call.without receiver) :=
  L.bind (Logic.values ha.rest) fun _ _ =>
    runs_eachDocument receiver fun _ => Logic.runs_lift (by simp)

theorem runs_merge (ha : L.Arguments call) (receiver : Json) : L.Runs (call.merge receiver) :=
  runs_eachDocument receiver fun document => Logic.runs_foldlM fun _ patch hp =>
    L.bind ((ha.rest patch hp).apply [document]) fun _ _ => L.pure trivial

theorem runs_hasFields (ha : L.Arguments call) (receiver : Json) :
    L.Runs (call.hasFields receiver) :=
  L.bind (Logic.values ha.rest) fun _ _ => L.pure trivial

theorem runs_withFields (ha : L.Arguments call) (receiver : Json) :
    L.Runs (call.withFields receiver) := by
  refine L.bind (Logic.values ha.rest) fun selectors _ =>
    L.bind (Logic.runs_lift (by simp)) fun rows _ => ?_
  exact L.bind (Logic.runs_mapM fun row _ => Logic.runs_lift (by simp)) fun _ _ => L.pure trivial

theorem runs_getField (ha : L.Arguments call) (hn : L.Supplied call 2) (receiver : Json) :
    L.Runs (call.getField receiver) :=
  ha.string 1 hn fun _ => Logic.runs_lift (by simp)

end DocQuery.Call
