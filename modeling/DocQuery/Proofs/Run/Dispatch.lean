import DocQuery.Proofs.Run.Aggregate
import DocQuery.Proofs.Run.Control
import DocQuery.Proofs.Run.Selection
import DocQuery.Proofs.Run.Sequence
import DocQuery.Run.Dispatch

/-! Every operation in a logic.

Operations that name stored data or write it are what a logic is about, so each logic has
to say itself what becomes of them. All others keep to the rules of any logic that their
arguments keep to. -/
namespace DocQuery.Call
open Run

variable {L : Logic} {call : Call}

/-- Operations that write rows which were selected before. -/
def writesRows : Operation → Bool
  | .update | .replace | .delete => true
  | _ => false

/-- Operations that read the time or draw random numbers. -/
def usesChance : Operation → Bool
  | .now | .random | .sample | .uuid => true
  | _ => false

/-! ### Results that are worked out -/

@[simp] theorem operational_addSummaries (total : Summary) (results : List Json) :
    Operational (addSummaries total results) := by
  refine .foldlM fun total result _ => ?_
  dsimp only
  split
  · show Operational (Except.bind (.ok ()) fun _ => _)
    refine .bind (.ok ()) fun _ => ?_
    split
    · exact .ok _
    · exact FailsOnly.throw_iff.mpr trivial
  · exact .throw_bind trivial

@[simp] theorem operational_ungroup (receiver : Json) : Operational (ungroup receiver) := by
  unfold ungroup
  dsimp only
  split
  · exact .ok _
  · exact .throw_bind trivial

@[simp] theorem operational_keys (receiver : Json) : Operational (keys receiver) :=
  .bind (Json.operational_present receiver) fun document =>
    .bind (Json.operational_asObject document) fun _ => .ok _

@[simp] theorem operational_fieldValues (receiver : Json) : Operational (fieldValues receiver) :=
  .bind (Json.operational_present receiver) fun document =>
    .bind (Json.operational_asObject document) fun _ => .ok _

@[simp] theorem operational_rounded (receiver : Json) (rule : Extended → Extended) :
    Operational (rounded receiver rule) :=
  .bind (Json.operational_asNumber receiver) fun _ => Extended.operational_toJson _

@[simp] theorem operational_zoneOf (receiver : Json) : Operational (zoneOf receiver) :=
  .bind (Time.operational_epoch receiver) fun _ => .ok _

@[simp] theorem operational_recased (receiver : Json) (rule : List Char → List Char) :
    Operational (recased receiver rule) :=
  .bind (Json.operational_asString receiver) fun _ => .ok _

/-! ### Operations on values -/

theorem runs_forEach (ha : L.Arguments call) (hn : L.Supplied call 2) (receiver : Json) :
    L.Runs (call.forEach receiver) := by
  refine L.bind (ha.arg 1 hn) fun function hf => L.bind (Logic.runs_lift (by simp)) fun rows _ => ?_
  refine L.bind (Logic.runs_foldlM fun total row _ => ?_) fun _ _ => L.pure trivial
  refine L.bind (hf.apply [row]) fun result _ => ?_
  split <;> exact Logic.runs_lift (by simp)

theorem runs_arithmetic (ha : L.Arguments call) (receiver : Json)
    {step : Json → Json → Except Fault Json} (hstep : ∀ a b, Operational (step a b)) :
    L.Runs (call.arithmetic receiver step) :=
  Logic.runs_foldlM fun _ arg harg =>
    L.bind (ha.rest arg harg).value fun _ _ => Logic.runs_lift (hstep _ _)

theorem runs_comparison (ha : L.Arguments call) (receiver : Json) (relation : Json → Json → Bool) :
    L.Runs (call.comparison receiver relation) :=
  L.bind (Logic.values ha.rest) fun _ _ => L.pure trivial

theorem runs_compared (ha : L.Arguments call) (receiver : Json) (relation : Json → Json → Bool)
    (verdict : Bool → Bool) :
    L.Runs (do return Json.bool (verdict (← call.comparison receiver relation))) :=
  L.bind (runs_comparison ha receiver relation) fun _ _ => L.pure trivial

theorem runs_during (ha : L.Arguments call) (hn : L.Supplied call 3) (receiver : Json) :
    L.Runs (call.during receiver) :=
  ha.value 1 (hn.mono (by decide)) fun _ => ha.value 2 hn fun _ => L.bind (Logic.runs_lift (by simp)) fun _ _ =>
    L.bind (Logic.runs_lift (by simp)) fun _ _ => Logic.runs_lift (by simp)

theorem runs_matchText (ha : L.Arguments call) (hn : L.Supplied call 2) (receiver : Json) :
    L.Runs (call.matchText receiver) := by
  refine L.bind (Logic.runs_lift (by simp)) fun text _ => ha.string 1 hn fun pattern => ?_
  split
  · exact L.pure trivial
  · exact L.throw _ trivial

theorem runs_split (ha : L.Arguments call) (receiver : Json) : L.Runs (call.split receiver) := by
  have hafter : ∀ limit : Run (Option Nat), L.Runs limit →
      ∀ separator : Option String, L.Runs (do
        let limit ← limit
        let text ← receiver.asString
        let pieces := Text.split (separator.map String.toList) limit text.toList
        return Json.array (pieces.map fun piece => Json.string (String.ofList piece))) :=
    fun _ h separator => L.bind h fun limit _ =>
      L.bind (Logic.runs_lift (by simp)) fun _ _ => L.pure trivial
  have hgiven : ∀ arg, call.args[2]? = some arg →
      L.Runs ((fun n : Int => some n.toNat) <$> arg.integer) := fun arg harg =>
    Logic.map (ha.getElem? harg).integer fun _ _ => trivial
  unfold Call.split
  dsimp only
  split
  · next arg harg =>
    refine L.bind (ha.getElem? harg).value fun v _ => ?_
    split
    · refine L.bind (Logic.runs_pure none) fun separator _ => ?_
      split
      · next arg harg => exact hafter _ (hgiven arg harg) separator
      · exact hafter _ (Logic.runs_pure none) separator
    · have h : L.Runs (some <$> (liftExcept v.asString : Run String)) :=
        Logic.map (Logic.runs_liftExcept (by simp)) fun _ _ => trivial
      refine L.bind h fun separator _ => ?_
      split
      · next arg harg => exact hafter _ (hgiven arg harg) separator
      · exact hafter _ (Logic.runs_pure none) separator
  · refine L.bind (Logic.runs_pure none) fun separator _ => ?_
    split
    · next arg harg => exact hafter _ (hgiven arg harg) separator
    · exact hafter _ (Logic.runs_pure none) separator

theorem runs_compute (hchance : usesChance call.op = true → L.Chance) (ha : L.Arguments call)
    (hn : L.Supplied call call.op.reads) (receiver : Json) : L.Runs (call.compute receiver) := by
  unfold compute
  split
  · next h => exact runs_map ha (hn.of_op h) receiver
  · next h => exact runs_concatMap ha (hn.of_op h) receiver
  · next h => exact runs_offsetsOf ha (hn.of_op h) receiver
  · exact L.bind (Logic.runs_lift (by simp)) fun _ _ => L.pure trivial
  · exact runs_union ha receiver
  · next h => exact runs_sample (hchance (by rw [h]; rfl)) ha (hn.of_op h) receiver
  · next h => exact runs_forEach ha (hn.of_op h) receiver
  · exact runs_withFields ha receiver
  · next h => exact runs_reduce ha (hn.of_op h) receiver
  · next h => exact runs_fold ha (hn.of_op h) receiver
  · exact runs_count ha receiver
  · exact runs_sum ha receiver
  · exact runs_average ha receiver
  · exact runs_extreme ha .lt receiver
  · exact runs_extreme ha .gt receiver
  · exact runs_distinct receiver
  · exact runs_group ha receiver
  · exact Logic.runs_lift (by simp)
  · exact runs_contains ha receiver
  · exact runs_pluck ha receiver
  · exact runs_without ha receiver
  · exact runs_merge ha receiver
  · exact runs_hasFields ha receiver
  · next h => exact runs_getField ha (hn.of_op h) receiver
  · next h => exact runs_bracket ha (hn.of_op h) receiver
  · exact Logic.runs_lift (by simp)
  · exact Logic.runs_lift (by simp)
  · next h => exact runs_withValue ha (hn.of_op h) receiver _
  · next h => exact runs_withValue ha (hn.of_op h) receiver _
  · next h => exact runs_withValue ha (hn.of_op h) receiver _
  · next h => exact runs_withArray ha (hn.of_op h) receiver _
  · next h => exact runs_withArray ha (hn.of_op h) receiver _
  · next h => exact runs_withArray ha (hn.of_op h) receiver _
  · next h => exact runs_withArray ha (hn.of_op h) receiver _
  · next h => exact runs_insertAt ha (hn.of_op h) receiver
  · next h => exact runs_deleteAt ha (hn.of_op h) receiver
  · next h => exact runs_changeAt ha (hn.of_op h) receiver
  · next h => exact runs_spliceAt ha (hn.of_op h) receiver
  · exact runs_arithmetic ha receiver Json.operational_add
  · exact runs_arithmetic ha receiver Json.operational_sub
  · exact runs_arithmetic ha receiver Json.operational_mul
  · exact runs_arithmetic ha receiver Json.operational_div
  · exact runs_arithmetic ha receiver Json.operational_modulo
  · exact Logic.runs_lift (by simp)
  · exact Logic.runs_lift (by simp)
  · exact Logic.runs_lift (by simp)
  · exact runs_compared ha receiver _ id
  · exact runs_compared ha receiver _ not
  · exact runs_compared ha receiver _ id
  · exact runs_compared ha receiver _ id
  · exact runs_compared ha receiver _ id
  · exact runs_compared ha receiver _ id
  · exact L.pure trivial
  · next h => exact ha.value 1 (hn.of_op h) fun _ => Logic.runs_lift (by simp)
  · exact Logic.runs_lift (by simp)
  · next h => exact runs_during ha (hn.of_op h) receiver
  · exact Logic.runs_lift (by simp)
  · exact Logic.runs_lift (by simp)
  iterate 8 exact Logic.runs_lift (by simp)
  · exact Logic.runs_lift (by simp)
  · exact L.bind (Logic.runs_lift (by simp)) fun _ _ => Logic.runs_lift (by simp)
  · next h => exact runs_matchText ha (hn.of_op h) receiver
  · exact runs_split ha receiver
  · exact Logic.runs_lift (by simp)
  · exact Logic.runs_lift (by simp)
  · next h => exact ha.string 1 (hn.of_op h) fun _ => Logic.runs_lift (by simp)
  · exact L.pure trivial
  · exact L.throw _ trivial

/-! ### Operations on receivers -/

variable {receiver : Datum}

theorem holds_ofValue {x : Run Json} (h : L.Runs x) : L.Holds (.value <$> x) L.Datum :=
  Logic.map h fun _ _ => trivial

theorem holds_dispatch (ha : L.Arguments call) (hr : L.Datum receiver)
    (htable : call.op = .table → L.Holds (call.table receiver) L.Datum)
    (hinsert : call.op = .insert → L.Holds (call.insert receiver) L.Datum)
    (hwrite : writesRows call.op = true → L.Holds (call.write receiver) L.Datum)
    (hchance : usesChance call.op = true → L.Chance := by exact fun _ => trivial)
    (hn : L.Supplied call call.op.reads := by exact Or.inl trivial) :
    L.Holds (call.dispatch receiver) L.Datum := by
  unfold dispatch
  split
  · next h => exact htable h
  · next h => exact holds_get ha (hn.of_op h) hr
  · exact holds_getAll ha hr
  · next h => exact holds_between ha (hn.of_op h) hr
  · next h => exact holds_between ha (hn.of_op h) hr
  · next h => exact holds_filter ha (hn.of_op h) hr
  · exact holds_orderBy ha hr
  · next h => exact holds_skip ha (hn.of_op h) hr
  · next h => exact holds_limit ha (hn.of_op h) hr
  · next h => exact holds_slice ha (hn.of_op h) hr
  · next h => exact holds_nth ha (hn.of_op h) hr
  · next h => exact hinsert h
  · next h => exact hwrite (by rw [h]; rfl)
  · next h => exact hwrite (by rw [h]; rfl)
  · next h => exact hwrite (by rw [h]; rfl)
  · exact L.pure trivial
  · exact holds_ofValue (runs_info hr)
  · exact L.bind (Logic.materialize hr) fun v _ =>
      L.bind (runs_compute hchance ha hn v) fun _ _ => L.pure trivial

theorem runs_onGroup
    (hd : ∀ receiver, L.Datum receiver → L.Holds (call.dispatch receiver) L.Datum) (group : Json) :
    L.Runs (call.onGroup group) := by
  unfold onGroup
  split
  · next key items =>
    refine L.bind (hd (.value items) trivial) fun result hresult => ?_
    exact L.bind (Logic.materialize hresult) fun _ _ => L.pure trivial
  · exact L.throw _ trivial

theorem holds_perGroup
    (hd : ∀ receiver, L.Datum receiver → L.Holds (call.dispatch receiver) L.Datum)
    (grouped : Json) : L.Holds (call.perGroup grouped) L.Datum := by
  unfold perGroup
  split
  · exact L.throw _ trivial
  · exact L.bind (Logic.runs_mapM fun group _ => runs_onGroup hd group) fun _ _ => L.pure trivial

theorem holds_method (ha : L.Arguments call) (hn : L.Supplied call 1)
    (hd : ∀ receiver, L.Datum receiver → L.Holds (call.dispatch receiver) L.Datum) :
    L.Holds call.method L.Datum := by
  refine L.bind (ha.arg 0 hn) fun arg harg => L.bind harg.run fun receiver hr => ?_
  split
  · split
    · exact holds_perGroup hd _
    · exact hd _ trivial
  · exact hd _ hr

/-! ### All operations -/

theorem runs_now (hchance : L.Chance) : L.Runs now :=
  L.bind (L.context hchance) fun _ _ => Logic.runs_lift (by simp)

theorem holds_perform (hchance : usesChance call.op = true → L.Chance) (ha : L.Arguments call)
    (hn : L.Supplied call call.op.reads) (hop : call.op ≠ .db)
    (hd : ∀ receiver, L.Datum receiver → L.Holds (call.dispatch receiver) L.Datum) :
    L.Holds call.perform L.Datum := by
  unfold perform
  split
  · next h => exact absurd h hop
  · next h => exact holds_ofValue (runs_now (hchance (by rw [h]; rfl)))
  · exact L.bind (Logic.values ha) fun _ _ =>
      L.bind (Logic.runs_lift (by simp)) fun _ _ => L.pure trivial
  · next h => exact ha.value 0 (hn.of_op h) fun _ => L.bind (Logic.runs_lift (by simp)) fun _ _ => L.pure trivial
  · next h => exact ha.value 0 (hn.of_op h) fun _ => L.bind (Logic.runs_lift (by simp)) fun _ _ => L.pure trivial
  iterate 19 exact L.pure trivial
  · exact L.throw _ trivial
  · exact L.throw _ trivial
  · exact L.throw _ trivial
  · exact L.throw _ trivial
  · exact holds_ofValue (runs_literal ha)
  · exact holds_ofValue (runs_object ha)
  · exact holds_ofValue (runs_range ha)
  · next h => exact holds_ofValue (runs_random (hchance (by rw [h]; rfl)) ha)
  · next h => exact holds_ofValue (runs_identifier (hchance (by rw [h]; rfl)) ha)
  · next h => exact holds_ofValue (runs_readJson ha (hn.of_op h))
  · next h => exact ha.value 0 (hn.of_op h) fun _ => L.pure trivial
  · exact holds_error ha
  · next h => exact holds_branch ha (hn.of_op h)
  · next h => exact holds_ofValue (runs_invoke ha (hn.of_op h))
  · exact holds_ofValue (runs_allHold _ ha)
  · exact holds_ofValue (runs_someHolds ha)
  · next h => exact holds_ofValue (runs_default ha (hn.of_op h))
  · exact L.throw _ trivial
  · refine holds_method ha (hn.mono ?_) hd
    -- every operation with a receiver reads it
    generalize call.op = op at *
    cases op <;> first | decide | contradiction

/-- Without lists to be spliced in, a call stays as it is. -/
theorem splice_eq (h : ∀ arg ∈ call.args, arg.head ≠ some .args) : call.splice = pure call := by
  unfold splice
  refine if_neg fun hany => ?_
  obtain ⟨arg, harg, hhead⟩ := List.any_eq_true.mp hany
  exact h arg harg (of_decide_eq_true hhead)

theorem run_eq_perform (h : ∀ arg ∈ call.args, arg.head ≠ some .args) :
    call.run = call.perform := by
  unfold Call.run
  rw [splice_eq h, pure_bind]

/-- An operation keeps to the rules if it does so on every receiver. The operation that
names a database is not looked into. -/
theorem holds_run (ha : L.Arguments call) (hop : call.op ≠ .db)
    (hd : ∀ spliced : Call, L.Arguments spliced → spliced.op = call.op →
      L.Supplied spliced spliced.op.reads → ∀ receiver, L.Datum receiver → L.Holds (spliced.dispatch receiver) L.Datum)
    (hchance : usesChance call.op = true → L.Chance := by exact fun _ => trivial)
    (hn : L.Supplied call call.op.reads := by exact Or.inl trivial) :
    L.Holds call.run L.Datum := by
  refine L.bind (Logic.splice ha) fun spliced hspliced => ?_
  obtain ⟨hargs, hsame, -, hkept⟩ := hspliced
  have hsupplied : L.Supplied spliced spliced.op.reads :=
    hkept.elim .inl fun hkept => hkept ▸ hn
  exact holds_perform (hsame ▸ hchance) hargs hsupplied (hsame ▸ hop)
    (hd spliced hargs hsame hsupplied)

/-! ### Databases -/

/-- A database by its name, which has to be there. -/
def named (db : String) : Run Datum := do
  unless (← Run.store).hasDatabase db do throw (.noDatabase db)
  return .database db

theorem holds_named {P : Datum → Prop} {db : String} (hstore : L.Runs Run.store)
    (hP : P (.database db)) : L.Holds (named db) P := by
  refine L.bind hstore fun store _ => ?_
  dsimp only
  split
  · exact L.pure hP
  · exact L.bind (L.throw _ trivial) fun _ (h : False) => h.elim

/-- The operation that names a database keeps to the rules if naming one does. -/
theorem holds_run_database (ha : L.Arguments call) (hop : call.op = .db)
    (hnamed : ∀ db, L.Holds (named db) L.Datum)
    (hn : L.Supplied call 1 := by exact Or.inl trivial) : L.Holds call.run L.Datum := by
  refine L.bind (Logic.splice ha) fun spliced hspliced => ?_
  obtain ⟨hargs, hsame, -, hkept⟩ := hspliced
  have hsupplied : L.Supplied spliced 1 := hkept.elim .inl fun hkept => hkept ▸ hn
  unfold perform
  rw [hsame, hop]
  exact hargs.string 0 hsupplied hnamed

end DocQuery.Call
