import DocQuery.Proofs.Limit.Operand

/-! Operations that keep within a limit.

An operation whose receiver and arguments are within a limit gives what is within it, unless it
joins arrays, makes an array of something else, or takes data from outside
(`Operation.unmeasured`). The others pick items, map them one by one or measure what they
build. -/
namespace DocQuery
open Run

/-- Operations that take data from outside of a query, or build an array that they do not
measure: they join arrays, put items into one, or make one of selectors, of the fields of an
object or of the pieces of a text. -/
def Operation.unmeasured : List Operation :=
  [.table, .json, .concatMap, .union, .forEach, .group, .keys, .values, .append, .prepend,
    .setInsert, .setUnion, .insertAt, .spliceAt, .add, .matchText, .split, .coerceTo]

namespace Call
variable {n : Nat} {call : Call}

/-! ### Choosing what is run -/

theorem within_choose {otherwise : Argument} (ho : otherwise.Limited n) :
    ∀ cases : List Argument, (∀ arg ∈ cases, arg.Limited n) →
      Yields (choose otherwise cases) (Datum.Within n)
  | [], _ => ho.run
  | [_], _ => ho.run
  | test :: result :: rest, h => by
    refine yields_after fun v => ?_
    split
    · exact (h result (List.mem_cons_of_mem _ List.mem_cons_self)).run
    · exact within_choose ho rest fun arg harg =>
        h arg (List.mem_cons_of_mem _ (List.mem_cons_of_mem _ harg))

theorem within_branch (ha : call.Limited n) : Yields call.branch (Datum.Within n) := by
  unfold branch
  split
  · exact yields_throw _
  · next otherwise ho =>
    dsimp only
    split
    · exact yields_throw_bind _ _
    · exact within_choose (ha otherwise (List.mem_of_getLast? ho)) _ fun arg harg =>
        ha arg (List.dropLast_subset _ harg)

theorem within_default (ha : call.Limited n) : Yields call.default (Json.Within n) := by
  refine yielding.bind (ha.arg 1) fun fallback hf => yielding.bind (ha.arg 0) fun arg harg => ?_
  refine yielding.bind (yielding.caught Fault.isMissing harg.value) fun result hresult => ?_
  split
  · exact hf.apply fun v hv => List.mem_singleton.mp hv ▸ trivial
  · exact yielding.pure (hresult _ rfl)
  · exact hf.apply fun v hv => List.mem_singleton.mp hv ▸ trivial

theorem within_allHold {last : Json} (hlast : last.Within n) {args : List Argument}
    (h : ∀ arg ∈ args, arg.Limited n) : Yields (allHold last args) (Json.Within n) := by
  induction args generalizing last with
  | nil => exact yielding.pure hlast
  | cons arg rest ih =>
    obtain ⟨harg, hrest⟩ := List.forall_mem_cons.mp h
    refine yielding.bind harg.value fun v hv => ?_
    split
    · exact ih hv hrest
    · exact yielding.pure hv

theorem within_someHolds {args : List Argument} (h : ∀ arg ∈ args, arg.Limited n) :
    Yields (someHolds args) (Json.Within n) := by
  induction args with
  | nil => exact yielding.pure trivial
  | cons arg rest ih =>
    obtain ⟨harg, hrest⟩ := List.forall_mem_cons.mp h
    refine yielding.bind harg.value fun v hv => ?_
    split
    · exact yielding.pure hv
    · exact ih hrest

theorem within_invoke (ha : call.Limited n) : Yields call.invoke (Json.Within n) := by
  unfold invoke
  split
  · exact yields_throw _
  · next function args hargs =>
    have hall : ∀ arg ∈ function :: args, arg.Limited n := hargs ▸ ha
    obtain ⟨hfunction, hrest⟩ := List.forall_mem_cons.mp hall
    exact yielding.bind (yields_values hrest) fun vs hvs => hfunction.apply hvs

/-! ### Making values -/

theorem within_literal (ha : call.Limited n) : Yields call.literal (Json.Within n) := by
  have hmade : ∀ held : List (String × Json), (∀ entry ∈ held, entry.2.Within n) →
      (Json.ofFields ((tagKey, .string "LITERAL") :: held)).Within n := fun held hheld =>
    Json.within_ofFields (List.forall_mem_cons.mpr ⟨trivial, hheld⟩)
  unfold literal
  dsimp only
  split
  · next arg harg =>
    refine yielding.bind (ha arg (List.mem_of_mem_head? harg)).value fun v hv => ?_
    rw [pure_bind]
    exact yielding.pure (hmade _ fun entry hentry => List.mem_singleton.mp hentry ▸ hv)
  · exact yielding.pure (hmade [] nofun)

theorem within_object (ha : call.Limited n) : Yields call.object (Json.Within n) := by
  refine yielding.bind (yields_values ha) fun vs hvs => ?_
  dsimp only
  split
  · exact yields_throw_bind _ _
  · refine yielding.bind (yields_lift fun fields hfields => ?_) fun fields h => yielding.pure h
    exact within_pairUp Json.within_empty hvs hfields

theorem within_range (hn : arrayLimit ≤ n) : Yields call.range (Json.Within n) := by
  unfold range
  split
  · exact yields_throw _
  · exact yields_after fun _ => yields_lift fun _ => within_integers hn
  · exact yields_after fun _ => yields_after fun _ => yields_lift fun _ => within_integers hn

theorem within_identifier : Yields call.identifier (Json.Within n) := by
  unfold identifier
  split <;> exact yields_after fun _ => yielding.pure trivial

theorem within_random : Yields call.random (Json.Within n) := by
  have hreal : ∀ lower upper : Binary64, Yields (randomReal lower upper) (Json.Within n) := by
    intro lower upper
    unfold randomReal
    dsimp only
    split
    · refine yields_after fun x => ?_
      split <;> exact yields_lift fun _ => Extended.within_toJson
    · exact yields_throw_bind _ _
  have hinteger : ∀ lower upper : Int, Yields (randomInteger lower upper) (Json.Within n) := by
    intro lower upper
    unfold randomInteger
    dsimp only
    split
    · exact yields_after fun _ => yielding.pure trivial
    · exact yields_throw_bind _ _
  refine yields_after fun vs => ?_
  split
  · exact yields_after fun _ => yields_lift fun _ => Extended.within_toJson
  all_goals
    split
    · exact yields_after fun _ => yields_after fun _ => hreal _ _
    · exact yields_after fun _ => yields_after fun _ => hinteger _ _

/-! ### Items one by one -/

theorem within_mapM {α : Type} {xs : List α} {f : α → Run Json} (hlength : xs.length ≤ n)
    (h : ∀ x ∈ xs, Yields (f x) (Json.Within n)) :
    Yields (xs.mapM f) fun ys => (Json.array ys).Within n :=
  Logic.mono (Logic.mapM_length h) fun _ hys =>
    Json.within_array_iff.mpr ⟨hys.1 ▸ hlength, hys.2⟩

/-- There are as many rows as the shortest column has items. -/
theorem within_columnsToRows : ∀ {columns : List (List Json)},
    (∀ column ∈ columns, (Json.array column).Within n) →
      (columnsToRows columns).length ≤ n ∧
        ∀ row ∈ columnsToRows columns, ∀ v ∈ row, v.Within n
  | [], _ => ⟨Nat.zero_le n, nofun⟩
  | [column], h => by
    obtain ⟨hlength, hitems⟩ := Json.within_array_iff.mp (h column List.mem_cons_self)
    refine ⟨by rwa [columnsToRows, List.length_map], fun row hrow v hv => ?_⟩
    obtain ⟨item, hitem, rfl⟩ := List.mem_map.mp hrow
    exact List.mem_singleton.mp hv ▸ hitems item hitem
  | column :: next :: rest, h => by
    obtain ⟨hcolumn, hmore⟩ := List.forall_mem_cons.mp h
    obtain ⟨hlength, hrows⟩ := within_columnsToRows hmore
    rw [columnsToRows, ← List.map_uncurry_zip_eq_zipWith]
    · refine ⟨?_, fun row hrow v hv => ?_⟩
      · rw [List.length_map, List.length_zip]
        exact Nat.le_trans (Nat.min_le_right _ _) hlength
      · obtain ⟨⟨item, others⟩, hzip, rfl⟩ := List.mem_map.mp hrow
        obtain ⟨hitem, hothers⟩ := List.of_mem_zip hzip
        rcases List.mem_cons.mp hv with rfl | hv
        · exact hcolumn.item hitem
        · exact hrows others hothers v hv
    · nofun

variable {receiver : Json}

theorem within_map (ha : call.Limited n) (hr : receiver.Within n) :
    Yields (call.map receiver) (Json.Within n) := by
  unfold map
  split
  · exact yields_throw _
  · next function hf =>
    have hfunction := ha.rest function (List.mem_of_getLast? hf)
    refine yielding.bind (yields_lift fun _ => hr.asArray) fun first hfirst => ?_
    refine yielding.bind (Logic.mapM (Q := fun items => (Json.array items).Within n)
      fun arg harg => ?_) fun others hothers => ?_
    · have harg := ha.rest arg (List.dropLast_subset _ harg)
      exact yielding.bind harg.run fun _ hd => hd.sequence
    obtain ⟨hlength, hrows⟩ := within_columnsToRows (List.forall_mem_cons.mpr ⟨hfirst, hothers⟩)
    refine yielding.bind (within_mapM hlength fun row hrow => hfunction.apply (hrows row hrow)) ?_
    exact fun ys hys => yielding.pure hys

theorem within_offsetsOf (hr : receiver.Within n) :
    Yields (call.offsetsOf receiver) (Json.Within n) := by
  refine yields_after fun arg => yields_after fun test => ?_
  refine yielding.bind (yields_lift fun _ => hr.asArray) fun items hitems => ?_
  refine yielding.bind (Logic.mapM_length fun item _ => yields_any (test item)) fun verdicts h => ?_
  refine yielding.pure (Json.within_array_iff.mpr ⟨?_, fun item hitem => ?_⟩)
  · rw [List.length_map]
    refine Nat.le_trans (List.length_filterMap_le _ _) ?_
    rw [List.length_zipIdx, h.1]
    exact (Json.within_array_iff.mp hitems).1
  · obtain ⟨position, -, rfl⟩ := List.mem_map.mp hitem
    trivial

theorem within_sample (hr : receiver.Within n) :
    Yields (call.sample receiver) (Json.Within n) := by
  refine yields_after fun arg => yields_after fun count => ?_
  refine yielding.bind (yields_lift fun _ => hr.asArray) fun items hitems => ?_
  refine yielding.bind (holds_decorate fun item _ => yields_any _) fun tickets htickets => ?_
  refine yielding.pure (hitems.picked ((List.take_sublist _ _).subperm.trans ?_))
  rw [← htickets]
  exact ((List.mergeSort_perm _ _).map Prod.snd).subperm

/-! ### Folding -/

theorem within_reduce (ha : call.Limited n) (hr : receiver.Within n) :
    Yields (call.reduce receiver) (Json.Within n) := by
  refine yielding.bind (ha.arg 1) fun function hf => ?_
  refine yielding.bind (yields_lift fun _ => hr.asArray) fun items hitems => ?_
  split
  · exact yields_throw _
  · next first rest =>
    refine Logic.foldlM (hitems.item List.mem_cons_self) fun sum hsum item hitem => ?_
    have hitem := hitems.item (List.mem_cons_of_mem first hitem)
    exact hf.apply (by simpa using ⟨hsum, hitem⟩)

theorem within_fold (ha : call.Limited n) (hr : receiver.Within n) :
    Yields (call.fold receiver) (Json.Within n) := by
  unfold fold
  dsimp only
  split
  · exact yields_throw_bind _ _
  · refine yielding.bind (ha.arg 1) fun start hstart => yielding.bind hstart.value fun base hbase => ?_
    refine yielding.bind (ha.arg 2) fun function hf => ?_
    refine yielding.bind (yields_lift fun _ => hr.asArray) fun items hitems => ?_
    refine Logic.foldlM hbase fun sum hsum item hitem => ?_
    exact hf.apply (by simpa using ⟨hsum, hitems.item hitem⟩)

theorem within_count : Yields (call.count receiver) (Json.Within n) := by
  unfold count
  split
  · exact yielding.pure trivial
  · exact yields_after fun _ => yielding.pure trivial
  · split
    · exact yields_throw _
    · exact yielding.pure trivial
  · exact yields_throw _

theorem within_sum : Yields (call.sum receiver) (Json.Within n) :=
  yields_after fun _ => yields_after fun _ => yields_lift fun _ => Extended.within_toJson

theorem within_average : Yields (call.average receiver) (Json.Within n) := by
  refine yields_after fun found => yields_after fun total => ?_
  dsimp only
  split
  · exact yields_throw_bind _ _
  · exact yields_lift fun _ => Extended.within_toJson

/-- The extreme item is one of the items. -/
theorem within_extreme (wanted : Ordering) (hr : receiver.Within n) :
    Yields (call.extreme wanted receiver) (Json.Within n) := by
  refine yields_after fun selector? => ?_
  refine yielding.bind (yields_lift fun _ => hr.asArray) fun items hitems => ?_
  refine yielding.bind (Logic.foldlM (Q := fun best : Option (Json × Json) =>
    ∀ kept, best = some kept → kept.2.Within n) nofun fun best hbest item hitem => ?_)
    fun best hbest => ?_
  · refine yields_after fun key? => ?_
    split
    · refine yielding.pure fun kept hkept => ?_
      unfold better at hkept
      split at hkept
      · split at hkept
        · exact Option.some.inj hkept ▸ hitems.item hitem
        · exact hbest kept hkept
      · exact Option.some.inj hkept ▸ hitems.item hitem
    · exact yielding.pure hbest
  · split
    · exact yielding.pure (hbest _ rfl)
    · exact yields_throw _

theorem within_distinct (hr : receiver.Within n) :
    Yields (call.distinct receiver) (Json.Within n) := by
  refine yields_after fun index? => ?_
  split
  · next field _ =>
    refine yielding.bind (yields_lift fun _ => hr.asArray) fun items hitems => yielding.pure ?_
    exact (hitems.fieldOfEach field).picked (Json.distinct_subperm _)
  · refine yielding.bind (yields_lift fun _ => hr.asArray) fun items hitems => yielding.pure ?_
    exact hitems.picked (Json.distinct_subperm items)

/-! ### Documents -/

theorem within_eachDocument (hr : receiver.Within n) {change : Json → Run Json}
    (h : ∀ document : Json, document.Within n → Yields (change document) (Json.Within n)) :
    Yields (eachDocument receiver change) (Json.Within n) := by
  refine yielding.bind (yields_lift fun _ => hr.present) fun document hdocument => ?_
  split
  · refine yielding.bind (within_mapM (Json.within_array_iff.mp hdocument).1 fun row hrow => ?_)
      fun rows hrows => yielding.pure hrows
    exact h row (hdocument.item hrow)
  · exact h _ hdocument

theorem within_pluck (hr : receiver.Within n) : Yields (call.pluck receiver) (Json.Within n) :=
  yields_after fun _ => within_eachDocument hr fun _ hdocument =>
    yields_lift fun _ => hdocument.pluck

theorem within_without (hr : receiver.Within n) :
    Yields (call.without receiver) (Json.Within n) :=
  yields_after fun _ => within_eachDocument hr fun _ hdocument =>
    yields_lift fun _ => hdocument.without

theorem within_merge (ha : call.Limited n) (hr : receiver.Within n) :
    Yields (call.merge receiver) (Json.Within n) := by
  refine within_eachDocument hr fun document hdocument => ?_
  refine Logic.foldlM hdocument fun merged hmerged patch hpatch => ?_
  have hargs : ∀ arg ∈ [document], arg.Within n := fun arg harg =>
    List.mem_singleton.mp harg ▸ hdocument
  exact yielding.bind ((ha.rest patch hpatch).apply hargs) fun v hv =>
    yielding.pure (hmerged.merge v hv)

theorem within_hasFields (hr : receiver.Within n) :
    Yields (call.hasFields receiver) (Json.Within n) := by
  refine yields_after fun selectors => yielding.pure ?_
  split
  · exact hr.picked List.filter_sublist.subperm
  · trivial

theorem within_withFields (hr : receiver.Within n) :
    Yields (call.withFields receiver) (Json.Within n) := by
  refine yields_after fun selectors => ?_
  refine yielding.bind (yields_lift fun _ => hr.asArray) fun items hitems => ?_
  have hrows := hitems.picked
    (List.filter_sublist (p := (Json.hasFields · selectors)) (l := items)).subperm
  refine yielding.bind (within_mapM (Json.within_array_iff.mp hrows).1 fun row hrow => ?_)
    fun rows hrows => yielding.pure hrows
  exact yields_lift fun _ => (hrows.item hrow).pluck

theorem within_getField (hr : receiver.Within n) :
    Yields (call.getField receiver) (Json.Within n) :=
  yields_after fun _ => yields_after fun _ => yields_lift fun _ => hr.fieldOrFields

/-! ### Positions -/

theorem within_itemAt {items : List Json} (h : (Json.array items).Within n) {i : Int} {v : Json}
    (hv : Json.itemAt items i = .ok v) : v.Within n :=
  h.item (mem_of_itemAt hv)

theorem within_bracket (hr : receiver.Within n) :
    Yields (call.bracket receiver) (Json.Within n) := by
  refine yields_after fun arg => yields_after fun key => ?_
  split
  · exact yields_lift fun _ => hr.fieldOrFields
  · refine yielding.bind (yields_lift fun _ => hr.asArray) fun items hitems => ?_
    split
    · exact yields_lift fun _ => within_itemAt hitems
    · exact yields_throw _
  · exact yields_throw _

theorem within_changeAt (ha : call.Limited n) (hr : receiver.Within n) :
    Yields (call.changeAt receiver) (Json.Within n) := by
  refine yielding.bind (yields_lift fun _ => hr.asArray) fun items hitems => ?_
  refine yields_after fun arg => yields_after fun index => yields_after fun position => ?_
  refine yielding.bind (ha.arg 2) fun arg harg => yielding.bind harg.value fun v hv => ?_
  exact yielding.pure (hitems.changedAt hv position)

theorem within_deleteAt (hr : receiver.Within n) :
    Yields (call.deleteAt receiver) (Json.Within n) := by
  refine yielding.bind (yields_lift fun _ => hr.asArray) fun items hitems => ?_
  refine yields_after fun arg => yields_after fun index => yields_after fun start => ?_
  dsimp only
  split <;> exact yields_after fun stop =>
    yielding.pure (hitems.picked (Json.deletedAt_sublist items start stop).subperm)

/-- An operation that picks some of the items. -/
theorem within_withArray (hr : receiver.Within n) {join : List Json → List Json → List Json}
    (hjoin : ∀ items others, List.Subperm (join items others) items) :
    Yields (call.withArray receiver join) (Json.Within n) := by
  refine yielding.bind (yields_lift fun _ => hr.asArray) fun items hitems => ?_
  refine yields_after fun arg => yields_after fun list => ?_
  exact yields_after fun others => yielding.pure (hitems.picked (hjoin items others))

/-! ### Operations on values -/

theorem within_arithmetic (ha : call.Limited n) (hr : receiver.Within n)
    {step : Json → Json → Except Fault Json}
    (hstep : ∀ a b c : Json, a.Within n → b.Within n → step a b = .ok c → c.Within n) :
    Yields (call.arithmetic receiver step) (Json.Within n) :=
  Logic.foldlM hr fun a harg arg hmem => yielding.bind (ha.rest arg hmem).value fun b hb =>
    yields_lift fun c => hstep a b c harg hb

theorem within_compared (receiver : Json) (relation : Json → Json → Bool)
    (verdict : Bool → Bool) :
    Yields (do return Json.bool (verdict (← call.comparison receiver relation)))
      (Json.Within n) :=
  yields_after fun _ => yielding.pure trivial

theorem within_rounded (rule : Extended → Extended) :
    Yields (liftM (rounded receiver rule)) (Json.Within n) := by
  refine yields_lift fun v hv => ?_
  obtain ⟨x, -, hv⟩ := bind_eq_ok hv
  exact Extended.within_toJson hv

theorem within_zoneOf (hr : receiver.Within n) :
    Yields (liftM (zoneOf receiver)) (Json.Within n) := by
  refine yields_lift fun v hv => ?_
  obtain ⟨x, -, hv⟩ := bind_eq_ok hv
  cases hv
  cases hzone : receiver.field? "timezone" with
  | none => trivial
  | some zone => exact hr.field? hzone

theorem within_recased (rule : List Char → List Char) :
    Yields (liftM (recased receiver rule)) (Json.Within n) := by
  refine yields_lift fun v hv => ?_
  obtain ⟨text, -, hv⟩ := bind_eq_ok hv
  cases hv
  trivial

theorem within_during : Yields (call.during receiver) (Json.Within n) :=
  yields_after fun _ => yields_after fun _ => yields_after fun _ => yields_after fun _ =>
    yields_after fun _ => yields_after fun _ => yields_lift fun _ => Time.within_during

end Call

end DocQuery
