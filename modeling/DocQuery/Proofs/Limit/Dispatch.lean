import DocQuery.Proofs.Limit.Operations

/-! Calls that keep within a limit.

The operations come together here: what any call gives that is not of an operation without a
measure (`Operation.unmeasured`) is within the limit that its arguments are within. Tables are
not among what operands give, so writes and look-ups fail before they read anything. -/
namespace DocQuery.Call
open Run

variable {n : Nat} {call : Call}

theorem within_compute (hn : arrayLimit ≤ n) (hop : call.op ∉ Operation.unmeasured)
    (ha : call.Limited n) {receiver : Json} (hr : receiver.Within n) :
    Yields (call.compute receiver) (Json.Within n) := by
  have hmeasured : ∀ {op : Operation}, call.op = op → op ∉ Operation.unmeasured := fun h => h ▸ hop
  unfold compute
  split
  · exact within_map ha hr
  · next h => exact absurd (by decide) (hmeasured h)
  · exact within_offsetsOf hr
  · exact yields_after fun _ => yielding.pure trivial
  · next h => exact absurd (by decide) (hmeasured h)
  · exact within_sample hr
  · next h => exact absurd (by decide) (hmeasured h)
  · exact within_withFields hr
  · exact within_reduce ha hr
  · exact within_fold ha hr
  · exact within_count
  · exact within_sum
  · exact within_average
  · exact within_extreme .lt hr
  · exact within_extreme .gt hr
  · exact within_distinct hr
  · next h => exact absurd (by decide) (hmeasured h)
  · exact yields_lift fun _ => within_ungroup hr
  · exact yields_after fun _ => yields_after fun _ => yielding.pure trivial
  · exact within_pluck hr
  · exact within_without hr
  · exact within_merge ha hr
  · exact within_hasFields hr
  · exact within_getField hr
  · exact within_bracket hr
  · next h => exact absurd (by decide) (hmeasured h)
  · next h => exact absurd (by decide) (hmeasured h)
  · next h => exact absurd (by decide) (hmeasured h)
  · next h => exact absurd (by decide) (hmeasured h)
  · next h => exact absurd (by decide) (hmeasured h)
  · exact within_withArray hr fun items others => (Json.difference_sublist items others).subperm
  · exact within_withArray hr fun items others =>
      (Json.distinct_subperm _).trans List.filter_sublist.subperm
  · next h => exact absurd (by decide) (hmeasured h)
  · exact within_withArray hr fun items others =>
      (Json.distinct_subperm _).trans (Json.difference_sublist items others).subperm
  · next h => exact absurd (by decide) (hmeasured h)
  · exact within_deleteAt hr
  · exact within_changeAt ha hr
  · next h => exact absurd (by decide) (hmeasured h)
  · next h => exact absurd (by decide) (hmeasured h)
  · exact within_arithmetic ha hr fun _ _ _ _ _ => Json.within_sub
  · exact within_arithmetic ha hr fun _ _ _ => Json.within_mul hn
  · exact within_arithmetic ha hr fun _ _ _ _ _ => Json.within_div
  · exact within_arithmetic ha hr fun _ _ _ _ _ => Json.within_modulo
  · exact within_rounded _
  · exact within_rounded _
  · exact within_rounded _
  · exact within_compared receiver _ id
  · exact within_compared receiver _ not
  · exact within_compared receiver _ id
  · exact within_compared receiver _ id
  · exact within_compared receiver _ id
  · exact within_compared receiver _ id
  · exact yielding.pure trivial
  · exact yields_after fun _ => yields_after fun _ => yields_lift fun _ => Time.within_inZone
  · exact within_zoneOf hr
  · exact within_during
  · exact yields_lift fun _ => Time.within_date
  · exact yields_lift fun _ => Time.within_timeOfDay
  iterate 8 exact yields_lift fun _ => Time.within_component
  · exact yields_lift fun _ => Time.within_isoText
  · exact yields_after fun _ => yields_lift fun _ => Extended.within_toJson
  · next h => exact absurd (by decide) (hmeasured h)
  · next h => exact absurd (by decide) (hmeasured h)
  · exact within_recased _
  · exact within_recased _
  · next h => exact absurd (by decide) (hmeasured h)
  · exact yielding.pure trivial
  · exact yields_throw _

/-! ### Operations on receivers -/

section
variable {receiver : Datum}

theorem within_value {x : Run Json} (h : Yields x (Json.Within n)) :
    Yields (.value <$> x) (Datum.Within n) :=
  Logic.map h fun _ hv => hv

/-- A slice of a text is no array. -/
theorem within_slice (hr : receiver.Within n) :
    Yields (call.slice receiver) (Datum.Within n) := by
  by_cases htext : ∀ text, receiver ≠ .value (.string text)
  · exact Logic.mono (picks_slice (yielding_arguments call) (yielding_supplied call 2) hr.rows htext)
      fun _ => Datum.Within.of_picked
  · obtain ⟨text, rfl⟩ : ∃ text, receiver = .value (.string text) := by simpa using htext
    exact yields_after fun _ => yielding.pure trivial

theorem within_nth (hr : receiver.Within n) : Yields (call.nth receiver) (Datum.Within n) := by
  refine yielding.bind hr.rows fun found hfound => ?_
  obtain ⟨name?, rows⟩ := found
  obtain ⟨rfl, hrows⟩ := hfound
  refine yields_after fun arg => yields_after fun i => ?_
  exact yielding.bind (yields_lift fun _ => within_itemAt hrows) fun row hrow => yielding.pure hrow

theorem within_info (hr : receiver.Within n) : Yields (info receiver) (Json.Within n) := by
  have hdb : ∀ name, (databaseInfo name).Within n := fun name =>
    Json.within_ofFields (by simp [Json.Within])
  unfold info
  cases receiver with
  | value v => exact yielding.pure (Json.within_ofFields (by simp [Json.Within]))
  | database name => exact yielding.pure (hdb name)
  | function arity => exact yielding.pure (Json.within_ofFields (by simp [Json.Within, Json.ofNat]))
  | table name => exact hr.elim
  | selection name rows => exact hr.elim
  | row name row? => exact hr.elim

theorem within_dispatch (hn : arrayLimit ≤ n) (hop : call.op ∉ Operation.unmeasured)
    (ha : call.Limited n) (hr : receiver.Within n) :
    Yields (call.dispatch receiver) (Datum.Within n) := by
  have hargs := yielding_arguments call
  have hsupplied := yielding_supplied call
  have hpicked : ∀ {x : Run Datum},
      Yields x (Picked fun found => found.1 = none ∧ (Json.array found.2).Within n) →
        Yields x (Datum.Within n) := fun h => Logic.mono h fun _ => Datum.Within.of_picked
  unfold dispatch
  split
  · next h => exact absurd (h ▸ by decide) hop
  · exact yielding.bind hr.asTable fun _ h => h.elim
  · exact yielding.bind hr.asTable fun _ h => h.elim
  iterate 2
    · refine hpicked (picks_between hargs (hsupplied 3) hr.rows ?_)
      rintro name rows ⟨hname, -⟩
      cases hname
  · exact hpicked (picks_filter hargs (hsupplied 2) hr.rows)
  · exact hpicked (picks_orderBy hargs hr.rows)
  · exact hpicked (picks_skip hargs (hsupplied 2) hr.rows)
  · exact hpicked (picks_limit hargs (hsupplied 2) hr.rows)
  · exact within_slice hr
  · exact within_nth hr
  · exact yielding.bind hr.asTable fun _ h => h.elim
  iterate 3 exact yielding.bind hr.targets fun _ h => h.elim
  · exact yielding.pure trivial
  · exact within_value (within_info hr)
  · exact yielding.bind hr.materialize fun v hv => within_value (within_compute hn hop ha hv)

/-- A group is a pair, and stays one. -/
theorem within_onGroup (hn : arrayLimit ≤ n)
    (hd : ∀ receiver : Datum, receiver.Within n → Yields (call.dispatch receiver) (Datum.Within n))
    {group : Json} (hgroup : group.Within n) : Yields (call.onGroup group) (Json.Within n) := by
  unfold onGroup
  split
  · next key items =>
    have hkey : key.Within n := hgroup.item List.mem_cons_self
    have hitems : items.Within n := hgroup.item (List.mem_cons_of_mem _ List.mem_cons_self)
    refine yielding.bind (hd (.value items) hitems) fun d hd => yielding.bind hd.materialize ?_
    refine fun v hv => yielding.pure (Json.within_array_iff.mpr ⟨?_, ?_⟩)
    · exact Nat.le_trans (show 2 ≤ arrayLimit by decide) hn
    · simpa using ⟨hkey, hv⟩
  · exact yields_throw _

theorem within_perGroup (hn : arrayLimit ≤ n)
    (hd : ∀ receiver : Datum, receiver.Within n → Yields (call.dispatch receiver) (Datum.Within n))
    {grouped : Json} (hgrouped : grouped.Within n) :
    Yields (call.perGroup grouped) (Datum.Within n) := by
  unfold perGroup
  split
  · exact yields_throw _
  · next groups hgroups =>
    obtain ⟨data, hdata, hgroups⟩ := Option.bind_eq_some_iff.mp hgroups
    have hgroups : (Json.array groups).Within n := by
      cases data with
      | array items =>
        cases hgroups
        exact hgrouped.field? hdata
      | _ => cases hgroups
    refine yielding.bind (within_mapM (Json.within_array_iff.mp hgroups).1 fun group hgroup =>
      within_onGroup hn hd (hgroups.item hgroup)) fun results hresults => yielding.pure ?_
    exact Json.within_ofFields (by simpa [Json.Within] using hresults)

theorem within_method (hn : arrayLimit ≤ n) (hop : call.op ∉ Operation.unmeasured)
    (ha : call.Limited n) : Yields call.method (Datum.Within n) := by
  have hd : ∀ receiver : Datum, receiver.Within n →
      Yields (call.dispatch receiver) (Datum.Within n) := fun _ => within_dispatch hn hop ha
  refine yielding.bind (ha.arg 0) fun arg harg => yielding.bind harg.run fun receiver hr => ?_
  split
  · split
    · exact within_perGroup hn hd hr
    · exact hd _ hr
  · exact hd _ hr

end

/-! ### All operations -/

theorem within_perform (hn : arrayLimit ≤ n) (hop : call.op ∉ Operation.unmeasured)
    (ha : call.Limited n) : Yields call.perform (Datum.Within n) := by
  unfold perform
  split
  · exact yields_after fun _ => yields_after fun name => holds_named (yields_any _) trivial
  · exact within_value (yields_after fun _ => yields_lift fun _ => Time.within_ofMoment)
  · exact yields_after fun _ => within_value (yields_lift fun _ => Time.within_ofArguments)
  · exact yields_after fun _ => yields_after fun _ =>
      within_value (yields_lift fun _ => Time.within_ofEpoch)
  · exact yields_after fun _ => yields_after fun _ =>
      within_value (yields_lift fun _ => Time.within_ofIso)
  iterate 19 exact yielding.pure trivial
  iterate 4 exact yields_throw _
  · exact within_value (within_literal ha)
  · exact within_value (within_object ha)
  · exact within_value (within_range hn)
  · exact within_value within_random
  · exact within_value within_identifier
  · next h => exact absurd (h ▸ by decide) hop
  · exact yielding.bind (ha.arg 0) fun arg harg => within_value harg.value
  · exact holds_error (yielding_arguments call)
  · exact within_branch ha
  · exact within_value (within_invoke ha)
  · exact within_value (within_allHold (show (Json.bool true).Within n from trivial) ha)
  · exact within_value (within_someHolds ha)
  · exact within_value (within_default ha)
  · exact yields_throw _
  · exact within_method hn hop ha

/-- What a call gives is within the limit that its arguments are within, however many lists are
spliced in. -/
theorem within_run (hn : arrayLimit ≤ n) (hop : call.op ∉ Operation.unmeasured)
    (ha : call.Limited n) : Yields call.run (Datum.Within n) :=
  yielding.bind ha.splice fun _ hspliced => within_perform hn (hspliced.2 ▸ hop) hspliced.1

end DocQuery.Call
