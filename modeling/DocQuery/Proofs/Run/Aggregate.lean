import DocQuery.Proofs.Run.Operand
import DocQuery.Run.Aggregate

/-! Operations that bring many items down to one value, in a logic. -/
namespace DocQuery.Call
open Run

variable {L : Logic} {call : Call}

/-! ### Folding -/

theorem runs_reduce (ha : L.Arguments call) (hn : L.Supplied call 2) (receiver : Json) : L.Runs (call.reduce receiver) := by
  refine L.bind (ha.arg 1 hn) fun function hf => L.bind (Logic.runs_lift (by simp)) fun items _ => ?_
  split
  · exact L.throw _ trivial
  · exact Logic.runs_foldlM fun sum item _ => hf.apply [sum, item]

theorem runs_fold (ha : L.Arguments call) (hn : L.Supplied call 3) (receiver : Json) : L.Runs (call.fold receiver) := by
  unfold fold
  dsimp only
  split
  · exact L.bind (L.throw _ trivial) fun _ (h : False) => h.elim
  · refine ha.value 1 (hn.mono (by decide)) fun base => L.bind (ha.arg 2 hn) fun function hf => ?_
    refine L.bind (Logic.runs_lift (by simp)) fun items _ => ?_
    exact Logic.runs_foldlM fun sum item _ => hf.apply [sum, item]

/-! ### Counting and adding -/

theorem runs_countItems (ha : L.Arguments call) (items : List Json) :
    L.Runs (call.countItems items) := by
  unfold countItems
  split
  · exact L.pure trivial
  · next arg harg =>
    split
    · next f hf =>
      refine Logic.runs_foldlM fun n item _ => ?_
      exact L.bind ((ha.getElem? harg).call f hf [item]) fun _ _ => L.pure trivial
    · exact L.bind (ha.getElem? harg).value fun _ _ => L.pure trivial

theorem runs_count (ha : L.Arguments call) (receiver : Json) : L.Runs (call.count receiver) := by
  unfold count
  split
  · exact L.pure trivial
  · exact L.bind (runs_countItems ha _) fun _ _ => L.pure trivial
  · split
    · exact L.throw _ trivial
    · exact L.pure trivial
  · exact L.throw _ trivial

theorem runs_projected (ha : L.Arguments call) (receiver : Json) :
    L.Runs (call.projected receiver) := by
  refine L.bind (Logic.runs_lift (by simp)) fun items _ => ?_
  split
  · exact L.pure trivial
  · next selector hs =>
    refine L.bind (Logic.runs_mapM fun item _ => ?_) fun _ _ => L.pure trivial
    exact Logic.runs (Logic.found ((ha.getElem? hs).select item))

theorem runs_sum (ha : L.Arguments call) (receiver : Json) : L.Runs (call.sum receiver) :=
  L.bind (runs_projected ha receiver) fun _ _ =>
    L.bind (Logic.runs_lift (by simp)) fun _ _ => Logic.runs_lift (by simp)

theorem runs_average (ha : L.Arguments call) (receiver : Json) :
    L.Runs (call.average receiver) := by
  refine L.bind (runs_projected ha receiver) fun found _ => ?_
  refine L.bind (Logic.runs_lift (by simp)) fun total _ => ?_
  dsimp only
  split
  · exact L.bind (L.throw _ trivial) fun _ (h : False) => h.elim
  · exact Logic.runs_lift (by simp)

/-! ### Extremes -/

theorem holds_extremeSelector (ha : L.Arguments call) :
    L.Holds call.extremeSelector fun selector? =>
      ∀ selector, selector? = some selector → L.Operand selector := by
  unfold extremeSelector
  split
  · next arg harg =>
    refine L.pure fun selector hs => ?_
    cases hs
    exact (ha.getElem? harg).toOperand
  · refine L.bind (Logic.runs_lift (by simp)) fun index _ => L.pure fun selector hs => ?_
    obtain ⟨key, -, rfl⟩ := Option.map_eq_some_iff.mp hs
    exact Logic.operand_ofValue _

theorem runs_keyFor {selector? : Option Operand}
    (h : ∀ selector, selector? = some selector → L.Operand selector) (item : Json) :
    L.Runs (keyFor selector? item) := by
  cases selector? with
  | none => exact L.pure trivial
  | some selector => exact Logic.runs (Logic.found ((h selector rfl).select item))

theorem runs_extreme (ha : L.Arguments call) (wanted : Ordering) (receiver : Json) :
    L.Runs (call.extreme wanted receiver) := by
  refine L.bind (holds_extremeSelector ha) fun selector? hs => ?_
  refine L.bind (Logic.runs_lift (by simp)) fun items _ => ?_
  refine L.bind (Logic.runs_foldlM fun best item _ => ?_) fun best _ => ?_
  · refine L.bind (runs_keyFor hs item) fun key _ => ?_
    cases key <;> exact L.pure trivial
  · split
    · exact L.pure trivial
    · exact L.throw _ trivial

/-! ### Distinct items and groups -/

theorem runs_distinct (receiver : Json) : L.Runs (call.distinct receiver) := by
  refine L.bind (Logic.runs_lift (by simp)) fun index _ => ?_
  split <;> exact L.bind (Logic.runs_lift (by simp)) fun _ _ => L.pure trivial

theorem runs_groupKey {selectors : List Operand} (h : ∀ selector ∈ selectors, L.Operand selector)
    (item : Json) : L.Runs (groupKey selectors item) := by
  refine L.bind (Logic.runs_mapM fun selector hs => ?_) fun _ _ => L.pure trivial
  exact L.bind (Logic.found ((h selector hs).select item)) fun _ _ => L.pure trivial

theorem runs_group (ha : L.Arguments call) (receiver : Json) : L.Runs (call.group receiver) := by
  refine L.bind (Logic.runs_lift (by simp)) fun index _ => ?_
  have hselectors : ∀ named : List Operand, (∀ selector ∈ named, L.Operand selector) →
      ∀ selector ∈ named ++ call.rest.map Argument.toOperand, L.Operand selector := by
    intro named hnamed selector hs
    rcases List.mem_append.mp hs with hs | hs
    · exact hnamed selector hs
    · obtain ⟨arg, harg, rfl⟩ := List.mem_map.mp hs
      exact (ha.rest arg harg).toOperand
  dsimp only
  split
  · exact L.bind (L.throw _ trivial) fun _ (h : False) => h.elim
  · refine L.bind (Logic.runs_lift (by simp)) fun items _ => ?_
    refine L.bind (Logic.runs_foldlM fun groups item _ => ?_) fun _ _ => L.pure trivial
    refine L.bind (runs_groupKey (hselectors _ fun selector hs => ?_) item) fun _ _ =>
      L.pure trivial
    obtain ⟨key, -, rfl⟩ := Option.map_eq_some_iff.mp (Option.mem_toList.mp hs)
    exact Logic.operand_ofValue _

end DocQuery.Call
