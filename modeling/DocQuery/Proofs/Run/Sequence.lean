import DocQuery.Proofs.Run.Operand
import DocQuery.Run.Sequence

/-! Operations on arrays in a logic.

Items are values, so an operation on them keeps to the rules as soon as its arguments
do. -/
namespace DocQuery.Call
open Run

variable {L : Logic} {call : Call}

/-! ### Mapping -/

theorem runs_argSequences {args : List Argument} (h : ∀ arg ∈ args, L.Argument arg) :
    L.Runs (args.mapM fun arg => do (← arg.run).sequence) :=
  Logic.runs_mapM fun arg harg => L.bind (h arg harg).run fun _ hd => Logic.sequence hd

theorem runs_map (ha : L.Arguments call) (hn : L.Supplied call 2) (receiver : Json) : L.Runs (call.map receiver) := by
  unfold map
  split
  · next hnone =>
    rcases hn with hlacks | hn
    · exact Logic.lack hlacks _ trivial
    · have hrest : call.rest.length = 0 := by
        rw [List.getLast?_eq_none_iff.mp hnone, List.length_nil]
      rw [Call.rest, List.length_drop] at hrest
      omega
  · next function hf =>
    have hfunction : L.Argument function := ha.rest function (List.mem_of_getLast? hf)
    refine L.bind (Logic.runs_lift (by simp)) fun first _ => ?_
    refine L.bind (runs_argSequences fun arg harg => ha.rest arg (List.dropLast_subset _ harg))
      fun others _ => ?_
    exact L.bind (Logic.runs_mapM fun args _ => hfunction.apply args) fun _ _ => L.pure trivial

theorem runs_concatMap (ha : L.Arguments call) (hn : L.Supplied call 2) (receiver : Json) :
    L.Runs (call.concatMap receiver) := by
  refine L.bind (ha.arg 1 hn) fun function hf => L.bind (Logic.runs_lift (by simp)) fun items _ => ?_
  refine L.bind (Logic.runs_mapM fun item _ => ?_) fun lists _ => L.pure trivial
  refine L.bind (hf.apply [item]) fun v _ => ?_
  split
  · exact L.pure trivial
  · exact L.throw _ trivial

/-! ### Searching -/

theorem holds_matcher {arg : Argument} (h : L.Argument arg) :
    L.Holds (matcher arg) fun test => ∀ item, L.Runs (test item) := by
  unfold matcher
  split
  · next f hf =>
    exact L.pure fun item => L.bind (h.call f hf [item]) fun _ _ => L.pure trivial
  · exact L.bind h.value fun wanted _ => L.pure fun item => L.pure trivial

theorem runs_offsetsOf (ha : L.Arguments call) (hn : L.Supplied call 2) (receiver : Json) :
    L.Runs (call.offsetsOf receiver) := by
  refine L.bind (ha.arg 1 hn) fun arg harg => L.bind (holds_matcher harg) fun test htest => ?_
  refine L.bind (Logic.runs_lift (by simp)) fun items _ => ?_
  exact L.bind (Logic.runs_mapM fun item _ => htest item) fun _ _ => L.pure trivial

theorem runs_anyPasses {test : Json → Run Bool} (h : ∀ item, L.Runs (test item))
    (items : List Json) : L.Runs (anyPasses test items) := by
  induction items with
  | nil => exact L.pure trivial
  | cons item rest ih =>
    refine L.bind (h item) fun passes _ => ?_
    cases passes with
    | true => exact L.pure trivial
    | false => exact ih

theorem runs_allContained (items : List Json) {args : List Argument}
    (h : ∀ arg ∈ args, L.Argument arg) : L.Runs (allContained items args) := by
  induction args with
  | nil => exact L.pure trivial
  | cons arg rest ih =>
    refine L.bind (holds_matcher (h arg List.mem_cons_self)) fun test htest => ?_
    refine L.bind (runs_anyPasses htest items) fun found _ => ?_
    cases found with
    | true => exact ih fun arg harg => h arg (List.mem_cons_of_mem _ harg)
    | false => exact L.pure trivial

theorem runs_contains (ha : L.Arguments call) (receiver : Json) :
    L.Runs (call.contains receiver) :=
  L.bind (Logic.runs_lift (by simp)) fun items _ =>
    L.bind (runs_allContained items ha.rest) fun _ _ => L.pure trivial

/-! ### Joining and choosing -/

theorem runs_union (ha : L.Arguments call) (receiver : Json) : L.Runs (call.union receiver) :=
  L.bind (Logic.runs_lift (by simp)) fun _ _ =>
    L.bind (runs_argSequences ha.rest) fun _ _ => L.pure trivial

theorem runs_sample (hchance : L.Chance) (ha : L.Arguments call) (hn : L.Supplied call 2) (receiver : Json) :
    L.Runs (call.sample receiver) := by
  refine ha.integer 1 hn fun count => L.bind (Logic.runs_lift (by simp)) fun items _ => ?_
  refine L.bind (Logic.runs_mapM fun item _ => ?_) fun tickets _ => L.pure trivial
  exact L.bind (L.draw hchance) fun ticket _ => L.pure trivial

/-! ### Positions -/

theorem runs_bracket (ha : L.Arguments call) (hn : L.Supplied call 2) (receiver : Json) :
    L.Runs (call.bracket receiver) := by
  refine ha.value 1 hn fun key => ?_
  split
  · exact Logic.runs_lift (by simp)
  · refine L.bind (Logic.runs_lift (by simp)) fun items _ => ?_
    split
    · exact Logic.runs_lift (by simp)
    · exact L.throw _ trivial
  · exact L.throw _ trivial

theorem runs_insertAt (ha : L.Arguments call) (hn : L.Supplied call 3) (receiver : Json) :
    L.Runs (call.insertAt receiver) :=
  L.bind (Logic.runs_lift (by simp)) fun _ _ => ha.integer 1 (hn.mono (by decide)) fun _ =>
    L.bind (Logic.runs_lift (by simp)) fun _ _ => ha.value 2 hn fun _ => L.pure trivial

theorem runs_spliceAt (ha : L.Arguments call) (hn : L.Supplied call 3) (receiver : Json) :
    L.Runs (call.spliceAt receiver) :=
  L.bind (Logic.runs_lift (by simp)) fun _ _ => ha.integer 1 (hn.mono (by decide)) fun _ =>
    L.bind (Logic.runs_lift (by simp)) fun _ _ => ha.value 2 hn fun _ =>
      L.bind (Logic.runs_lift (by simp)) fun _ _ => L.pure trivial

theorem runs_changeAt (ha : L.Arguments call) (hn : L.Supplied call 3) (receiver : Json) :
    L.Runs (call.changeAt receiver) :=
  L.bind (Logic.runs_lift (by simp)) fun _ _ => ha.integer 1 (hn.mono (by decide)) fun _ =>
    L.bind (Logic.runs_lift (by simp)) fun _ _ => ha.value 2 hn fun _ => L.pure trivial

theorem runs_deleteAt (ha : L.Arguments call) (hn : L.Supplied call 2) (receiver : Json) :
    L.Runs (call.deleteAt receiver) := by
  refine L.bind (Logic.runs_lift (by simp)) fun items _ => ha.integer 1 hn fun index => ?_
  refine L.bind (Logic.runs_lift (by simp)) fun start _ => ?_
  dsimp only
  split
  · next stop hstop =>
    have h : L.Runs ((Position.clamp · items.length) <$> stop.integer) :=
      Logic.map (ha.getElem? hstop).integer fun _ _ => trivial
    exact L.bind h fun _ _ => L.pure trivial
  · exact L.bind (Logic.runs_pure (start + 1)) fun _ _ => L.pure trivial

/-! ### Arrays and operands -/

theorem runs_withValue (ha : L.Arguments call) (hn : L.Supplied call 2) (receiver : Json)
    (join : List Json → Json → List Json) : L.Runs (call.withValue receiver join) :=
  L.bind (Logic.runs_lift (by simp)) fun _ _ => ha.value 1 hn fun _ => L.pure trivial

theorem runs_withArray (ha : L.Arguments call) (hn : L.Supplied call 2) (receiver : Json)
    (join : List Json → List Json → List Json) : L.Runs (call.withArray receiver join) :=
  L.bind (Logic.runs_lift (by simp)) fun _ _ => ha.value 1 hn fun _ =>
    L.bind (Logic.runs_lift (by simp)) fun _ _ => L.pure trivial

end DocQuery.Call
