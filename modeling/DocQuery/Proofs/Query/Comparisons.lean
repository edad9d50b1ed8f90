import DocQuery.Proofs.Query.Documents
import DocQuery.Proofs.Value.Order

/-! Comparisons of several values.

A comparison only looks at neighbours, by equality for some operations and by the order for others.
The two agree for all values, and the order composes for values whose times are proper, so what
holds of neighbours holds of any two of the values, the earlier one first
(`Query.run_comparison`). -/
namespace DocQuery
open Json

/-- A comparison that is to hold throughout. -/
inductive Comparison where
  | eq
  | lt
  | le
  | gt
  | ge

namespace Comparison
variable {comparison : Comparison} {a b c : Json}

def op : Comparison → Operation
  | eq => .eq
  | lt => .lt
  | le => .le
  | gt => .gt
  | ge => .ge

/-- What the operation asks of neighbours. -/
def relation : Comparison → Json → Json → Bool
  | eq => equals
  | lt => Call.isLess
  | le => fun a b => !Call.isMore a b
  | gt => Call.isMore
  | ge => fun a b => !Call.isLess a b

/-- The comparison holds of values in this order. -/
def allows : Comparison → Ordering → Bool
  | eq => Ordering.isEq
  | lt => Ordering.isLT
  | le => Ordering.isLE
  | gt => Ordering.isGT
  | ge => Ordering.isGE

/-- The comparison holds of two values. -/
def Holds (comparison : Comparison) (a b : Json) : Prop := comparison.allows (a.order b) = true

instance (comparison : Comparison) : DecidableRel comparison.Holds := fun _ _ =>
  inferInstanceAs (Decidable (_ = true))

theorem relation_iff : comparison.relation a b = true ↔ comparison.Holds a b := by
  unfold Holds
  cases comparison with
  | eq =>
    show equals a b = true ↔ (a.order b).isEq = true
    rw [equals_iff, Ordering.isEq_iff_eq_eq]
  | _ => cases h : a.order b <;> simp [relation, allows, Call.isLess, Call.isMore, h]

theorem allows_composed {x y z : Ordering} (h : Composes x y z) (hx : comparison.allows x = true)
    (hy : comparison.allows y = true) : comparison.allows z = true := by
  obtain ⟨hleft, hright, hboth⟩ := h
  cases comparison <;> cases x <;> cases y <;> simp_all [allows]

theorem Holds.trans (ha : a.Proper) (hb : b.Proper) (hc : c.Proper) (h : comparison.Holds a b)
    (h' : comparison.Holds b c) : comparison.Holds a c :=
  allows_composed (order_composes a b c ha hb hc) h h'

/-- What holds of neighbours holds of any two. -/
theorem chained_iff {values : List Json} (hvalues : ∀ v ∈ values, v.Proper) :
    Call.chained comparison.relation values = true ↔ values.Pairwise comparison.Holds := by
  induction values with
  | nil => exact iff_of_true rfl .nil
  | cons a rest ih =>
    obtain ⟨ha, hrest⟩ := List.forall_mem_cons.mp hvalues
    cases rest with
    | nil => exact iff_of_true rfl (List.pairwise_singleton _ a)
    | cons b rest =>
      rw [Call.chained, Bool.and_eq_true, relation_iff, ih hrest,
        List.pairwise_cons (l := b :: rest)]
      constructor
      · rintro ⟨hab, htail⟩
        refine ⟨fun c hc => ?_, htail⟩
        rcases List.mem_cons.mp hc with rfl | hmem
        · exact hab
        · -- The first value is related to a later one through its neighbour.
          obtain ⟨hb, hothers⟩ := List.forall_mem_cons.mp hrest
          exact hab.trans ha hb (hothers c hmem) ((List.pairwise_cons.mp htail).1 c hmem)
      · rintro ⟨hall, htail⟩
        exact ⟨hall b List.mem_cons_self, htail⟩

theorem chained_pair (comparison : Comparison) (a b : Json) :
    Call.chained comparison.relation [a, b] = decide (comparison.Holds a b) := by
  rw [Call.chained, Call.chained, Bool.and_true, Bool.eq_iff_iff, relation_iff, decide_eq_true_iff]
  exact nofun

theorem le_iff : le.Holds a b ↔ lt.Holds a b ∨ eq.Holds a b := by
  unfold Holds
  cases a.order b <;> decide

theorem ge_iff : ge.Holds a b ↔ gt.Holds a b ∨ eq.Holds a b := by
  unfold Holds
  cases a.order b <;> decide

/-- Of two values one is below the other, equal to it or above it. -/
theorem existsUnique_allows (order : Ordering) :
    ∃! comparison, comparison ∈ [lt, eq, gt] ∧ comparison.allows order = true := by
  refine ⟨match order with | .lt => lt | .eq => eq | .gt => gt, ?_, ?_⟩
  · cases order <;> simp [allows]
  · rintro comparison ⟨hmem, hallows⟩
    cases order <;> cases comparison <;> simp_all [allows]

end Comparison

/-! ### Calls -/

namespace Call

theorem comparison_eq (op : Operation) (first : Argument) (value : Json) (rest : List Json)
    (relation : Json → Json → Bool) :
    Call.comparison ⟨op, first :: rest.map .ofValue, []⟩ value relation =
      pure (chained relation (value :: rest)) := by
  show (values (rest.map .ofValue) >>= fun operands =>
    pure (chained relation (value :: operands))) = _
  rw [values_ofValue, pure_bind]

theorem dispatch_comparison (comparison : Comparison) (first : Argument) (value : Json)
    (rest : List Json) :
    Call.dispatch ⟨comparison.op, first :: rest.map .ofValue, []⟩ (.value value) =
      pure (.value (.bool (chained comparison.relation (value :: rest)))) := by
  let answer (x : Run Bool) : Run Datum :=
    (x >>= fun holds => pure (Json.bool holds)) >>= fun v => pure (.value v)
  cases comparison <;> exact congrArg answer (comparison_eq _ first value rest _)

theorem dispatch_ne (first : Argument) (value : Json) (rest : List Json) :
    Call.dispatch ⟨.ne, first :: rest.map .ofValue, []⟩ (.value value) =
      pure (.value (.bool !chained equals (value :: rest))) := by
  let answer (x : Run Bool) : Run Datum :=
    (x >>= fun holds => pure (Json.bool !holds)) >>= fun v => pure (.value v)
  exact congrArg answer (comparison_eq _ first value rest _)

end Call

/-! ### Queries -/

namespace Query
variable {settings : Settings} {context : Run.Context} {state : Run.State}

/-- A judgement of at least two values is what its operation comes to. -/
theorem run_judgement {op : Operation} (judge : List Json → Bool) (hop : op.runsReceiver = true)
    (hcount : ∀ more, op.descriptor.accepts (more + 2) = true)
    (hplain : Call.runsPerGroup op = false)
    (hdispatch : ∀ first value rest,
      Call.dispatch ⟨op, first :: rest.map .ofValue, []⟩ (.value value) =
        pure (.value (.bool (judge (value :: rest)))))
    {values : List Json} (hlength : 2 ≤ values.length) :
    run ⟨nodeTerm op (values.map datumTerm) none, settings⟩ context state =
      (.ok (.bool (judge values)), state) := by
  obtain _ | ⟨a, _ | ⟨b, rest⟩⟩ := values
  · cases hlength
  · cases hlength with
    | step h => cases h
  · have hsource := Yields.datum settings a context state
    have hjudged : Yields settings (methodTerm op (datumTerm a) ((b :: rest).map datumTerm) none)
        context state (.ok a >>= fun value => .ok (.bool (judge (value :: b :: rest)))) state := by
      refine Yields.method hop (hcount rest.length) (.inr rfl) hsource (fun value _ => ?_)
        fun first value _ => hdispatch first value (b :: rest)
      rw [hplain, Bool.false_and]
    exact hjudged.run_eq

theorem run_chained (comparison : Comparison) {values : List Json} (hlength : 2 ≤ values.length) :
    run ⟨nodeTerm comparison.op (values.map datumTerm) none, settings⟩ context state =
      (.ok (.bool (Call.chained comparison.relation values)), state) := by
  refine run_judgement _ ?_ ?_ ?_ (Call.dispatch_comparison comparison) hlength
  · cases comparison <;> rfl
  · intro more
    cases comparison <;> rfl
  · cases comparison <;> rfl

/-- Comparisons hold of several values if they hold of any two of them, the earlier one first. Of
two values exactly one is below the other, equal to it or above it. -/
theorem run_comparison {values : List Json} (hlength : 2 ≤ values.length)
    (hvalues : ∀ v ∈ values, v.Proper) (settings : Settings) (context : Run.Context)
    (state : Run.State) :
    let verdict (op : Operation) (values : List Json) :=
      run ⟨nodeTerm op (values.map datumTerm) none, settings⟩ context state
    let tells (op : Operation) (a b : Json) : Prop := verdict op [a, b] = (.ok (.bool true), state)
    (∀ comparison : Comparison, verdict comparison.op values =
      (.ok (.bool (decide (values.Pairwise comparison.Holds))), state)) ∧
    verdict .ne values = (.ok (.bool !decide (values.Pairwise Comparison.eq.Holds)), state) ∧
    ∀ a b : Json,
      (∀ comparison : Comparison, verdict comparison.op [a, b] =
        (.ok (.bool (decide (comparison.Holds a b))), state)) ∧
      (∃! comparison, comparison ∈ [Comparison.lt, .eq, .gt] ∧ tells comparison.op a b) ∧
      (tells .le a b ↔ tells .lt a b ∨ tells .eq a b) ∧
      (tells .ge a b ↔ tells .gt a b ∨ tells .eq a b) := by
  intro verdict tells
  have hchained : ∀ comparison : Comparison, Call.chained comparison.relation values =
      decide (values.Pairwise comparison.Holds) := fun comparison => by
    rw [Bool.eq_iff_iff, Comparison.chained_iff hvalues, decide_eq_true_iff]
  have hpair : ∀ (comparison : Comparison) (a b : Json), verdict comparison.op [a, b] =
      (.ok (.bool (decide (comparison.Holds a b))), state) := fun comparison a b => by
    rw [← comparison.chained_pair]
    exact run_chained comparison (Nat.le_refl 2)
  refine ⟨fun comparison => ?_, ?_, fun a b => ⟨fun comparison => hpair comparison a b, ?_⟩⟩
  · rw [← hchained]
    exact run_chained comparison hlength
  · rw [← hchained]
    exact run_judgement (fun values => !Call.chained equals values) rfl (fun _ => rfl) rfl
      Call.dispatch_ne hlength
  · have htells : ∀ comparison : Comparison, tells comparison.op a b ↔ comparison.Holds a b := by
      intro comparison
      show verdict comparison.op [a, b] = _ ↔ _
      rw [hpair, Prod.mk.injEq, and_iff_left rfl, Except.ok.injEq, Json.bool.injEq,
        decide_eq_true_iff]
    refine ⟨?_, ?_, ?_⟩
    · simp only [htells]
      exact Comparison.existsUnique_allows (a.order b)
    · exact ((htells .le).trans Comparison.le_iff).trans (or_congr (htells .lt) (htells .eq)).symm
    · exact ((htells .ge).trans Comparison.ge_iff).trans (or_congr (htells .gt) (htells .eq)).symm

/-- Numbers of two kinds and times in two zones, which rise but not strictly. -/
theorem run_comparison_rising :
    let time (zone : String) : Json :=
      .object [(tagKey, .string "TIME"), ("epoch_time", .ofNat 5), ("timezone", .string zone)]
    let values := [Json.ofNat 1, .number (.real (.ofInt 1)), time "+02:00", time "-01:00"]
    let verdict (op : Operation) (context : Run.Context) (state : Run.State) :=
      run ⟨nodeTerm op (values.map datumTerm) none, {}⟩ context state
    ∀ context state, verdict .le context state = (.ok (.bool true), state) ∧
      verdict .lt context state = (.ok (.bool false), state) ∧
      verdict .ne context state = (.ok (.bool true), state) := by
  intro time values verdict context state
  have htime : ∀ zone, (time zone).Proper := fun zone =>
    ⟨fun _ => ⟨⟨_, rfl⟩, rfl⟩, trivial, trivial, trivial, trivial⟩
  have hvalues : ∀ v ∈ values, v.Proper := by
    simp [values, htime, Json.Proper, Json.ofNat]
  have hle : values.Pairwise Comparison.le.Holds := by decide +kernel
  have hlt : ¬ values.Pairwise Comparison.lt.Holds := by decide +kernel
  have heq : ¬ values.Pairwise Comparison.eq.Holds := by decide +kernel
  obtain ⟨hverdict, hne, -⟩ := run_comparison (by decide) hvalues {} context state
  have hrising := hverdict .le
  have hstrictly := hverdict .lt
  rw [decide_eq_true hle] at hrising
  rw [decide_eq_false hlt] at hstrictly
  rw [decide_eq_false heq] at hne
  exact ⟨hrising, hstrictly, hne⟩

end Query

end DocQuery
