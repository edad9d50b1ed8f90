import DocQuery.Proofs.Limit.Dispatch
import DocQuery.Proofs.Query.Accepted

/-! Results within the limit of arrays.

A range and a repeated array are measured against the limit, and what picks or maps items adds
none. So a query without the operations that join arrays unmeasured gives arrays within the
limit, as long as the data in its term is (`Query.run_within`). The operations that are left out
are not measured: two ranges, each within the limit, are joined to an array beyond it
(`Query.run_joined_ranges`). -/
namespace DocQuery
open Run

/-! ### Data in terms -/

/-- The data that evaluation finds in a term is within a limit, and its made arrays have no more
items than that. -/
inductive DataWithin (n : Nat) : Json → Prop
  | literal {v : Json} (h : ∀ items, v ≠ .array items) (hv : v.Within n) : DataWithin n v
  | node {items : List Json} (data : ∀ v ∈ dataTerms items, v.Within n)
    (made : items.head?.bind Operation.ofHead? = some .makeArray →
      (argumentTerms items).length ≤ n)
    (below : ∀ term ∈ subterms items, DataWithin n term) : DataWithin n (.array items)

namespace DataWithin
variable {n : Nat} {items : List Json}

theorem subterm (h : DataWithin n (.array items)) :
    ∀ term ∈ subterms items, DataWithin n term := by
  cases h with
  | literal h => exact absurd rfl (h items)
  | node data made below => exact below

theorem argumentTerms_within (hn : 0 < n) (h : (Json.array items).Within n) :
    (Json.array (argumentTerms items)).Within n := by
  unfold argumentTerms
  split
  · exact h.item (by simp)
  · next head term rest _ =>
    have hterm : term.Within n := h.item (by simp)
    exact Json.within_array_iff.mpr ⟨hn, by simpa using hterm⟩
  · exact Json.within_array_iff.mpr ⟨Nat.zero_le n, nofun⟩

theorem optionTerms_within (h : (Json.array items).Within n) :
    (Json.object (optionTerms items)).Within n := by
  unfold optionTerms
  split
  · exact h.item (by simp)
  · exact Json.within_empty

/-- A term all of whose arrays are within the limit holds no other data. The induction is on how
deep the arrays nest. -/
theorem of_within (hn : 0 < n) (term : Json) (h : term.Within n) : DataWithin n term := by
  by_cases hitems : ∀ items, term ≠ .array items
  · exact .literal hitems h
  · obtain ⟨items, rfl⟩ : ∃ items, term = .array items := by simpa using hitems
    have harguments := argumentTerms_within hn h
    refine .node (fun v hv => ?_) (fun _ => (Json.within_array_iff.mp harguments).1)
      fun sub hsub => ?_
    · unfold dataTerms at hv
      split at hv
      · rw [List.mem_singleton.mp hv]
        cases hhead : (argumentTerms items).head? with
        | none => trivial
        | some first => exact harguments.item (List.mem_of_mem_head? hhead)
      · exact harguments.item (List.mem_filter.mp hv).1
      · cases hv
    · have hlower : sub.height < (Json.array items).height := height_subterms hsub
      refine of_within hn sub ?_
      unfold subterms at hsub
      split at hsub
      · cases hsub
      · cases hsub
      · cases hsub
      · exact harguments.item (List.mem_filter.mp hsub).1
      · obtain ⟨field, hfield, rfl⟩ := List.mem_map.mp hsub
        exact Json.within_object_iff.mp (optionTerms_within h) field hfield
      · exact harguments.item hsub
termination_by term.height
decreasing_by subst_vars; exact hlower

end DataWithin

/-! ### Handles -/

namespace Policy

/-- Data is within the limit, wherever it stands, and no call is of an operation that builds an
array unmeasured. -/
def limited (n : Nat) : Policy where
  Calls op _ := op ∉ Operation.unmeasured
  Functions f := Avoids Operation.unmeasured.contains f.body ∧ DataWithin n f.body ∧
    ∀ frame ∈ f.scope, ∀ binding ∈ frame, binding.2.Within n
  Data := Json.Within n
  Lengths count := count ≤ n

variable {n : Nat}

theorem limited_admits (settings : Settings) :
    (limited n).Admits settings fun term =>
      Avoids Operation.unmeasured.contains term ∧ DataWithin n term where
  below _ h term hterm := ⟨h.1.subterm term hterm, h.2.subterm term hterm⟩
  call items operator _ h hop _ _ := by
    obtain ⟨havoids, -⟩ := h
    cases havoids with
    | literal h => exact absurd rfl (h items)
    | node head below =>
      show operator.operation ∉ Operation.unmeasured
      simpa using head _ (ofItems_eq_ok hop).1
  database := show Operation.db ∉ Operation.unmeasured by decide
  unpinned _ _ _ := show Operation.db ∉ Operation.unmeasured by decide
  function _ _ body _ h hbody _ hscope :=
    ⟨h.1.subterm body hbody, h.2.subterm body hbody, hscope⟩
  literal v h hliteral := by
    obtain ⟨-, hdata⟩ := h
    cases hdata with
    | literal _ hv => exact hv
    | node => exact absurd rfl (hliteral _)
  data items h := by
    obtain ⟨-, hdata⟩ := h
    cases hdata with
    | literal h => exact absurd rfl (h items)
    | node data made below => exact data
  made items h := by
    obtain ⟨-, hdata⟩ := h
    cases hdata with
    | literal h => exact absurd rfl (h items)
    | node data made below => exact made
  name := trivial

end Policy

section Runs
variable {n : Nat} {call : Function → List Json → Run Json}

/-- Calls of functions that are allowed take what is within the limit to what is. -/
def Policy.LimitedCalls (n : Nat) (call : Function → List Json → Run Json) : Prop :=
  ∀ f, (Policy.limited n).Functions f → ∀ args : List Json, (∀ arg ∈ args, arg.Within n) →
    Yields (call f args) (Json.Within n)

mutual

/-- What an allowed handle gives is within the limit, if what its functions give is. -/
theorem Handle.limited_argument (hn : arrayLimit ≤ n) (hcall : Policy.LimitedCalls n call) :
    ∀ handle, (Policy.limited n).Allows handle → (argument call handle).Limited n
  | .datum value, h => Argument.limited_ofValue h
  | .array items, h => by
    refine Argument.limited_ofOperand ⟨?_, nofun⟩
    have hlength : (arguments call items).length ≤ n := by
      rw [arguments_eq_map, List.length_map]
      exact h.1
    exact yielding.bind (Call.within_mapM hlength fun arg harg =>
      (Handle.limited_arguments hn hcall items h.2 arg harg).value) fun _ hvs => yielding.pure hvs
  | .object fields, h => by
    refine Argument.limited_ofOperand ⟨?_, nofun⟩
    exact yielding.bind (Handle.limited_fields hn hcall fields h) fun _ hfields =>
      yielding.pure hfields
  | .call op args options, h => by
    have hargs := Handle.limited_arguments hn hcall args h.2
    refine ⟨⟨Call.within_run hn h.1 hargs, nofun⟩, fun operand ho => ?_⟩
    obtain ⟨arg, harg, rfl⟩ := Option.map_eq_some_iff.mp ho
    exact (hargs arg (List.mem_of_mem_head? harg)).toLimited
  | .func f, h => by
    refine Argument.limited_ofOperand ⟨yielding.pure trivial, fun g hg args hargs => ?_⟩
    cases hg
    exact hcall f h args hargs

theorem Handle.limited_arguments (hn : arrayLimit ≤ n) (hcall : Policy.LimitedCalls n call) :
    ∀ handles, (Policy.limited n).AllowsAll handles →
      ∀ arg ∈ arguments call handles, arg.Limited n
  | [], _ => nofun
  | handle :: rest, h => List.forall_mem_cons.mpr
    ⟨Handle.limited_argument hn hcall handle h.1, Handle.limited_arguments hn hcall rest h.2⟩

theorem Handle.limited_fields (hn : arrayLimit ≤ n) (hcall : Policy.LimitedCalls n call) :
    ∀ fields, (Policy.limited n).AllowsFields fields →
      Yields (fieldArguments call fields) fun made => (Json.object made).Within n
  | [], _ => yielding.pure Json.within_empty
  | (_, handle) :: rest, h =>
    yielding.bind (Handle.limited_argument hn hcall handle h.1).value fun _ hv =>
      yielding.bind (Handle.limited_fields hn hcall rest h.2) fun _ hfields =>
        yielding.pure ⟨hv, hfields⟩

end

/-- Calls keep to the limit, nested as deep as they may be. -/
theorem Function.limited_apply (hn : arrayLimit ≤ n) (depth : Nat) :
    Policy.LimitedCalls n (Function.apply depth) := by
  induction depth with
  | zero => exact fun f hf args hargs => yields_throw _
  | succ depth ih =>
    intro f hf args hargs
    refine yielding.bind (yields_lift fun handle h => ?_) fun handle hallowed =>
      (Handle.limited_argument hn ih handle hallowed).value
    obtain ⟨havoids, hdata, hscope⟩ := hf
    exact (Policy.limited_admits f.settings).call_means f ⟨havoids, hdata⟩ h hscope hargs

end Runs

/-! ### Queries -/

namespace Query

/-- Without operations that build arrays unmeasured or take data from outside, no result has an
array, at any depth, that is longer than the limit, unless the data in the term has. -/
theorem run_within {n : Nat} (hn : arrayLimit ≤ n) {query : Query}
    (hops : query.term.lacks (Operation.unmeasured.map Operation.code) = true)
    (hdata : DataWithin n query.term) {context : Run.Context} {state : Run.State} {v : Json}
    (hrun : (query.run context state).1 = .ok v) : v.Within n := by
  have havoids : Avoids Operation.unmeasured.contains query.term :=
    .of_lacks (fun op hop => List.mem_map_of_mem (by simpa using hop)) _ hops
  have hwhole : Yields query.whole (Json.Within n) := by
    refine yielding.bind (yields_lift fun handle h => ?_) fun handle hallowed =>
      (Handle.limited_argument hn (Function.limited_apply hn _) handle hallowed).value
    exact (Policy.limited_admits query.settings).build_means ⟨havoids, hdata⟩ h
  rw [run_eq] at hrun
  exact hwhole.result hrun

/-- An array that a function repeats as often as each number of a range says. -/
theorem run_within_map :
    let row := nodeTerm .var [.ofNat 1] none
    let body := nodeTerm .mul [nodeTerm .makeArray [.null] none, row] none
    let function := nodeTerm .func [nodeTerm .makeArray [.ofNat 1] none, body] none
    let query : Query := ⟨nodeTerm .map [nodeTerm .range [.ofNat 3] none, function] none, {}⟩
    let context : Run.Context := ⟨⟨0, 0, 0⟩, fun _ => 0⟩
    let state : Run.State := ⟨Store.empty, 0⟩
    let result : Json := .array [.array [], .array [.null], .array [.null, .null]]
    query.term.lacks (Operation.unmeasured.map Operation.code) = true ∧
      DataWithin arrayLimit query.term ∧ (query.run context state).1 = .ok result ∧
      result.Within arrayLimit := by
  intro row body function query context state result
  have hops : query.term.lacks (Operation.unmeasured.map Operation.code) = true := by
    decide +kernel
  have hterm : query.term.Within arrayLimit := by
    simp [query, function, body, row, nodeTerm, Json.Within, Json.WithinItems, Json.ofNat,
      arrayLimit]
  have hdata : DataWithin arrayLimit query.term := .of_within (by decide) _ hterm
  have hrun : (query.run context state).1 = .ok result := by decide +kernel
  exact ⟨hops, hdata, hrun, run_within (Nat.le_refl arrayLimit) hops hdata hrun⟩

end Query

/-! ### What is not measured -/

namespace Call

/-- Arrays are joined whatever their lengths are. -/
theorem run_add {left right : Argument} {xs ys : List Json}
    (hheads : left.head ≠ some .args ∧ right.head ≠ some .args)
    (hleft : left.run = pure (.value (.array xs))) (hright : right.run = pure (.value (.array ys))) :
    Call.run ⟨.add, [left, right], []⟩ = pure (.value (.array (xs ++ ys))) := by
  have hvalue : right.value = pure (.array ys) := by
    unfold Operand.value
    rw [hright, pure_bind]
    rfl
  have hmethod : method ⟨.add, [left, right], []⟩ =
      dispatch ⟨.add, [left, right], []⟩ (.value (.array xs)) := by
    unfold method
    show left.run >>= _ = _
    rw [hleft, pure_bind]
    rfl
  rw [run_eq_perform (by simpa using hheads)]
  show method _ = _
  rw [hmethod]
  have hsum : arithmetic ⟨.add, [left, right], []⟩ (.array xs) Json.add =
      pure (.array (xs ++ ys)) := by
    unfold arithmetic
    show [right].foldlM _ _ = _
    rw [List.foldlM_cons, hvalue, pure_bind]
    rfl
  show (pure (Json.array xs) >>= fun v =>
    arithmetic ⟨.add, [left, right], []⟩ v Json.add >>= fun sum => pure (Datum.value sum)) = _
  rw [pure_bind, hsum, pure_bind]

/-- A range is as long as it is asked to be, up to the limit. -/
theorem run_range {count : Nat} (hcount : count ≤ arrayLimit)
    (hread : (Json.ofNat count).asInteger = .ok count) :
    ∃ items : List Json, items.length = count ∧
      Call.run ⟨.range, [.ofValue (.ofNat count)], []⟩ = pure (.value (.array items)) := by
  refine ⟨(List.range count).map fun (i : Nat) => .ofInt (0 + i), ?_, ?_⟩
  · rw [List.length_map, List.length_range]
  have hinteger : (Operand.ofValue (.ofNat count)).integer = pure (count : Int) := by
    unfold Operand.integer
    show (pure (Json.ofNat count) >>= fun v => liftM v.asInteger) = _
    rw [pure_bind, hread]
    rfl
  have hintegers : integers 0 count =
      .ok (.array ((List.range count).map fun (i : Nat) => .ofInt (0 + i))) := by
    unfold integers
    rw [if_neg (by omega), Int.sub_zero, Int.toNat_natCast, Json.boundedLength, if_pos hcount]
    rfl
  rw [run_eq_perform (by simp [Argument.ofValue])]
  show Datum.value <$> ((Operand.ofValue (.ofNat count)).integer >>= fun stop =>
    liftM (integers 0 stop)) = _
  rw [hinteger, pure_bind, hintegers]
  rfl

end Call

namespace Query

/-- The term of the integers from zero up to a number. -/
def rangeTerm (count : Nat) : Json := nodeTerm .range [.ofNat count] none

theorem evaluate_rangeTerm (count : Nat) (scope : Scope) :
    evaluate {} (rangeTerm count) scope = .ok (.call .range [.datum (.ofNat count)] []) := by
  have hliteral : ∀ items, Json.ofNat count ≠ .array items := by
    rintro items ⟨⟩
  have hcount : evaluate {} (.ofNat count) scope = .ok (.datum (.ofNat count)) :=
    evaluate_literal hliteral scope
  rw [rangeTerm, evaluate_nodeTerm rfl, List.map_singleton, evaluateAll_cons, hcount]
  rfl

/-- Two ranges are joined to an array that is as long as both together. -/
theorem run_add_ranges {a b : Nat} (ha : a ≤ arrayLimit) (hb : b ≤ arrayLimit)
    (hreada : (Json.ofNat a).asInteger = .ok a) (hreadb : (Json.ofNat b).asInteger = .ok b) :
    ∃ items : List Json, items.length = a + b ∧ ∀ context state,
      run ⟨nodeTerm .add [rangeTerm a, rangeTerm b] none, {}⟩ context state =
        (.ok (.array items), state) := by
  obtain ⟨xs, hxs, hleft⟩ := Call.run_range ha hreada
  obtain ⟨ys, hys, hright⟩ := Call.run_range hb hreadb
  refine ⟨xs ++ ys, by rw [List.length_append, hxs, hys], fun context state => ?_⟩
  have hbuild : DocQuery.build {} (nodeTerm .add [rangeTerm a, rangeTerm b] none) =
      .ok (.call .add [.call .range [.datum (.ofNat a)] [], .call .range [.datum (.ofNat b)] []]
        []) := by
    unfold DocQuery.build
    rw [evaluate_nodeTerm rfl, List.map_cons, List.map_singleton, evaluateAll_cons,
      evaluateAll_cons, evaluate_rangeTerm, evaluate_rangeTerm]
    rfl
  have hsum : (Handle.made .add [.call .range [.datum (.ofNat a)] [],
      .call .range [.datum (.ofNat b)] []] []).run = pure (.value (.array (xs ++ ys))) :=
    Call.run_add ⟨nofun, nofun⟩ hleft hright
  rw [run_of_build hbuild, Handle.run_call, hsum]
  rfl

/-- A range of as many items as the limit allows and one more item. -/
theorem run_joined_ranges :
    let query : Query := ⟨nodeTerm .add [rangeTerm arrayLimit, rangeTerm 1] none, {}⟩
    let context : Run.Context := ⟨⟨0, 0, 0⟩, fun _ => 0⟩
    let state : Run.State := ⟨Store.empty, 0⟩
    query.term.lacks [Operation.table.code, Operation.json.code] = true ∧
      DataWithin arrayLimit query.term ∧
      ∃ v, (query.run context state).1 = .ok v ∧ ¬ v.Within arrayLimit := by
  intro query context state
  have hread : ∀ count ∈ [arrayLimit, 1], (Json.ofNat count).asInteger = .ok (count : Int) := by
    decide +kernel
  obtain ⟨items, hlength, hrun⟩ := run_add_ranges (Nat.le_refl arrayLimit)
    (show 1 ≤ arrayLimit by decide) (hread _ (by simp)) (hread _ (by simp))
  have hterm : query.term.Within arrayLimit := by
    simp [query, rangeTerm, nodeTerm, Json.Within, Json.WithinItems, Json.ofNat, arrayLimit]
  refine ⟨by decide +kernel, .of_within (by decide) _ hterm, .array items, ?_, fun hwithin => ?_⟩
  · rw [hrun]
  · have hle := (Json.within_array_iff.mp hwithin).1
    rw [hlength] at hle
    exact Nat.not_succ_le_self _ hle

end Query

end DocQuery
