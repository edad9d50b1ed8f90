import DocQuery.Proofs.Query.Spliced
import DocQuery.Proofs.Value.Sets

/-! Arrays as sets.

A query that removes repeats from an array, or joins it with another set, gives a rising array
of values that were there. Which ones these are is said by membership alone (`Query.run_set`). -/
namespace DocQuery
open Json

/-- An operation on an array as a set, with what it is given beside the array. -/
inductive SetOperation where
  | distinct
  | insert (value : Json)
  | union (others : List Json)
  | intersection (others : List Json)
  | difference (others : List Json)

namespace SetOperation

def op : SetOperation → Operation
  | distinct => .distinct
  | insert _ => .setInsert
  | union _ => .setUnion
  | intersection _ => .setIntersection
  | difference _ => .setDifference

/-- The operands after the array. -/
def operands : SetOperation → List Json
  | distinct => []
  | insert value => [value]
  | union others | intersection others | difference others => [.array others]

/-- The values that are given beside those of the array. -/
def others : SetOperation → List Json
  | distinct => []
  | insert value => [value]
  | union others | intersection others | difference others => others

/-- A value is a member of the result. -/
def Selects (operation : SetOperation) (items : List Json) (w : Json) : Prop :=
  match operation with
  | distinct => contains items w = true
  | insert value => contains items w = true ∨ equals value w = true
  | union others => contains items w = true ∨ contains others w = true
  | intersection others => contains items w = true ∧ contains others w = true
  | difference others => contains items w = true ∧ contains others w = false

/-- What the operation makes of an array. -/
def result (operation : SetOperation) (items : List Json) : List Json :=
  match operation with
  | distinct => Json.distinct items
  | insert value => setInsert items value
  | union others => setUnion items others
  | intersection others => setIntersection items others
  | difference others => setDifference items others

/-- The term of the operation on an array. -/
def term (operation : SetOperation) (items : List Json) : Json :=
  nodeTerm operation.op ((.array items :: operation.operands).map datumTerm) none

/-! ### Results -/

/-- The values that the operation sorts. -/
def pool (operation : SetOperation) (items : List Json) : List Json :=
  match operation with
  | distinct => items
  | insert value => items ++ [value]
  | union others => items ++ others
  | intersection others => items.filter (contains others)
  | difference others => items.filter fun item => !contains others item

variable {operation : SetOperation} {items : List Json}

theorem result_eq (operation : SetOperation) (items : List Json) :
    operation.result items = Json.distinct (operation.pool items) := by
  cases operation <;> rfl

theorem pool_subset (operation : SetOperation) (items : List Json) :
    operation.pool items ⊆ items ++ operation.others := by
  cases operation with
  | distinct => exact List.subset_append_left items _
  | insert | union => exact List.Subset.refl _
  | intersection | difference =>
    exact List.Subset.trans List.filter_sublist.subset (List.subset_append_left items _)

/-- The pool holds the members of the result. -/
theorem contains_pool (hitems : ∀ v ∈ items, v.Proper) (hothers : ∀ v ∈ operation.others, v.Proper)
    {w : Json} (hw : w.Proper) :
    contains (operation.pool items) w = true ↔ operation.Selects items w := by
  cases operation with
  | distinct => exact Iff.rfl
  | insert value =>
    rw [pool, contains_append, Bool.or_eq_true, Selects]
    simp [contains]
  | union others => rw [pool, contains_append, Bool.or_eq_true, Selects]
  | intersection others =>
    have hkeep : ∀ v ∈ items, equals v w = true → contains others v = contains others w :=
      fun v hv => contains_congr (hitems v hv) hw hothers
    rw [pool, contains_filter hkeep, Bool.and_eq_true, Selects]
  | difference others =>
    have hkeep : ∀ v ∈ items, equals v w = true → (!contains others v) = !contains others w :=
      fun v hv h => congrArg _ (contains_congr (hitems v hv) hw hothers h)
    rw [pool, contains_filter hkeep, Bool.and_eq_true, Selects, Bool.not_eq_true']

/-! ### Queries -/

theorem run_made (operation : SetOperation) (items : List Json) :
    (Handle.made operation.op ((.array items :: operation.operands).map .datum) []).run =
      pure (.value (.array (operation.result items))) := by
  have hheads : ∀ arg ∈ (Handle.made operation.op
      ((.array items :: operation.operands).map .datum) []).args, arg.head ≠ some .args :=
    Handle.heads_arguments (List.forall_mem_map.mpr fun _ _ => nofun)
  rw [Call.run_eq_perform hheads]
  cases operation <;> rfl

theorem build_term (operation : SetOperation) (items : List Json) (settings : Settings) :
    build settings (operation.term items) =
      .ok (.call operation.op ((.array items :: operation.operands).map .datum) []) := by
  unfold build term
  cases operation <;> rw [evaluate_nodeTerm rfl, evaluateAll_data] <;> rfl

end SetOperation

/-- The operations on arrays as sets. The result rises strictly, holds nothing that was not
given, and has the members that it should. -/
theorem Query.run_set (operation : SetOperation) {items : List Json}
    (hitems : ∀ v ∈ items, v.Proper) (hothers : ∀ v ∈ operation.others, v.Proper)
    (settings : Settings) (context : Run.Context) (state : Run.State) :
    ∃ values, run ⟨operation.term items, settings⟩ context state =
        (.ok (.array values), state) ∧
      Rising values ∧ values ⊆ items ++ operation.others ∧
      ∀ w : Json, w.Proper → (contains values w = true ↔ operation.Selects items w) := by
  have hsubset := operation.pool_subset items
  have hpool : ∀ v ∈ operation.pool items, v.Proper := fun v hv =>
    (List.mem_append.mp (hsubset hv)).elim (hitems v) (hothers v)
  refine ⟨operation.result items, ?_, ?_⟩
  · rw [run_of_build (operation.build_term items settings), Handle.run_call, operation.run_made]
    rfl
  · rw [operation.result_eq]
    refine ⟨rising_distinct hpool, List.Subset.trans (distinct_subset _) hsubset, fun w hw => ?_⟩
    rw [contains_distinct hw hpool]
    exact SetOperation.contains_pool hitems hothers hw

/-- Times that differ in their zones and numbers that differ in their kinds are joined. -/
theorem Query.run_set_joined :
    let time (zone : String) : Json :=
      .object [(tagKey, .string "TIME"), ("epoch_time", .ofNat 5), ("timezone", .string zone)]
    let real : Json := .number (.real (.ofInt 1))
    let operation := SetOperation.union [time "+02:00", .array [real]]
    let context : Run.Context := ⟨⟨0, 0, 0⟩, fun _ => 0⟩
    let state : Run.State := ⟨.empty, 0⟩
    ∃ values, run ⟨operation.term [.ofNat 2, time "+00:00", .array [.ofNat 1], .ofNat 2], {}⟩
        context state = (.ok (.array values), state) ∧
      Rising values ∧ contains values (time "-01:00") = true ∧ contains values real = false := by
  intro time real operation context state
  have htime : ∀ zone, (time zone).Proper := fun zone =>
    ⟨fun _ => ⟨⟨_, rfl⟩, rfl⟩, trivial, trivial, trivial, trivial⟩
  have hitems : ∀ v ∈ [Json.ofNat 2, time "+00:00", .array [.ofNat 1], .ofNat 2], v.Proper := by
    simp [htime, Json.Proper, ProperItems, Json.ofNat]
  have hothers : ∀ v ∈ operation.others, v.Proper := by
    simp [operation, SetOperation.others, htime, Json.Proper, ProperItems, real]
  obtain ⟨values, hrun, hrising, -, hmembers⟩ :=
    Query.run_set operation hitems hothers {} context state
  refine ⟨values, hrun, hrising, (hmembers _ (htime _)).mpr (.inl ?_), ?_⟩
  · decide +kernel
  · rw [Bool.eq_false_iff, ne_eq, hmembers real trivial]
    rintro (h | h)
    · revert h
      decide +kernel
    · revert h
      decide +kernel

end DocQuery
