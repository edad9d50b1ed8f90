import DocQuery.Proofs.Query.Receivers
import DocQuery.Proofs.Value.Position

/-! Queries of positions.

The operations at an index of an array read the index alike. What one of them puts in, another
finds and a third takes out again, whatever the index is (`Query.run_indexed`). A bracket is an
exception: it takes a number for an index only if it is written as an integer, and then gives the
item that the others find (`Query.run_bracket`). -/
namespace DocQuery
open Json

/-! ### Operations -/

/-- An operation at an index of an array, with what it is given beside the index. -/
inductive IndexedOperation where
  | nth
  | delete
  | insert (item : Json)
  | change (item : Json)
  | splice (others : List Json)

namespace IndexedOperation

def op : IndexedOperation → Operation
  | nth => .nth
  | delete => .deleteAt
  | insert _ => .insertAt
  | change _ => .changeAt
  | splice _ => .spliceAt

/-- The operands after the index. -/
def operands : IndexedOperation → List Json
  | nth | delete => []
  | insert item | change item => [item]
  | splice others => [.array others]

/-- What the operation makes of an array. -/
def result (operation : IndexedOperation) (items : List Json) (i : Int) : Except Fault Json :=
  match operation with
  | nth => itemAt items i
  | delete => (removedAt items i).map .array
  | insert item => (insertedAt items i item).map .array
  | change item => (replacedAt items i item).map .array
  | splice others => ((gapIn items i).map (splicedAt items · others)).map .array

/-- The term of the operation at an index of what another term means. -/
def term (operation : IndexedOperation) (source k : Json) : Json :=
  methodTerm operation.op source ((k :: operation.operands).map datumTerm) none

/-- An index is read, a position is found for it, and an array is made there. -/
theorem read_find_make (k : Json) (find : Int → Except Fault Nat) (make : Nat → List Json) :
    (((Operand.ofValue k).integer >>= fun i => liftM (find i) >>= fun position =>
        pure (Json.array (make position)) : Run Json) >>= fun v => pure (Datum.value v)) =
      liftM ((k.asInteger >>= fun i => ((find i).map make).map Json.array).map Datum.value) := by
  simp only [Run.lift_map, Run.lift_bind, bind_assoc, pure_bind]
  rfl

theorem dispatch_eq (operation : IndexedOperation) (first : Argument) (k : Json)
    (items : List Json) :
    Call.dispatch ⟨operation.op, first :: (k :: operation.operands).map .ofValue, []⟩
        (.value (.array items)) =
      liftM ((k.asInteger >>= operation.result items).map Datum.value) := by
  cases operation with
  | nth =>
    show ((Operand.ofValue k).integer >>= fun i => liftM (itemAt items i) >>= fun item =>
      pure (Datum.value item)) = _
    simp only [result, Run.lift_map, Run.lift_bind, bind_assoc]
    rfl
  | delete => exact read_find_make k (indexIn items) fun i => deletedAt items i (i + 1)
  | insert item => exact read_find_make k (gapIn items) (splicedAt items · [item])
  | change item => exact read_find_make k (indexIn items) (changedAt items · item)
  | splice others => exact read_find_make k (gapIn items) (splicedAt items · others)

/-- An item is replaced by taking it out and putting the other one in, or it fails as that does. -/
theorem result_change (items : List Json) (k item : Json) :
    (k.asInteger >>= (change item).result items) =
      ((k.asInteger >>= removedAt items) >>= fun rest =>
        k.asInteger >>= (insert item).result rest) := by
  cases k.asInteger with
  | error fault => rfl
  | ok i =>
    show (replacedAt items i item).map Json.array =
      (removedAt items i >>= fun rest => (insertedAt rest i item).map Json.array)
    rw [replacedAt_eq]
    cases removedAt items i <;> rfl

end IndexedOperation

namespace Query
variable {settings : Settings} {source : Json} {context : Run.Context} {state after : Run.State}

namespace Yields

/-- Operations at an index can be put one on another. -/
theorem indexed (operation : IndexedOperation) (k : Json) {items : Except Fault (List Json)}
    (hsource : Yields settings source context state (items.map .array) after) :
    Yields settings (operation.term source k) context state
      (items >>= fun items => k.asInteger >>= operation.result items) after := by
  have harray : ∀ value, items.map Json.array = .ok value → ∃ found, value = .array found := by
    intro value hvalue
    obtain ⟨found, -, rfl⟩ := map_eq_ok_iff.mp hvalue
    exact ⟨found, rfl⟩
  have hresult : (items.map Json.array >>= fun value => value.asArray >>= fun items =>
      k.asInteger >>= operation.result items) =
        (items >>= fun items => k.asInteger >>= operation.result items) := by
    cases items <;> rfl
  rw [← hresult]
  refine Yields.method ?_ ?_ (.inr rfl) hsource ?_ ?_
  · cases operation <;> rfl
  · cases operation <;> rfl
  · intro value hvalue
    obtain ⟨found, rfl⟩ := harray value hvalue
    exact Bool.and_false _
  · intro first value hvalue
    obtain ⟨found, rfl⟩ := harray value hvalue
    exact operation.dispatch_eq first k found

section Array
variable {items : List Json} {k : Json} {i : Int}

theorem at_array (hsource : Yields settings source context state (.ok (.array items)) after)
    (operation : IndexedOperation) (k : Json) :
    Yields settings (operation.term source k) context state
      (k.asInteger >>= operation.result items) after := by
  have hsource : Yields settings source context state ((Except.ok items).map .array) after :=
    hsource
  exact hsource.indexed operation k

theorem run_at (hsource : Yields settings source context state (.ok (.array items)) after)
    (operation : IndexedOperation) (k : Json) :
    run ⟨operation.term source k, settings⟩ context state =
      (k.asInteger >>= operation.result items, after) :=
  (hsource.at_array operation k).run_eq

theorem succeeds_iff (hsource : Yields settings source context state (.ok (.array items)) after)
    (operation : IndexedOperation) (k : Json) :
    (∃ result last, run ⟨operation.term source k, settings⟩ context state = (.ok result, last)) ↔
      ∃ i, k.asInteger = .ok i ∧ ∃ result, operation.result items i = .ok result := by
  rw [hsource.run_at]
  constructor
  · rintro ⟨result, last, h⟩
    obtain ⟨i, hk, hresult⟩ := bind_eq_ok (congrArg Prod.fst h)
    exact ⟨i, hk, result, hresult⟩
  · rintro ⟨i, hk, result, hresult⟩
    refine ⟨result, after, ?_⟩
    rw [hk]
    exact congrArg (·, after) hresult

theorem succeeds_congr (hsource : Yields settings source context state (.ok (.array items)) after)
    (operation operation' : IndexedOperation) (k : Json)
    (h : ∀ i, (∃ result, operation.result items i = .ok result) ↔
      ∃ result, operation'.result items i = .ok result) :
    (∃ result last, run ⟨operation.term source k, settings⟩ context state = (.ok result, last)) ↔
      ∃ result last, run ⟨operation'.term source k, settings⟩ context state =
        (.ok result, last) := by
  rw [hsource.succeeds_iff, hsource.succeeds_iff]
  exact exists_congr fun i => and_congr_right fun _ => h i

/-- An operation at the index of what an operation at the same index has made. -/
theorem run_at_again (hsource : Yields settings source context state (.ok (.array items)) after)
    (operation operation' : IndexedOperation) (hk : k.asInteger = .ok i) {made : List Json}
    (hmade : operation.result items i = .ok (.array made)) :
    run ⟨operation'.term (operation.term source k) k, settings⟩ context state =
      (operation'.result made i, after) := by
  have hmade : (k.asInteger >>= operation.result items) = .ok (.array made) := by
    rw [hk]
    exact hmade
  have hagain := hsource.at_array operation k
  rw [hmade] at hagain
  rw [hagain.run_at operation' k, hk]
  rfl

/-- What is left of an array when an item is taken out. -/
theorem deleted (hsource : Yields settings source context state (.ok (.array items)) after)
    (k : Json) :
    Yields settings (IndexedOperation.delete.term source k) context state
      ((k.asInteger >>= removedAt items).map .array) after := by
  have hresult : (k.asInteger >>= IndexedOperation.delete.result items) =
      (k.asInteger >>= removedAt items).map .array := by
    cases k.asInteger <;> rfl
  rw [← hresult]
  exact hsource.at_array .delete k

end Array

end Yields

/-- The operations at an index agree on what it names. What was put in at an index is found there
and can be taken out again. An item can be replaced if it can be found or taken out, and it is
replaced by taking it out and putting the other one in. -/
theorem run_indexed {items : List Json}
    (hsource : Yields settings source context state (.ok (.array items)) after) (k item : Json) :
    let runs (term : Json) := run ⟨term, settings⟩ context state
    let succeeds (term : Json) : Prop := ∃ result last, runs term = (.ok result, last)
    let nth (source : Json) := IndexedOperation.nth.term source k
    let delete (source : Json) := IndexedOperation.delete.term source k
    let insert (source : Json) := (IndexedOperation.insert item).term source k
    let changed := (IndexedOperation.change item).term source k
    (succeeds (insert source) → runs (nth (insert source)) = (.ok item, after) ∧
      runs (delete (insert source)) = (.ok (.array items), after)) ∧
    (succeeds changed ↔ succeeds (nth source)) ∧
    (succeeds (delete source) ↔ succeeds (nth source)) ∧
    runs changed = runs (insert (delete source)) ∧
    (succeeds changed → runs (nth changed) = (.ok item, after)) ∧
    runs (insert source) = runs ((IndexedOperation.splice [item]).term source k) := by
  intro runs succeeds nth delete insert changed
  refine ⟨fun h => ?_, ?_, ?_, ?_, fun h => ?_, ?_⟩
  · obtain ⟨i, hk, result, hresult⟩ := (hsource.succeeds_iff (.insert item) k).mp h
    obtain ⟨inserted, hinserted, rfl⟩ := map_eq_ok_iff.mp hresult
    refine ⟨(hsource.run_at_again _ .nth hk hresult).trans ?_,
      (hsource.run_at_again _ .delete hk hresult).trans ?_⟩
    · exact congrArg (·, after) (itemAt_insertedAt hinserted)
    · exact congrArg (·, after) (map_eq_ok_iff.mpr ⟨_, removedAt_insertedAt hinserted, rfl⟩)
  · refine hsource.succeeds_congr (.change item) .nth k fun i => ?_
    exact map_succeeds_iff.trans replacedAt_succeeds_iff
  · refine hsource.succeeds_congr .delete .nth k fun i => ?_
    exact map_succeeds_iff.trans removedAt_succeeds_iff
  · have hinsert := ((hsource.deleted k).indexed (.insert item) k).run_eq
    rw [← IndexedOperation.result_change] at hinsert
    exact (hsource.run_at (.change item) k).trans hinsert.symm
  · obtain ⟨i, hk, result, hresult⟩ := (hsource.succeeds_iff (.change item) k).mp h
    obtain ⟨replaced, hreplaced, rfl⟩ := map_eq_ok_iff.mp hresult
    refine (hsource.run_at_again _ .nth hk hresult).trans ?_
    exact congrArg (·, after) (itemAt_replacedAt hreplaced)
  · exact (hsource.run_at (.insert item) k).trans (hsource.run_at (.splice [item]) k).symm

/-- An index below zero, where an array is put in and where one is written over. -/
theorem run_indexed_negative :
    let source := datumTerm (.array [.ofNat 1, .ofNat 2, .ofNat 3])
    let item := Json.array [.ofNat 9]
    let k := Json.number (.integer (-2))
    let insert := (IndexedOperation.insert item).term source k
    let changed := (IndexedOperation.change item).term source k
    let context : Run.Context := ⟨⟨0, 0, 0⟩, fun _ => 0⟩
    let state : Run.State := ⟨.empty, 0⟩
    run ⟨insert, {}⟩ context state = (.ok (.array [.ofNat 1, .ofNat 2, item, .ofNat 3]), state) ∧
      run ⟨IndexedOperation.nth.term insert k, {}⟩ context state = (.ok item, state) ∧
      run ⟨IndexedOperation.delete.term insert k, {}⟩ context state =
        (.ok (.array [.ofNat 1, .ofNat 2, .ofNat 3]), state) ∧
      run ⟨changed, {}⟩ context state = (.ok (.array [.ofNat 1, item, .ofNat 3]), state) ∧
      run ⟨IndexedOperation.nth.term changed k, {}⟩ context state = (.ok item, state) := by
  intro source item k insert changed context state
  have hsource := Yields.datum {} (.array [.ofNat 1, .ofNat 2, .ofNat 3]) context state
  have hinsert : run ⟨insert, {}⟩ context state =
      (.ok (.array [.ofNat 1, .ofNat 2, item, .ofNat 3]), state) := by
    rw [hsource.run_at (.insert item) k]
    decide +kernel
  have hchanged : run ⟨changed, {}⟩ context state =
      (.ok (.array [.ofNat 1, item, .ofNat 3]), state) := by
    rw [hsource.run_at (.change item) k]
    decide +kernel
  obtain ⟨hinserted, -, -, -, hfound, -⟩ := run_indexed hsource k item
  obtain ⟨hnth, hdelete⟩ := hinserted ⟨_, _, hinsert⟩
  exact ⟨hinsert, hnth, hdelete, hchanged, hfound ⟨_, _, hchanged⟩⟩

end Query

/-! ### Brackets -/

namespace Json
open Position
variable {items : List Json} {k : Number} {item : Json}

/-- The item in a bracket, which is named by an integer only. -/
def bracketed (items : List Json) (k : Number) : Except Fault Json :=
  match k.int64? with
  | some i => itemAt items i
  | none => .error (.notWholeIndex k)

theorem int64?_eq_none {n : Int} (h : (Number.integer n).int64? = none) : 2 ^ 63 ≤ n.natAbs := by
  unfold Number.int64? at h
  dsimp only at h
  split at h
  · cases h
  · omega

/-- What is in a bracket is the item that the index names, if it is written as an integer. -/
theorem bracketed_eq_ok_iff (hread : ∀ n, k = .integer n → Readable n items.length) :
    bracketed items k = .ok item ↔
      ((Json.number k).asInteger >>= itemAt items) = .ok item ∧ ∃ n, k = .integer n := by
  unfold bracketed
  cases k with
  | real x =>
    constructor
    · exact nofun
    · rintro ⟨-, n, hn⟩
      cases hn
  | integer n =>
    have hn : Readable n items.length := hread n rfl
    rw [asInteger_bind_itemAt hn]
    cases hinteger : (Number.integer n).int64? with
    | none =>
      -- An integer of more than 64 bits is cut off, and names no item before or after that.
      have hlarge : 2 ^ 63 ≤ n.natAbs := int64?_eq_none hinteger
      have hshort : items.length < 2 ^ 53 := hn.resolve_left (by omega)
      have hnone : ¬ ∃ position, index n items.length = some position := by
        rintro ⟨position, h⟩
        obtain ⟨hlt, hplace⟩ := index_eq_some_iff.mp h
        unfold resolve at hplace
        omega
      constructor
      · exact nofun
      · exact fun h => absurd (itemAt_succeeds_iff.mp ⟨item, h.1⟩) hnone
    | some m =>
      obtain rfl : n = m := by
        unfold Number.int64? at hinteger
        exact (Option.ite_none_right_eq_some.mp hinteger).2 |> Option.some.inj
      exact (and_iff_left ⟨n, rfl⟩).symm

end Json

namespace Query
variable {settings : Settings} {source : Json} {context : Run.Context} {state after : Run.State}
  {items : List Json}

/-- The term of a bracket with a number. -/
def bracketTerm (source : Json) (k : Number) : Json :=
  methodTerm .bracket source ([Json.number k].map datumTerm) none

theorem Yields.run_bracketTerm
    (hsource : Yields settings source context state (.ok (.array items)) after) (k : Number) :
    run ⟨bracketTerm source k, settings⟩ context state = (bracketed items k, after) := by
  have hbracket : Yields settings (bracketTerm source k) context state
      (.ok (.array items) >>= fun _ : Json => bracketed items k) after := by
    refine Yields.method rfl rfl (.inr rfl) hsource (fun value hvalue => ?_)
      fun first value hvalue => ?_
    · cases hvalue
      rfl
    · cases hvalue
      show ((match k.int64? with
        | some i => liftM (itemAt items i)
        | none => throw (.notWholeIndex k) : Run Json) >>= fun v => pure (Datum.value v)) = _
      unfold bracketed
      cases k.int64? with
      | none => rfl
      | some i =>
        dsimp only
        rw [Run.lift_map]
  exact hbracket.run_eq

/-- A bracket gives what `NTH` gives for an integer, and nothing for a number that is written as
another. -/
theorem run_bracket
    (hsource : Yields settings source context state (.ok (.array items)) after) (k : Number)
    (hread : ∀ n, k = .integer n → Position.Readable n items.length) (item : Json)
    (last : Run.State) :
    run ⟨bracketTerm source k, settings⟩ context state = (.ok item, last) ↔
      run ⟨IndexedOperation.nth.term source (.number k), settings⟩ context state =
          (.ok item, last) ∧
        ∃ n, k = .integer n := by
  rw [hsource.run_bracketTerm, hsource.run_at .nth, Prod.mk.injEq, Prod.mk.injEq,
    bracketed_eq_ok_iff hread]
  exact and_right_comm

/-- The last item, in a bracket and by its index. -/
theorem run_bracket_last :
    let source := datumTerm (.array [.ofNat 10, .ofNat 20])
    let k : Number := .integer (-1)
    let context : Run.Context := ⟨⟨0, 0, 0⟩, fun _ => 0⟩
    let state : Run.State := ⟨.empty, 0⟩
    run ⟨IndexedOperation.nth.term source (.number k), {}⟩ context state =
        (.ok (.ofNat 20), state) ∧
      run ⟨bracketTerm source k, {}⟩ context state = (.ok (.ofNat 20), state) := by
  intro source k context state
  have hsource := Yields.datum {} (.array [.ofNat 10, .ofNat 20]) context state
  have hread : ∀ n, k = .integer n → Position.Readable n [Json.ofNat 10, .ofNat 20].length :=
    fun _ _ => .inr (by decide)
  have hnth : run ⟨IndexedOperation.nth.term source (.number k), {}⟩ context state =
      (.ok (.ofNat 20), state) := by
    rw [hsource.run_at .nth]
    decide +kernel
  exact ⟨hnth, (run_bracket hsource k hread (.ofNat 20) state).mpr ⟨hnth, -1, rfl⟩⟩

/-- An index that is written with a fraction of zero names an item, but not in a bracket. -/
theorem run_bracket_real :
    let source := datumTerm (.array [.ofNat 10, .ofNat 20])
    let k : Number := .real (.ofInt 1)
    let context : Run.Context := ⟨⟨0, 0, 0⟩, fun _ => 0⟩
    let state : Run.State := ⟨.empty, 0⟩
    run ⟨IndexedOperation.nth.term source (.number k), {}⟩ context state =
        (.ok (.ofNat 20), state) ∧
      run ⟨bracketTerm source k, {}⟩ context state = (.error (.notWholeIndex k), state) := by
  intro source k context state
  have hsource := Yields.datum {} (.array [.ofNat 10, .ofNat 20]) context state
  constructor
  · rw [hsource.run_at .nth]
    decide +kernel
  · exact hsource.run_bracketTerm k

end Query

end DocQuery
