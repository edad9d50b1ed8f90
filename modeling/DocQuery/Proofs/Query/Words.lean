import DocQuery.Proofs.Query.Positions
import DocQuery.Proofs.Value.Word

/-! Queries of positions on words.

What is read for an index is a word, and positions are worked out of it on words without leaving
them. They lie in the array, or at its end where that is a gap or where a stretch of items ends
(`Query.positions_of_words`). -/
namespace DocQuery
open Json

/-- The term that deletes items of what another term means, from an index up to another one. -/
def deleteTerm (source k : Json) (stop? : Option Json) : Json :=
  methodTerm .deleteAt source ((k :: stop?.toList).map datumTerm) none

namespace Call
variable {k : Json} {stop? : Option Json} {items : List Json} {i : Int} {j? : Option Int}

theorem dispatch_deleteAt (first : Argument) (hk : k.asInteger = .ok i)
    (hstop : Option.Rel (fun stop j => stop.asInteger = .ok j) stop? j?) :
    dispatch ⟨.deleteAt, first :: (k :: stop?.toList).map .ofValue, []⟩ (.value (.array items)) =
      liftM (((drainedAt items i j?).map Json.array).map Datum.value) := by
  rw [drainedAt_eq]
  cases hstop with
  | none =>
    have hdelete := IndexedOperation.delete.dispatch_eq first k items
    rw [hk] at hdelete
    exact hdelete
  | @some stop j hstop =>
    -- The end is read after the first position was found.
    show ((liftM k.asInteger >>= fun i => liftM (indexIn items i) >>= fun start =>
      ((Position.clamp · items.length) <$> (liftM stop.asInteger : Run Int)) >>= fun last =>
        pure (Json.array (deletedAt items start last)) : Run Json) >>= fun v =>
          pure (Datum.value v)) = _
    rw [hk, hstop]
    simp only [Run.lift_map, bind_assoc, pure_bind]
    rfl

end Call

namespace Query
variable {settings : Settings} {source k : Json} {stop? : Option Json} {items : List Json} {i : Int}
  {j? : Option Int} {context : Run.Context} {state after : Run.State}

/-- What is left of an array is what is outside the positions that are drained. -/
theorem Yields.run_deleteTerm
    (hsource : Yields settings source context state (.ok (.array items)) after)
    (hk : k.asInteger = .ok i)
    (hstop : Option.Rel (fun stop j => stop.asInteger = .ok j) stop? j?) :
    run ⟨deleteTerm source k stop?, settings⟩ context state =
      ((drainedAt items i j?).map .array, after) := by
  have hcount : Operation.deleteAt.descriptor.accepts ((k :: stop?.toList).length + 1) = true := by
    cases stop? <;> rfl
  have hdelete : Yields settings (deleteTerm source k stop?) context state
      (.ok (.array items) >>= fun _ : Json => (drainedAt items i j?).map .array) after := by
    refine Yields.method rfl hcount (.inr rfl) hsource (fun value hvalue => ?_)
      fun first value hvalue => ?_
    · cases hvalue
      rfl
    · cases hvalue
      exact Call.dispatch_deleteAt first hk hstop
  exact hdelete.run_eq

/-- Whatever is read for an index is a word. For up to `2 ^ 62` items, positions are worked out on
words without leaving them, and they lie in the array; the last gap is at its end. What a deletion
drains are such positions. -/
theorem positions_of_words {length : Nat} (h : length ≤ 2 ^ 62) (i : Int64)
    (last? : Option Int64) (leftClosed rightClosed : Bool) :
    let last := last?.map Int64.toInt
    let slice := Position.bounds length i.toInt last leftClosed rightClosed
    (∀ value n, asInteger value = .ok n → ∃ w : Int64, w.toInt = n) ∧
    (Word.bounds length i last? leftClosed rightClosed = some slice ∧
      slice.1 ≤ slice.2 ∧ slice.2 ≤ length) ∧
    (Word.index i length = some (Position.index i.toInt length) ∧
      ∀ position ∈ Position.index i.toInt length, position < length) ∧
    (Word.gap i length = some (Position.gap i.toInt length) ∧
      ∀ gap ∈ Position.gap i.toInt length, gap ≤ length) ∧
    (Word.drained i last? length = some (Position.drained i.toInt last length) ∧
      ∀ range ∈ Position.drained i.toInt last length, range.1 < length ∧ range.2 ≤ length) ∧
    ∀ {settings : Settings} {source k : Json} {stop? : Option Json} {items : List Json}
      {context : Run.Context} {state after : Run.State},
      Yields settings source context state (.ok (.array items)) after →
      asInteger k = .ok i.toInt →
      Option.Rel (fun stop w => asInteger stop = .ok (Int64.toInt w)) stop? last? →
      run ⟨deleteTerm source k stop?, settings⟩ context state =
        ((drainedAt items i.toInt last).map .array, after) := by
  refine ⟨fun _ _ => Word.exists_of_asInteger,
    ⟨Word.bounds_eq h i last? leftClosed rightClosed, Position.bounds_le _ _ _ _ _⟩,
    ⟨Word.index_eq h i, fun _ => Position.lt_of_mem_index⟩,
    ⟨Word.gap_eq h i, fun _ => Position.le_of_mem_gap⟩,
    ⟨Word.drained_eq h i last?, fun _ => Position.le_of_mem_drained⟩, ?_⟩
  intro settings source k stop? items context state after hsource hk hlast
  refine hsource.run_deleteTerm hk ?_
  cases hlast with
  | none => exact .none
  | some hstop => exact .some hstop

/-- The smallest and the largest word, and an end beyond all words. -/
theorem positions_of_words_extreme :
    let source := datumTerm (.array [.ofNat 1, .ofNat 2, .ofNat 3])
    let term := deleteTerm source (.number (.integer (-2))) (some (.number (.integer (10 ^ 30))))
    let context : Run.Context := ⟨⟨0, 0, 0⟩, fun _ => 0⟩
    let state : Run.State := ⟨.empty, 0⟩
    Word.bounds (2 ^ 62) Int64.minValue (some Int64.maxValue) false true = some (1, 2 ^ 62) ∧
      Word.index Int64.minValue (2 ^ 62) = some none ∧
      Word.gap Int64.maxValue (2 ^ 62) = some none ∧
      Word.drained (-1) (some Int64.minValue) (2 ^ 62) = some (some (2 ^ 62 - 1, 0)) ∧
      run ⟨term, {}⟩ context state = (.ok (.array [.ofNat 1]), state) := by
  intro source term context state
  have hbound : 2 ^ 62 ≤ 2 ^ 62 := Nat.le_refl _
  obtain ⟨-, ⟨hslice, -⟩, ⟨hindex, -⟩, -⟩ :=
    positions_of_words hbound Int64.minValue (some Int64.maxValue) false true
  obtain ⟨-, -, -, ⟨hgap, -⟩, -⟩ := positions_of_words hbound Int64.maxValue none true true
  obtain ⟨-, -, -, -, ⟨hdrained, -⟩, -⟩ :=
    positions_of_words hbound (-1) (some Int64.minValue) true true
  obtain ⟨-, -, -, -, -, hruns⟩ := positions_of_words hbound (-2) (some Int64.maxValue) true true
  have hrun : run ⟨term, {}⟩ context state = _ :=
    hruns (Yields.datum {} _ context state) (by decide +kernel) (.some (by decide +kernel))
  refine ⟨hslice.trans ?_, hindex.trans ?_, hgap.trans ?_, hdrained.trans ?_, hrun.trans ?_⟩
  all_goals decide +kernel

end Query

end DocQuery
