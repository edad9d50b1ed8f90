import DocQuery.Proofs.Query.Receivers
import DocQuery.Proofs.Value.Position

/-! Slices.

A slice of an array or a string holds, in order, what lies between the places that its indices
name. An index before the first item is moved up to it, and then an open lower end leaves that item
out and a closed upper end takes it in, so the slice may have the first item too few or too many.
That is the only way in which it can go wrong (`Query.run_slice`). -/
namespace DocQuery
open Position

/-! ### Values with positions -/

namespace Json

/-- The number of items of an array or characters of a string. -/
def length? : Json → Option Nat
  | .array items => some items.length
  | .string text => some text.toList.length
  | _ => none

/-- The items of an array or the characters of a string at the positions that are kept. -/
def pickAt (keep : Nat → Bool) : Json → Json
  | .array items => .array (Position.pick items keep)
  | .string text => .string (String.ofList (Position.pick text.toList keep))
  | value => value

theorem pickAt_congr {value : Json} {length : Nat} (hlength : value.length? = some length)
    {keep keep' : Nat → Bool} (h : ∀ position < length, keep position = keep' position) :
    value.pickAt keep = value.pickAt keep' := by
  cases value with
  | array items =>
    cases hlength
    exact congrArg Json.array (pick_congr h)
  | string text =>
    cases hlength
    exact congrArg (fun chars => Json.string (String.ofList chars)) (pick_congr h)
  | _ => rfl

/-- Picks that may differ at the first position alone. -/
theorem pickAt_eq_iff {value : Json} {length : Nat} (hlength : value.length? = some length)
    {keep keep' : Nat → Bool} (h : ∀ position, keep (position + 1) = keep' (position + 1)) :
    value.pickAt keep = value.pickAt keep' ↔ length = 0 ∨ keep 0 = keep' 0 := by
  cases value with
  | array items =>
    cases hlength
    rw [List.length_eq_zero_iff, ← pick_eq_iff h, pickAt, pickAt, Json.array.injEq]
  | string text =>
    cases hlength
    rw [List.length_eq_zero_iff, ← pick_eq_iff h, pickAt, pickAt, Json.string.injEq,
      String.ofList_inj]
  | _ => cases hlength

end Json

/-! ### Calls -/

/-- How an option says whether an end of a range is closed. -/
def endText (closed : Bool) : String := if closed then "closed" else "open"

/-- The options say of an end of a range whether it is closed. -/
def Closes (options : Fields Json) (name : String) (default closed : Bool) : Prop :=
  options.get? name = some (.string (endText closed)) ∨
    options.get? name = none ∧ closed = default

/-- The operands of a slice. -/
def sliceData (start : Number) (stop? : Option Number) : List Json :=
  .number start :: (stop?.map Json.number).toList

/-- The call of a slice. -/
def sliceCall (first : Argument) (start : Number) (stop? : Option Number)
    (options : Fields Json) : Call :=
  ⟨.slice, first :: (sliceData start stop?).map .ofValue, options⟩

namespace Call
variable {options : Fields Json} {leftClosed rightClosed : Bool} {start : Number}
  {stop? : Option Number} {i : Int} {j? : Option Int}

theorem isClosed_of_closes (call : Call) {name : String} {default closed : Bool}
    (h : Closes call.options name default closed) :
    call.isClosed name (endText default) = .ok closed := by
  unfold isClosed option?
  rcases h with h | ⟨h, rfl⟩
  · rw [h]
    cases closed <;> rfl
  · rw [h]
    cases closed <;> rfl

/-- What the operands and the options of a slice are read as. -/
theorem bounds_sliceCall (hstart : (Json.number start).asInteger = .ok i)
    (hstop : Option.Rel (fun stop j => (Json.number stop).asInteger = .ok j) stop? j?)
    (hleft : Closes options "left_bound" true leftClosed)
    (hright : Closes options "right_bound" false rightClosed) (first : Argument) (length : Nat) :
    (sliceCall first start stop? options).bounds length =
      pure (Position.bounds length i j? leftClosed rightClosed) := by
  let call := sliceCall first start stop? options
  have hleft : call.leftClosed = .ok leftClosed := isClosed_of_closes call hleft
  have hright : call.rightClosed = .ok rightClosed := isClosed_of_closes call hright
  show call.bounds length = _
  unfold Call.bounds
  rw [hleft, hright]
  cases hstop with
  | none =>
    show (liftM (Json.number start).asInteger >>= fun start => _ : Run (Nat × Nat)) = _
    rw [hstart]
    rfl
  | some hstop =>
    show (liftM (Json.number start).asInteger >>= fun start =>
      (some <$> liftM (Json.number _).asInteger) >>= fun stop => _ : Run (Nat × Nat)) = _
    rw [hstart, hstop]
    rfl

/-- A slice of an array or a string. -/
theorem dispatch_slice {value : Json} {length : Nat} (hlength : value.length? = some length)
    (hstart : (Json.number start).asInteger = .ok i)
    (hstop : Option.Rel (fun stop j => (Json.number stop).asInteger = .ok j) stop? j?)
    (hleft : Closes options "left_bound" true leftClosed)
    (hright : Closes options "right_bound" false rightClosed) (first : Argument) :
    (sliceCall first start stop? options).dispatch (.value value) =
      pure (.value (value.pickAt (Position.between (place i length) (j?.map (place · length))
        leftClosed rightClosed))) := by
  let call := sliceCall first start stop? options
  have hbounds : call.bounds length = _ := bounds_sliceCall hstart hstop hleft hright first length
  show call.slice (.value value) = _
  cases value with
  | array items =>
    cases hlength
    show (call.bounds items.length >>= fun range =>
      pure (Datum.value (.array (stretch items range)))) = _
    rw [hbounds, pure_bind, stretch_bounds]
    rfl
  | string text =>
    cases hlength
    show (call.bounds text.toList.length >>= fun range =>
      pure (Datum.value (.string (String.ofList (stretch text.toList range))))) = _
    rw [hbounds, pure_bind, stretch_bounds]
    rfl
  | _ => cases hlength

end Call

/-! ### Queries -/

/-- The term of a slice of what another term means. -/
def sliceTerm (source : Json) (start : Number) (stop? : Option Number)
    (options? : Option (Fields Json)) : Json :=
  methodTerm .slice source ((sliceData start stop?).map datumTerm) options?

/-- The number is an integer that can be read as an index of a value so long. -/
def Number.IsIndex (length : Nat) (k : Number) (n : Int) : Prop := k.IsInt n ∧ Readable n length

namespace Number
variable {length : Nat} {k : Number} {n : Int} {k? : Option Number} {n? : Option Int}

theorem IsIndex.exists_asInteger (h : k.IsIndex length n) :
    ∃ i, (Json.number k).asInteger = .ok i ∧
      SamePlace length (place i length) (place n length) := by
  obtain ⟨i, hi, hread⟩ := h.1.exists_asInteger
  exact ⟨i, hi, hread.samePlace h.2⟩

theorem IsIndex.exists_asInteger? (h : Option.Rel (IsIndex length) k? n?) :
    ∃ i?, Option.Rel (fun k i => (Json.number k).asInteger = .ok i) k? i? ∧
      Option.Rel (SamePlace length) (i?.map (place · length)) (n?.map (place · length)) := by
  cases h with
  | none => exact ⟨none, .none, .none⟩
  | some h =>
    obtain ⟨i, hi, hplace⟩ := h.exists_asInteger
    exact ⟨some i, .some hi, .some hplace⟩

end Number

namespace Query
variable {settings : Settings} {source value : Json} {context : Run.Context}
  {state after : Run.State} {length : Nat} {options? : Option (Fields Json)}
  {leftClosed rightClosed : Bool} {start : Number} {stop? : Option Number} {a : Int}
  {b? : Option Int}

theorem Yields.run_sliceTerm (hsource : Yields settings source context state (.ok value) after)
    (hlength : value.length? = some length) (hstart : start.IsIndex length a)
    (hstop : Option.Rel (Number.IsIndex length) stop? b?)
    (hleft : Closes (options?.getD []) "left_bound" true leftClosed)
    (hright : Closes (options?.getD []) "right_bound" false rightClosed) :
    run ⟨sliceTerm source start stop? options?, settings⟩ context state =
      (.ok (value.pickAt (Position.between (place a length) (b?.map (place · length)) leftClosed
        rightClosed)), after) := by
  obtain ⟨i, hi, hplace⟩ := hstart.exists_asInteger
  obtain ⟨j?, hj, hplaces⟩ := Number.IsIndex.exists_asInteger? hstop
  have hcount : Operation.slice.descriptor.accepts ((sliceData start stop?).length + 1) = true := by
    cases stop? <;> rfl
  have hslice : Yields settings (sliceTerm source start stop? options?) context state
      (.ok value >>= fun value => .ok (value.pickAt (Position.between (place i length)
        (j?.map (place · length)) leftClosed rightClosed))) after := by
    refine Yields.method rfl hcount (.inl rfl) hsource (fun found hfound => ?_)
      fun first found hfound => ?_
    · cases hfound
      cases value with
      | object => cases hlength
      | _ => rfl
    · cases hfound
      exact Call.dispatch_slice hlength hi hj hleft hright first
  rw [hslice.run_eq]
  refine congrArg (fun value : Json => (Except.ok value, after)) ?_
  exact Json.pickAt_congr hlength fun _ => between_congr hplace hplaces leftClosed rightClosed

/-- A slice reaches from place to place, an index before the first item standing for the place of
that. The slice holds what lies between the places that the indices name, unless there is a first
item about which the two disagree. -/
theorem run_slice (hsource : Yields settings source context state (.ok value) after)
    (hlength : value.length? = some length) (hstart : start.IsIndex length a)
    (hstop : Option.Rel (Number.IsIndex length) stop? b?)
    (hleft : Closes (options?.getD []) "left_bound" true leftClosed)
    (hright : Closes (options?.getD []) "right_bound" false rightClosed) :
    let slice := run ⟨sliceTerm source start stop? options?, settings⟩ context state
    let within (locate : Int → Nat → Int) : Nat → Bool :=
      Position.between (locate a length) (b?.map (locate · length)) leftClosed rightClosed
    slice = (.ok (value.pickAt (within place)), after) ∧
      (slice = (.ok (value.pickAt (within resolve)), after) ↔
        length = 0 ∨ within place 0 = within resolve 0) := by
  intro slice within
  have hslice : slice = (.ok (value.pickAt (within place)), after) :=
    hsource.run_sliceTerm hlength hstart hstop hleft hright
  refine ⟨hslice, ?_⟩
  rw [hslice, Prod.mk.injEq, and_iff_left rfl, Except.ok.injEq]
  exact Json.pickAt_eq_iff hlength (between_place_succ a b? leftClosed rightClosed length)

/-- The characters of a text from the second one up to the last but one, which is taken in. -/
theorem run_slice_text :
    let source := datumTerm (.string "größer")
    let options : Fields Json := [("right_bound", .string "closed")]
    let term := sliceTerm source (.integer 1) (some (.integer (-2))) (some options)
    let context : Run.Context := ⟨⟨0, 0, 0⟩, fun _ => 0⟩
    let state : Run.State := ⟨.empty, 0⟩
    run ⟨term, {}⟩ context state = (.ok (.string "röße"), state) := by
  intro source options term context state
  have hstart : Number.IsIndex 6 (.integer 1) 1 := ⟨rfl, .inr (by decide)⟩
  have hstop : Option.Rel (Number.IsIndex 6) (some (.integer (-2))) (some (-2)) :=
    .some ⟨rfl, .inr (by decide)⟩
  have hright : Closes ((some options).getD []) "right_bound" false true := .inl rfl
  obtain ⟨hslice, -⟩ := run_slice (Yields.datum {} (.string "größer") context state) rfl hstart
    hstop (.inr ⟨rfl, rfl⟩) hright
  refine hslice.trans (congrArg (fun value : Json => (Except.ok value, state)) ?_)
  decide +kernel

/-- An open end before the first of three items leaves the first one out, and a closed one takes it
in. -/
theorem run_slice_before_first :
    let items := [Json.ofNat 1, .ofNat 2, .ofNat 3]
    let source := datumTerm (.array items)
    let opened := sliceTerm source (.integer (-4)) none (some [("left_bound", .string "open")])
    let closed := sliceTerm source (.integer 0) (some (.integer (-4)))
      (some [("right_bound", .string "closed")])
    let context : Run.Context := ⟨⟨0, 0, 0⟩, fun _ => 0⟩
    let state : Run.State := ⟨.empty, 0⟩
    run ⟨opened, {}⟩ context state = (.ok (.array [.ofNat 2, .ofNat 3]), state) ∧
      Position.pick items (Position.between (resolve (-4) 3) none false false) = items ∧
      run ⟨closed, {}⟩ context state = (.ok (.array [.ofNat 1]), state) ∧
      Position.pick items (Position.between (resolve 0 3) (some (resolve (-4) 3)) true true) =
        [] := by
  intro items source opened closed context state
  have hsource := Yields.datum {} (.array items) context state
  have hindex : ∀ n, Number.IsIndex 3 (.integer n) n := fun n => ⟨rfl, .inr (by decide)⟩
  have hopened : Closes ((some [("left_bound", .string "open")]).getD []) "left_bound" true false :=
    .inl rfl
  have hclosed :
      Closes ((some [("right_bound", .string "closed")]).getD []) "right_bound" false true :=
    .inl rfl
  refine ⟨?_, by decide +kernel, ?_, by decide +kernel⟩
  · refine (hsource.run_sliceTerm rfl (hindex (-4)) .none hopened (.inr ⟨rfl, rfl⟩)).trans ?_
    exact congrArg (fun value : Json => (Except.ok value, state)) (by decide +kernel)
  · refine (hsource.run_sliceTerm rfl (hindex 0) (.some (hindex (-4))) (.inr ⟨rfl, rfl⟩)
      hclosed).trans ?_
    exact congrArg (fun value : Json => (Except.ok value, state)) (by decide +kernel)

end Query

end DocQuery
