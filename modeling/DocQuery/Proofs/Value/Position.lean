import DocQuery.Proofs.Fault
import DocQuery.Proofs.Value.Whole
import DocQuery.Value.Index
import Mathlib.Data.List.InsertIdx
import Mathlib.Data.Option.Basic

/-! Positions in arrays.

An index names an item, and a gap is an item of the list that is longer by one (`gap_eq_index`). So
what is put in at an index is found there and can be taken out again. A slice reaches from place to
place (`stretch_bounds`): the places lie where its ends do, unless an end is before the first item.
It is moved up to that item then, before an open lower end leaves its item out and a closed upper
end takes its item in, so the first item may be there too few or too many. -/
namespace DocQuery
namespace Position

/-! ### Indices -/

/-- The place that an index names, which may lie outside. -/
def resolve (i : Int) (length : Nat) : Int := if i < 0 then length + i else i

theorem index_eq_some_iff {i : Int} {length position : Nat} :
    index i length = some position ↔ position < length ∧ resolve i length = position := by
  unfold index
  show (if 0 ≤ resolve i length ∧ resolve i length < length then _ else _) = _ ↔ _
  split
  · rw [Option.some_inj]
    show (resolve i length).toNat = position ↔ _
    omega
  · simp only [reduceCtorEq, false_iff]
    omega

theorem lt_of_mem_index {i : Int} {length position : Nat} (h : position ∈ index i length) :
    position < length := (index_eq_some_iff.mp h).1

/-- A gap is an item of the list that is longer by one. -/
theorem gap_eq_index (i : Int) (length : Nat) : gap i length = index i (length + 1) := by
  unfold gap index
  dsimp only
  rw [Int.natCast_add_one]
  refine if_congr ?_ rfl rfl
  omega

theorem le_of_mem_gap {i : Int} {length position : Nat} (h : position ∈ gap i length) :
    position ≤ length := by
  rw [gap_eq_index] at h
  exact Nat.le_of_lt_succ (lt_of_mem_index h)

/-! ### Positions that are picked -/

section Pick
variable {α : Type} {items : List α} {keep keep' : Nat → Bool}

/-- The items at the positions that are kept, in order. -/
def pick (items : List α) (keep : Nat → Bool) : List α :=
  (items.zipIdx.filter fun entry => keep entry.2).map Prod.fst

theorem pick_nil (keep : Nat → Bool) : pick ([] : List α) keep = [] := rfl

theorem pick_cons (item : α) (rest : List α) (keep : Nat → Bool) :
    pick (item :: rest) keep =
      (if keep 0 then [item] else []) ++ pick rest fun position => keep (position + 1) := by
  have hrest : (((rest.zipIdx (0 + 1)).filter fun entry => keep entry.2).map Prod.fst) =
      pick rest fun position => keep (position + 1) := by
    unfold pick
    rw [List.zipIdx_succ, List.filter_map, List.map_map]
    rfl
  rw [← hrest]
  unfold pick
  rw [List.zipIdx_cons, List.filter_cons]
  split
  · rw [List.map_cons, List.singleton_append]
  · rw [List.nil_append]

theorem pick_congr (h : ∀ position < items.length, keep position = keep' position) :
    pick items keep = pick items keep' := by
  unfold pick
  congr 1
  refine List.filter_congr fun entry hentry => h entry.2 ?_
  have hlt := (List.mem_zipIdx hentry).2.1
  omega

theorem stretch_eq_pick (items : List α) (start stop : Nat) :
    stretch items (start, stop) =
      pick items fun position => decide (start ≤ position ∧ position < stop) := by
  unfold stretch
  dsimp only
  -- Both ends move down by one with each item.
  induction items generalizing start stop with
  | nil => rw [List.take_nil, List.drop_nil, pick_nil]
  | cons item rest ih =>
    rw [pick_cons]
    cases stop with
    | zero => simp [pick]
    | succ stop =>
      rw [List.take_succ_cons]
      cases start with
      | zero => simpa using ih 0 stop
      | succ start => simpa using ih start stop

/-- Picks that may differ at the first position alone are the same if they do not, or if there
is none. -/
theorem pick_eq_iff (h : ∀ position, keep (position + 1) = keep' (position + 1)) :
    pick items keep = pick items keep' ↔ items = [] ∨ keep 0 = keep' 0 := by
  cases items with
  | nil => simp [pick_nil]
  | cons item rest =>
    rw [pick_cons, pick_cons, funext h, List.append_left_inj]
    cases keep 0 <;> cases keep' 0 <;> simp

end Pick

/-! ### Stretches -/

/-- The position lies between two places. An end is taken in if it is closed, and a missing
upper end leaves the rest in. -/
def between (start : Int) (stop? : Option Int) (leftClosed rightClosed : Bool) (position : Nat) :
    Bool :=
  (if leftClosed then decide (start ≤ position) else decide (start < position)) &&
    stop?.all fun stop : Int =>
      if rightClosed then decide (position ≤ stop) else decide (position < stop)

/-- The place that an index names, or the first one if it lies before that. -/
def place (i : Int) (length : Nat) : Int := max (resolve i length) 0

theorem clamp_eq (i : Int) (length : Nat) :
    (clamp i length : Int) = min (place i length) length := by
  unfold clamp place resolve
  split <;> omega

theorem clamp_le (i : Int) (length : Nat) : clamp i length ≤ length := by
  have := clamp_eq i length
  omega

/-- A slice does not end before it starts, and ends with the items at the latest. -/
theorem bounds_le (length : Nat) (start : Int) (stop? : Option Int)
    (leftClosed rightClosed : Bool) :
    let range := bounds length start stop? leftClosed rightClosed
    range.1 ≤ range.2 ∧ range.2 ≤ length :=
  ⟨Nat.min_le_right _ _, Nat.min_le_right _ _⟩

/-- A slice reaches from place to place. -/
theorem stretch_bounds {α : Type} (items : List α) (start : Int) (stop? : Option Int)
    (leftClosed rightClosed : Bool) :
    stretch items (bounds items.length start stop? leftClosed rightClosed) =
      pick items (between (place start items.length) (stop?.map (place · items.length)) leftClosed
        rightClosed) := by
  refine (stretch_eq_pick items _ _).trans (pick_congr fun position hposition => ?_)
  -- Above, an end may be cut off before or after it is moved: no position lies there.
  have hstart := clamp_eq start items.length
  rw [Bool.eq_iff_iff, decide_eq_true_iff]
  unfold between
  cases stop? with
  | none => cases leftClosed <;> cases rightClosed <;> simp <;> omega
  | some stop =>
    have hstop := clamp_eq stop items.length
    cases leftClosed <;> cases rightClosed <;> simp <;> omega

/-! ### Items that are deleted -/

/-- The positions from which and up to which items are deleted: one item, unless there is an end. -/
def drained (i : Int) (stop? : Option Int) (length : Nat) : Option (Nat × Nat) :=
  (index i length).map fun start => (start, stop?.elim (start + 1) (clamp · length))

theorem le_of_mem_drained {i : Int} {stop? : Option Int} {length : Nat} {range : Nat × Nat}
    (h : range ∈ drained i stop? length) : range.1 < length ∧ range.2 ≤ length := by
  obtain ⟨start, hindex, rfl⟩ := Option.map_eq_some_iff.mp h
  have hstart := lt_of_mem_index hindex
  cases stop? with
  | none => exact ⟨hstart, hstart⟩
  | some stop => exact ⟨hstart, clamp_le stop length⟩

/-! ### Ends before the first item -/

/-- After the first item, it makes no difference that places are moved up to it. -/
theorem between_place_succ (start : Int) (stop? : Option Int) (leftClosed rightClosed : Bool)
    (length position : Nat) :
    between (place start length) (stop?.map (place · length)) leftClosed rightClosed
        (position + 1) =
      between (resolve start length) (stop?.map (resolve · length)) leftClosed rightClosed
        (position + 1) := by
  unfold between place
  rw [Bool.eq_iff_iff]
  cases stop? <;> cases leftClosed <;> cases rightClosed <;> simp <;> omega

/-! ### Indices that are read -/

/-- The integer can be read, or it lies beyond all items whatever is read for it. -/
def Readable (n : Int) (length : Nat) : Prop := n.natAbs ≤ 2 ^ 53 ∨ length < 2 ^ 53

/-- The places are the same, or both after all items. -/
def SamePlace (length : Nat) (place place' : Int) : Prop :=
  place = place' ∨ (length ≤ place ∧ length ≤ place')

theorem between_congr {length position : Nat} {start start' : Int} {stop? stop?' : Option Int}
    (hstart : SamePlace length start start') (hstop : Option.Rel (SamePlace length) stop? stop?')
    (leftClosed rightClosed : Bool) (hposition : position < length) :
    between start stop? leftClosed rightClosed position =
      between start' stop?' leftClosed rightClosed position := by
  unfold between
  rw [Bool.eq_iff_iff]
  unfold SamePlace at hstart
  cases hstop with
  | none => cases leftClosed <;> cases rightClosed <;> simp <;> omega
  | some hstop =>
    unfold SamePlace at hstop
    cases leftClosed <;> cases rightClosed <;> simp <;> omega

end Position

namespace ReadAs
open Position
variable {n i : Int} {length : Nat}

/-- What is read for an index names the same item. -/
theorem index_eq (h : ReadAs n i) (hn : Readable n length) : index i length = index n length := by
  refine Option.ext fun position => ?_
  rw [index_eq_some_iff, index_eq_some_iff]
  unfold ReadAs at h
  unfold Readable at hn
  unfold resolve
  omega

theorem samePlace (h : ReadAs n i) (hn : Readable n length) :
    SamePlace length (place i length) (place n length) := by
  unfold ReadAs at h
  unfold Readable at hn
  unfold SamePlace place resolve
  omega

end ReadAs

/-! ### Items by position -/

namespace Json
open Position
variable {items result : List Json} {item : Json} {i : Int}

theorem itemAt_eq_ok_iff : itemAt items i = .ok item ↔
    ∃ position, index i items.length = some position ∧ items[position]? = some item := by
  unfold itemAt
  rw [← Option.bind_eq_some_iff]
  cases (index i items.length).bind (items[·]?) <;> simp

/-- An integer that can be read names the item that it names as it is written. -/
theorem asInteger_bind_itemAt {n : Int} (hn : Readable n items.length) :
    ((Json.number (.integer n)).asInteger >>= itemAt items) = itemAt items n := by
  obtain ⟨i, hi, hread⟩ := Number.IsInt.exists_asInteger (k := .integer n) (n := n) rfl
  have hindex : index i items.length = index n items.length := hread.index_eq hn
  rw [hi]
  show itemAt items i = itemAt items n
  unfold itemAt
  rw [hindex]

theorem itemAt_succeeds_iff :
    (∃ item, itemAt items i = .ok item) ↔ ∃ position, index i items.length = some position := by
  constructor
  · rintro ⟨item, h⟩
    obtain ⟨position, hposition, -⟩ := itemAt_eq_ok_iff.mp h
    exact ⟨position, hposition⟩
  · rintro ⟨position, h⟩
    have hlt : position < items.length := lt_of_mem_index h
    exact ⟨items[position], itemAt_eq_ok_iff.mpr ⟨position, h, List.getElem?_eq_getElem hlt⟩⟩

theorem indexIn_eq_ok_iff {position : Nat} :
    indexIn items i = .ok position ↔ index i items.length = some position := by
  unfold indexIn
  cases index i items.length <;> simp

theorem gapIn_eq_ok_iff {position : Nat} :
    gapIn items i = .ok position ↔ index i (items.length + 1) = some position := by
  unfold gapIn
  rw [gap_eq_index]
  cases index i (items.length + 1) <;> simp

/-- The items with one put in at an index. -/
def insertedAt (items : List Json) (i : Int) (item : Json) : Except Fault (List Json) :=
  (gapIn items i).map (splicedAt items · [item])

/-- The items without the one that an index names. -/
def removedAt (items : List Json) (i : Int) : Except Fault (List Json) :=
  (indexIn items i).map fun position => deletedAt items position (position + 1)

/-- The items without those from an index on, up to another one if there is one. -/
def drainedAt (items : List Json) (i : Int) (stop? : Option Int) : Except Fault (List Json) :=
  match drained i stop? items.length with
  | some range => .ok (deletedAt items range.1 range.2)
  | none => .error (.outOfBounds i items.length)

/-- The items with another one where an index says. -/
def replacedAt (items : List Json) (i : Int) (item : Json) : Except Fault (List Json) :=
  (indexIn items i).map (changedAt items · item)

theorem splicedAt_eq_insertIdx {gap : Nat} (hgap : gap ≤ items.length) :
    splicedAt items gap [item] = items.insertIdx gap item := by
  unfold splicedAt
  induction gap generalizing items with
  | zero => simp
  | succ gap ih =>
    cases items with
    | nil => simp at hgap
    | cons head rest => simpa using ih (Nat.le_of_succ_le_succ hgap)

theorem deletedAt_eq_eraseIdx (position : Nat) :
    deletedAt items position (position + 1) = items.eraseIdx position := by
  unfold deletedAt
  rw [if_pos (Nat.lt_succ_self position), List.eraseIdx_eq_take_drop_succ]

theorem drainedAt_eq (items : List Json) (i : Int) (stop? : Option Int) :
    drainedAt items i stop? = (indexIn items i).map fun start =>
      deletedAt items start (stop?.elim (start + 1) (clamp · items.length)) := by
  unfold drainedAt drained indexIn
  cases index i items.length <;> rfl

theorem insertedAt_eq_ok_iff : insertedAt items i item = .ok result ↔
    ∃ position, index i (items.length + 1) = some position ∧
      items.insertIdx position item = result := by
  unfold insertedAt
  rw [map_eq_ok_iff]
  simp only [gapIn_eq_ok_iff]
  refine exists_congr fun position => and_congr_right fun hindex => ?_
  rw [splicedAt_eq_insertIdx (Nat.le_of_lt_succ (lt_of_mem_index hindex))]

theorem removedAt_eq_ok_iff : removedAt items i = .ok result ↔
    ∃ position, index i items.length = some position ∧ items.eraseIdx position = result := by
  unfold removedAt
  simp only [map_eq_ok_iff, indexIn_eq_ok_iff, deletedAt_eq_eraseIdx]

theorem replacedAt_eq_ok_iff : replacedAt items i item = .ok result ↔
    ∃ position, index i items.length = some position ∧ items.set position item = result := by
  unfold replacedAt
  simp only [map_eq_ok_iff, indexIn_eq_ok_iff, changedAt]

/-! ### Laws of indices -/

/-- What was put in at an index is found there. -/
theorem itemAt_insertedAt (h : insertedAt items i item = .ok result) :
    itemAt result i = .ok item := by
  obtain ⟨position, hindex, rfl⟩ := insertedAt_eq_ok_iff.mp h
  have hle : position ≤ items.length := Nat.le_of_lt_succ (lt_of_mem_index hindex)
  refine itemAt_eq_ok_iff.mpr ⟨position, ?_, ?_⟩
  · rwa [List.length_insertIdx_of_le_length hle]
  · rw [List.getElem?_insertIdx_self, if_pos hle]

/-- What was put in at an index can be taken out there. -/
theorem removedAt_insertedAt (h : insertedAt items i item = .ok result) :
    removedAt result i = .ok items := by
  obtain ⟨position, hindex, rfl⟩ := insertedAt_eq_ok_iff.mp h
  have hle : position ≤ items.length := Nat.le_of_lt_succ (lt_of_mem_index hindex)
  refine removedAt_eq_ok_iff.mpr ⟨position, ?_, List.eraseIdx_insertIdx_self item⟩
  rwa [List.length_insertIdx_of_le_length hle]

theorem itemAt_replacedAt (h : replacedAt items i item = .ok result) :
    itemAt result i = .ok item := by
  obtain ⟨position, hindex, rfl⟩ := replacedAt_eq_ok_iff.mp h
  refine itemAt_eq_ok_iff.mpr ⟨position, ?_, ?_⟩
  · rwa [List.length_set]
  · exact List.getElem?_set_self (lt_of_mem_index hindex)

/-- An item is replaced by taking it out and putting the other one in. -/
theorem replacedAt_eq : replacedAt items i item =
    removedAt items i >>= fun rest => insertedAt rest i item := by
  cases hindex : index i items.length with
  | none =>
    have hfails : indexIn items i = .error (.outOfBounds i items.length) := by
      unfold indexIn
      rw [hindex]
    unfold replacedAt removedAt
    rw [hfails]
    rfl
  | some position =>
    have hlt : position < items.length := lt_of_mem_index hindex
    rw [replacedAt_eq_ok_iff.mpr ⟨position, hindex, rfl⟩,
      removedAt_eq_ok_iff.mpr ⟨position, hindex, rfl⟩]
    refine (insertedAt_eq_ok_iff.mpr ⟨position, ?_, ?_⟩).symm
    · rwa [List.length_eraseIdx_of_lt hlt, Nat.sub_add_cancel (Nat.zero_lt_of_lt hlt)]
    · exact List.insertIdx_eraseIdx_self (Nat.ne_of_lt hlt) item

theorem removedAt_succeeds_iff :
    (∃ result, removedAt items i = .ok result) ↔ ∃ item, itemAt items i = .ok item := by
  simp [removedAt_eq_ok_iff, itemAt_succeeds_iff]

theorem replacedAt_succeeds_iff :
    (∃ result, replacedAt items i item = .ok result) ↔ ∃ item, itemAt items i = .ok item := by
  simp [replacedAt_eq_ok_iff, itemAt_succeeds_iff]

end Json

end DocQuery
