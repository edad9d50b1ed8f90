import DocQuery.Proofs.Value.Position

/-! Positions on words.

An index is read as a word, a signed integer of 64 bits, and positions are worked out of it by sums
of words. Here every step is taken on words: a sum that is no word ends the arithmetic, and a
negative word wraps around where it is used as a position. In an array of up to `2 ^ 62` items no
sum leaves the words and nothing wraps around, whatever the indices are. So the positions are those
of the arithmetic without bounds (`index_eq`, `gap_eq`, `bounds_eq`, `drained_eq`). -/
namespace DocQuery

namespace Word
variable {a b c i size : Int64} {length : Nat}

/-! ### Sums -/

/-- The sum, if it is a word. -/
def add? (a b : Int64) : Option Int64 :=
  if a.toBitVec.saddOverflow b.toBitVec then none else some (a + b)

theorem add?_eq_some_iff : add? a b = some c ↔ c.toInt = a.toInt + b.toInt := by
  unfold add?
  by_cases hover : a.toBitVec.saddOverflow b.toBitVec = true
  · have hsum : ¬ (-2 ^ 63 ≤ a.toInt + b.toInt ∧ a.toInt + b.toInt < 2 ^ 63) := by
      simp [BitVec.saddOverflow] at hover
      omega
    have hlow := c.le_toInt
    have hhigh := c.toInt_lt
    rw [if_pos hover]
    constructor
    · exact nofun
    · omega
  · have hsum : (a + b).toInt = a.toInt + b.toInt := BitVec.toInt_add_of_not_saddOverflow hover
    rw [if_neg hover, Option.some_inj, ← Int64.toInt_inj, hsum, eq_comm]

theorem exists_add? (hlow : -2 ^ 63 ≤ a.toInt + b.toInt) (hhigh : a.toInt + b.toInt < 2 ^ 63) :
    ∃ c, add? a b = some c ∧ c.toInt = a.toInt + b.toInt := by
  have hsum := Int64.toInt_ofInt_of_le hlow hhigh
  exact ⟨.ofInt (a.toInt + b.toInt), add?_eq_some_iff.mpr hsum, hsum⟩

/-! ### Words and positions -/

/-- A number of items as a word. -/
def ofLength (length : Nat) : Int64 := .ofNat length

/-- A word as a position. A negative one wraps around. -/
def position (w : Int64) : Nat := w.toUInt64.toNat

theorem toInt_ofLength (h : length ≤ 2 ^ 62) : (ofLength length).toInt = length :=
  Int64.toInt_ofNat_of_lt (by omega)

theorem position_eq (h : 0 ≤ a.toInt) : position a = a.toInt.toNat :=
  Int64.toNat_toUInt64_of_le (Int64.le_iff_toInt_le.mpr h)

theorem lt_zero_iff : a < 0 ↔ a.toInt < 0 := Int64.lt_iff_toInt_lt

theorem toInt_min (a b : Int64) : (min a b).toInt = min a.toInt b.toInt := by
  show (if a ≤ b then a else b).toInt = _
  by_cases h : a ≤ b
  · rw [if_pos h, Int.min_eq_left (Int64.le_iff_toInt_le.mp h)]
  · have hle : b.toInt ≤ a.toInt := by
      rw [Int64.le_iff_toInt_le] at h
      omega
    rw [if_neg h, Int.min_eq_right hle]

theorem toInt_max (a b : Int64) : (max a b).toInt = max a.toInt b.toInt := by
  show (if a ≤ b then b else a).toInt = _
  by_cases h : a ≤ b
  · rw [if_pos h, Int.max_eq_right (Int64.le_iff_toInt_le.mp h)]
  · have hle : b.toInt ≤ a.toInt := by
      rw [Int64.le_iff_toInt_le] at h
      omega
    rw [if_neg h, Int.max_eq_left hle]

/-! ### Places -/

/-- The place that an index names: one below zero counts from the end of so many items. -/
def resolve (i : Int64) (size? : Option Int64) : Option Int64 :=
  if i < 0 then do add? (← size?) i else some i

/-- An index cut off at both ends. -/
def clamp (i last : Int64) : Option Int64 :=
  if i < 0 then (max · 0) <$> add? last i else some (min i last)

/-- A place, or the one after it. -/
def advance (w : Int64) (moved : Bool) : Option Int64 := if moved then add? w 1 else some w

/-- From the end of some items, an index below zero does not leave the words. -/
theorem exists_add?_of_neg (size : Int64) (hsize : 0 ≤ size.toInt) (hi : i < 0) :
    ∃ w, add? size i = some w ∧ w.toInt = size.toInt + i.toInt := by
  have hneg : i.toInt < 0 := lt_zero_iff.mp hi
  have hlow := i.le_toInt
  have hhigh := size.toInt_lt
  exact exists_add? (by omega) (by omega)

theorem exists_resolve {size? : Option Int64} (hsome : size? = some size)
    (hsize : size.toInt = length) (i : Int64) :
    ∃ w, resolve i size? = some w ∧ w.toInt = Position.resolve i.toInt length := by
  subst hsome
  unfold resolve Position.resolve
  by_cases hi : i < 0
  · have hneg : i.toInt < 0 := lt_zero_iff.mp hi
    obtain ⟨w, hw, hvalue⟩ := exists_add?_of_neg size (by omega) hi
    exact ⟨w, by simp [hi, hw], by rw [if_pos hneg, hvalue, hsize]⟩
  · have hnonneg : ¬ i.toInt < 0 := lt_zero_iff.not.mp hi
    exact ⟨i, if_neg hi, by rw [if_neg hnonneg]⟩

theorem exists_clamp (h : length ≤ 2 ^ 62) (i : Int64) :
    ∃ w, clamp i (ofLength length) = some w ∧ w.toInt = Position.clamp i.toInt length := by
  have hlast := toInt_ofLength h
  rw [Position.clamp_eq]
  unfold clamp Position.place Position.resolve
  by_cases hi : i < 0
  · have hneg : i.toInt < 0 := lt_zero_iff.mp hi
    obtain ⟨w, hw, hvalue⟩ := exists_add?_of_neg (ofLength length) (by omega) hi
    refine ⟨max w 0, by simp [hi, hw], ?_⟩
    rw [toInt_max, if_pos hneg, hvalue, hlast, Int64.toInt_zero]
    omega
  · have hnonneg : ¬ i.toInt < 0 := lt_zero_iff.not.mp hi
    refine ⟨min i (ofLength length), if_neg hi, ?_⟩
    rw [toInt_min, if_neg hnonneg, hlast]
    omega

theorem exists_advance (ha : a.toInt ≤ 2 ^ 62) (moved : Bool) :
    ∃ w, advance a moved = some w ∧ w.toInt = a.toInt + if moved then 1 else 0 := by
  unfold advance
  cases moved with
  | false => exact ⟨a, rfl, by simp⟩
  | true =>
    have hlow := a.le_toInt
    have hone : (1 : Int64).toInt = 1 := rfl
    obtain ⟨w, hw, hvalue⟩ := exists_add? (a := a) (b := 1) (by omega) (by omega)
    exact ⟨w, by simp [hw], by simp [hvalue, hone]⟩

/-! ### Positions -/

/-- The item that an index names. -/
def index (i : Int64) (length : Nat) : Option (Option Nat) := do
  let place ← resolve i (some (ofLength length))
  return if 0 ≤ place ∧ place < ofLength length then some (position place) else none

/-- The gap that an index names: the last one is after all items. -/
def gap (i : Int64) (length : Nat) : Option (Option Nat) := do
  let place ← resolve i (add? (ofLength length) 1)
  return if 0 ≤ place ∧ place ≤ ofLength length then some (position place) else none

/-- The positions from which and up to which a slice reaches. -/
def bounds (length : Nat) (start : Int64) (stop? : Option Int64) (leftClosed rightClosed : Bool) :
    Option (Nat × Nat) := do
  let last := ofLength length
  let start ← clamp start last
  let stop ← stop?.elim (some last) (clamp · last)
  let start ← advance start !leftClosed
  let stop ← advance stop rightClosed
  let stop := position (min stop last)
  return (min (position (min start last)) stop, stop)

/-- The position up to which items are deleted: one item, unless there is an end. -/
def stop (stop? : Option Int64) (start length : Nat) : Option Nat :=
  match stop? with
  | none => position <$> advance (ofLength start) true
  | some stop =>
    if stop < 0 then position <$> clamp stop (ofLength length)
    else some (min (position stop) length)

/-- The positions from which and up to which items are deleted. -/
def drained (i : Int64) (stop? : Option Int64) (length : Nat) : Option (Option (Nat × Nat)) := do
  match ← index i length with
  | none => return none
  | some start => return some (start, ← stop stop? start length)

/-- A place that may lie outside is a position where it does not. -/
theorem found_eq {n : Int} {p q : Prop} [Decidable p] [Decidable q] (hvalue : a.toInt = n)
    (h : p ↔ 0 ≤ n ∧ q) :
    (if p then some (position a) else none) = if 0 ≤ n ∧ q then some n.toNat else none := by
  subst hvalue
  by_cases hp : p
  · have hinside := h.mp hp
    rw [if_pos hp, if_pos hinside, position_eq hinside.1]
  · rw [if_neg hp, if_neg (h.not.mp hp)]

theorem index_eq (h : length ≤ 2 ^ 62) (i : Int64) :
    index i length = some (Position.index i.toInt length) := by
  have hlast := toInt_ofLength h
  obtain ⟨w, hw, hvalue⟩ := exists_resolve rfl hlast i
  unfold index
  rw [hw]
  refine congrArg some (found_eq hvalue ?_)
  simp only [Int64.le_iff_toInt_le, Int64.lt_iff_toInt_lt, Int64.toInt_zero, hvalue, hlast]
  rfl

theorem gap_eq (h : length ≤ 2 ^ 62) (i : Int64) :
    gap i length = some (Position.gap i.toInt length) := by
  have hlast := toInt_ofLength h
  have hone : (1 : Int64).toInt = 1 := rfl
  obtain ⟨size, hsize, hsum⟩ := exists_add? (a := ofLength length) (b := 1) (by omega) (by omega)
  have hlonger : size.toInt = (length + 1 : Nat) := by omega
  obtain ⟨w, hw, hvalue⟩ := exists_resolve hsize hlonger i
  unfold gap
  rw [hw, Position.gap_eq_index]
  refine congrArg some (found_eq hvalue ?_)
  simp only [Int64.le_iff_toInt_le, Int64.toInt_zero, hvalue, hlast]
  unfold Position.resolve
  omega

/-- The position of a word, cut off at the end of the items. -/
theorem position_min (h : length ≤ 2 ^ 62) {n : Nat} (ha : a.toInt = n) :
    position (min a (ofLength length)) = min n length := by
  have hmin : (min a (ofLength length)).toInt = (min n length : Nat) := by
    rw [toInt_min, ha, toInt_ofLength h]
    omega
  rw [position_eq (by omega), hmin, Int.toNat_natCast]

theorem bounds_eq (h : length ≤ 2 ^ 62) (start : Int64) (stop? : Option Int64)
    (leftClosed rightClosed : Bool) :
    bounds length start stop? leftClosed rightClosed =
      some (Position.bounds length start.toInt (stop?.map Int64.toInt) leftClosed rightClosed) := by
  let stopPlace := (stop?.map Int64.toInt).elim length (Position.clamp · length)
  have hplace : stopPlace ≤ length := by
    cases stop? with
    | none => exact Nat.le_refl length
    | some stop => exact Position.clamp_le stop.toInt length
  obtain ⟨first, hfirst, hfirstValue⟩ := exists_clamp h start
  obtain ⟨last, hlast, hlastValue⟩ :
      ∃ w, stop?.elim (some (ofLength length)) (clamp · (ofLength length)) = some w ∧
        w.toInt = stopPlace := by
    cases stop? with
    | none => exact ⟨_, rfl, toInt_ofLength h⟩
    | some stop => exact exists_clamp h stop
  have hfirstLe := Position.clamp_le start.toInt length
  -- The ends are moved by one at most before they are cut off.
  obtain ⟨lower, hlower, hlowerValue⟩ := exists_advance (a := first) (by omega) !leftClosed
  obtain ⟨upper, hupper, hupperValue⟩ := exists_advance (a := last) (by omega) rightClosed
  have hlowerNat : lower.toInt =
      (Position.clamp start.toInt length + if leftClosed then 0 else 1 : Nat) := by
    cases leftClosed <;> simp [hlowerValue, hfirstValue]
  have hupperNat : upper.toInt = (stopPlace + if rightClosed then 1 else 0 : Nat) := by
    cases rightClosed <;> simp [hupperValue, hlastValue]
  unfold bounds
  dsimp only
  rw [hfirst, hlast]
  dsimp only [bind, Option.bind]
  rw [hlower, hupper]
  dsimp only
  rw [position_min h hlowerNat, position_min h hupperNat]
  cases stop? <;> rfl

theorem stop_eq (h : length ≤ 2 ^ 62) (stop? : Option Int64) {start : Nat}
    (hstart : start < length) :
    stop stop? start length =
      some ((stop?.map Int64.toInt).elim (start + 1) (Position.clamp · length)) := by
  cases stop? with
  | none =>
    have hword : (ofLength start).toInt = start := toInt_ofLength (by omega)
    obtain ⟨w, hw, hvalue⟩ := exists_advance (a := ofLength start) (by omega) true
    have hnext : w.toInt = (start + 1 : Nat) := by simp [hvalue, hword]
    show position <$> advance (ofLength start) true = some (start + 1)
    rw [hw, Option.map_eq_map, Option.map_some, position_eq (by omega), hnext, Int.toNat_natCast]
  | some stop =>
    show (if stop < 0 then position <$> clamp stop (ofLength length)
      else some (min (position stop) length)) = some (Position.clamp stop.toInt length)
    by_cases hneg : stop < 0
    · obtain ⟨w, hw, hvalue⟩ := exists_clamp h stop
      rw [if_pos hneg, hw, Option.map_eq_map, Option.map_some, position_eq (by omega), hvalue,
        Int.toNat_natCast]
    · have hnonneg : ¬ stop.toInt < 0 := lt_zero_iff.not.mp hneg
      unfold Position.clamp
      rw [if_neg hneg, if_neg hnonneg, position_eq (by omega)]

theorem drained_eq (h : length ≤ 2 ^ 62) (i : Int64) (stop? : Option Int64) :
    drained i stop? length = some (Position.drained i.toInt (stop?.map Int64.toInt) length) := by
  unfold drained Position.drained
  rw [index_eq h]
  cases hindex : Position.index i.toInt length with
  | none => rfl
  | some start =>
    have hstart : start < length := Position.lt_of_mem_index hindex
    show (stop stop? start length >>= fun last => some (some (start, last))) = _
    rw [stop_eq h stop? hstart]
    rfl

/-! ### Integers that are read -/

/-- What is read for an index is a word, the nearest one for a number that is none. -/
theorem exists_of_asInteger {value : Json} {n : Int} (h : value.asInteger = .ok n) :
    ∃ w : Int64, w.toInt = n := by
  unfold Json.asInteger at h
  obtain ⟨x, -, h⟩ := bind_eq_ok h
  split at h
  · have hn : (max (-2 ^ 63) (min (2 ^ 63 - 1) x.truncated) : Int) = n := Except.ok.inj h
    exact ⟨.ofInt n, Int64.toInt_ofInt_of_le (by omega) (by omega)⟩
  · cases h

end Word

end DocQuery
