import DocQuery.Value.Order

/-! Positions in arrays, and arrays as sets.

An index below zero counts from the end. `index` finds the item that an index names,
`gap` the place between items where one can be put in, and `bounds` the stretch
between two indices. The set operations sort their results and leave out repeats. -/
namespace DocQuery

namespace Position

/-- The item that an index names. -/
def index (i : Int) (length : Nat) : Option Nat :=
  let resolved := if i < 0 then length + i else i
  if 0 ≤ resolved ∧ resolved < length then some resolved.toNat else none

/-- The gap that an index names: the last one is after all items. -/
def gap (i : Int) (length : Nat) : Option Nat :=
  let resolved := if i < 0 then length + 1 + i else i
  if 0 ≤ resolved ∧ resolved ≤ length then some resolved.toNat else none

/-- An index cut off at both ends of the items. -/
def clamp (i : Int) (length : Nat) : Nat :=
  if i < 0 then (length + i).toNat else min i.toNat length

/-- The positions from which and up to which a slice reaches. An open left end leaves
out the first item, a closed right end takes in the one at the end. -/
def bounds (length : Nat) (start : Int) (stop : Option Int) (leftClosed rightClosed : Bool) :
    Nat × Nat :=
  let start := clamp start length + if leftClosed then 0 else 1
  let stop := (match stop with
    | some stop => clamp stop length
    | none => length) + if rightClosed then 1 else 0
  let stop := min stop length
  (min (min start length) stop, stop)

/-- The items from one position up to another. -/
def stretch {α : Type} (items : List α) (range : Nat × Nat) : List α :=
  (items.take range.2).drop range.1

end Position

namespace Json

/-! ### Items by position -/

def itemAt (items : List Json) (i : Int) : Except Fault Json :=
  match (Position.index i items.length).bind (items[·]?) with
  | some item => .ok item
  | none => .error .noIndex

/-- The position of an item that has to be there. -/
def indexIn (items : List Json) (i : Int) : Except Fault Nat :=
  match Position.index i items.length with
  | some position => .ok position
  | none => .error (.outOfBounds i items.length)

/-- The position of a gap that has to be there. -/
def gapIn (items : List Json) (i : Int) : Except Fault Nat :=
  match Position.gap i items.length with
  | some position => .ok position
  | none => .error (.outOfBounds i items.length)

/-- The items with others put in at a gap. -/
def splicedAt (items : List Json) (gap : Nat) (others : List Json) : List Json :=
  items.take gap ++ others ++ items.drop gap

/-- The items with one of them replaced. -/
def changedAt (items : List Json) (position : Nat) (item : Json) : List Json :=
  items.set position item

/-- The items without those from a position to another; none if they are not in order. -/
def deletedAt (items : List Json) (start stop : Nat) : List Json :=
  if start < stop then items.take start ++ items.drop stop else items

/-! ### Arrays as sets -/

def difference (items others : List Json) : List Json :=
  items.filter fun item => !contains others item

def setInsert (items : List Json) (item : Json) : List Json := distinct (items ++ [item])

def setUnion (items others : List Json) : List Json := distinct (items ++ others)

def setIntersection (items others : List Json) : List Json :=
  distinct (items.filter (contains others))

def setDifference (items others : List Json) : List Json := distinct (difference items others)

end Json

end DocQuery
