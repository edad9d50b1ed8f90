import DocQuery.Time.Value

/-! The order of values.

Values of different kinds are ordered by the kind (`rank`). Numbers compare as
binary64, times by their seconds, arrays and objects item by item with the shorter one
first. Two times of which one has no seconds are not told apart.

Sorting is stable. `distinct` sorts and keeps the first of neighbours that are
equal. -/
namespace DocQuery
namespace Json

/-! ### Comparison -/

def rank : Json → Nat
  | .array _ => 0
  | .bool _ => 1
  | .null => 2
  | .number _ => 3
  | .object fields => if (Json.object fields).isTime then 5 else 4
  | .string _ => 6

def orderOfTimes (a b : Json) : Ordering :=
  match Time.epoch? a, Time.epoch? b with
  | some x, some y => x.order y
  | _, _ => .eq

mutual

def order : Json → Json → Ordering
  | .number a, .number b => a.toBinary64.order b.toBinary64
  | .string a, .string b => compare a b
  | .bool a, .bool b => compare a b
  | .array a, .array b => orderItems a b
  | .object a, .object b =>
    if (Json.object a).isTime && (Json.object b).isTime then
      orderOfTimes (.object a) (.object b)
    else orderFields a b
  | a, b => compare a.rank b.rank

def orderItems : List Json → List Json → Ordering
  | [], [] => .eq
  | [], _ :: _ => .lt
  | _ :: _, [] => .gt
  | a :: as, b :: bs => (order a b).then (orderItems as bs)

def orderFields : List (String × Json) → List (String × Json) → Ordering
  | [], [] => .eq
  | [], _ :: _ => .lt
  | _ :: _, [] => .gt
  | (j, a) :: as, (k, b) :: bs => (compare j k).then ((order a b).then (orderFields as bs))

end

/-- Equality by the order. Integers and reals of one value are equal. -/
def equals (a b : Json) : Bool := order a b == .eq && a.rank == b.rank

def contains (values : List Json) (wanted : Json) : Bool := values.any fun v => equals v wanted

/-- Every field of an object pattern matches the row's field of that key; anything else
matches what equals it. A tagged object is no pattern. -/
def isPattern (fields : Fields Json) : Bool := !fields.has tagKey

mutual

def matchesPattern (row : Json) : Json → Bool
  | .object pattern =>
    match row with
    | .object fields =>
      if isPattern pattern then matchesFields fields pattern else equals row (.object pattern)
    | _ => equals row (.object pattern)
  | pattern => equals row pattern

def matchesFields (row : Fields Json) : List (String × Json) → Bool
  | [] => true
  | (key, wanted) :: rest =>
    (match row.get? key with
      | some found => matchesPattern found wanted
      | none => false) && matchesFields row rest

end

end Json

/-! ### Sorting -/

namespace Sorting
variable {α : Type}

/-- Puts an item into a list sorted downward, before the items that are not above it. -/
def place (cmp : α → α → Ordering) (item : α) : List α → List α
  | [] => [item]
  | last :: rest =>
    if cmp item last == .lt then last :: place cmp item rest else item :: last :: rest

/-- Insertion from the left, each item moving down past those above it. -/
def insertion (cmp : α → α → Ordering) (items : List α) : List α :=
  (items.foldl (fun sorted item => place cmp item sorted) []).reverse

/-- A stable sort: short lists by insertion, long ones by merging. The two give the
same list whenever the comparison is a total preorder. -/
def stable (cmp : α → α → Ordering) (items : List α) : List α :=
  if items.length ≤ 20 then insertion cmp items
  else items.mergeSort fun a b => cmp a b != .gt

/-- Leaves out each item that equals the last one kept. -/
def dropRepeatsAfter (same : α → α → Bool) (last : α) : List α → List α
  | [] => []
  | item :: rest =>
    if same item last then dropRepeatsAfter same last rest
    else item :: dropRepeatsAfter same item rest

def dropRepeats (same : α → α → Bool) : List α → List α
  | [] => []
  | item :: rest => item :: dropRepeatsAfter same item rest

end Sorting

/-- The values in order, each once. -/
def Json.distinct (values : List Json) : List Json :=
  Sorting.dropRepeats equals (Sorting.stable order values)

end DocQuery
