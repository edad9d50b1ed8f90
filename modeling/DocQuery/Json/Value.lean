import DocQuery.Number.Binary64

/-! JSON values.

A number is an integer or a real: `1` and `1.0` are different values, although they
are the same binary64 number. The fields of an object are kept in ascending order of
their keys, each key once; `Fields.insert` and `Fields.remove` keep that order.

Two equalities are used. Structural equality tells the two zeros apart; `Json.same`
does not, and is otherwise the same. -/
namespace DocQuery

inductive Number where
  | integer (n : Int)
  | real (x : Binary64)
  deriving DecidableEq

namespace Number

/-- The binary64 view, which arithmetic and comparison use. -/
def toBinary64 : Number → Binary64
  | .integer n => .ofInt n
  | .real x => x

def toExtended (n : Number) : Extended := .finite n.toBinary64

/-- An integer that fits in 64 bits without a sign. -/
def natural? : Number → Option Nat
  | .integer n => if 0 ≤ n ∧ n < 2 ^ 64 then some n.toNat else none
  | .real _ => none

/-- An integer that fits in 64 bits with a sign. -/
def int64? : Number → Option Int
  | .integer n => if -2 ^ 63 ≤ n ∧ n < 2 ^ 63 then some n else none
  | .real _ => none

/-- Equality within one kind of number. -/
def same : Number → Number → Bool
  | .integer m, .integer n => m == n
  | .real x, .real y => x.toInt == y.toInt
  | _, _ => false

end Number

inductive Json where
  | null
  | bool (b : Bool)
  | number (n : Number)
  | string (s : String)
  | array (items : List Json)
  | object (fields : List (String × Json))

instance : Inhabited Json := ⟨.null⟩

/-! ### Equality -/

namespace Json

mutual

def decEq : (a b : Json) → Decidable (a = b)
  | .null, .null => isTrue rfl
  | .bool a, .bool b => decidable_of_iff (a = b) (by simp)
  | .number a, .number b => decidable_of_iff (a = b) (by simp)
  | .string a, .string b => decidable_of_iff (a = b) (by simp)
  | .array a, .array b => @decidable_of_iff _ (a = b) (by simp) (decEqItems a b)
  | .object a, .object b => @decidable_of_iff _ (a = b) (by simp) (decEqFields a b)
  | .null, .bool _ | .null, .number _ | .null, .string _ | .null, .array _ | .null, .object _
  | .bool _, .null | .bool _, .number _ | .bool _, .string _ | .bool _, .array _
  | .bool _, .object _ | .number _, .null | .number _, .bool _ | .number _, .string _
  | .number _, .array _ | .number _, .object _ | .string _, .null | .string _, .bool _
  | .string _, .number _ | .string _, .array _ | .string _, .object _ | .array _, .null
  | .array _, .bool _ | .array _, .number _ | .array _, .string _ | .array _, .object _
  | .object _, .null | .object _, .bool _ | .object _, .number _ | .object _, .string _
  | .object _, .array _ => isFalse (by simp)

def decEqItems : (a b : List Json) → Decidable (a = b)
  | [], [] => isTrue rfl
  | a :: as, b :: bs =>
    @decidable_of_iff _ (a = b ∧ as = bs) (by simp)
      (@instDecidableAnd _ _ (decEq a b) (decEqItems as bs))
  | [], _ :: _ | _ :: _, [] => isFalse (by simp)

def decEqFields : (a b : List (String × Json)) → Decidable (a = b)
  | [], [] => isTrue rfl
  | (j, a) :: as, (k, b) :: bs =>
    @decidable_of_iff _ (j = k ∧ a = b ∧ as = bs) (by simp [and_assoc])
      (@instDecidableAnd _ _ inferInstance
        (@instDecidableAnd _ _ (decEq a b) (decEqFields as bs)))
  | [], _ :: _ | _ :: _, [] => isFalse (by simp)

end

instance : DecidableEq Json := Json.decEq

mutual

/-- Equality that does not tell the two zeros apart. -/
def same : Json → Json → Bool
  | .null, .null => true
  | .bool a, .bool b => a == b
  | .number a, .number b => a.same b
  | .string a, .string b => a == b
  | .array a, .array b => sameItems a b
  | .object a, .object b => sameFields a b
  | _, _ => false

def sameItems : List Json → List Json → Bool
  | [], [] => true
  | a :: as, b :: bs => a.same b && sameItems as bs
  | _, _ => false

def sameFields : List (String × Json) → List (String × Json) → Bool
  | [], [] => true
  | (j, a) :: as, (k, b) :: bs => j == k && a.same b && sameFields as bs
  | _, _ => false

end

end Json

/-! ### Fields in order of their keys -/

/-- Named values in ascending order of their names. -/
abbrev Fields (α : Type) := List (String × α)

namespace Fields
variable {α : Type}

def get? (fields : Fields α) (key : String) : Option α := fields.lookup key

def has (fields : Fields α) (key : String) : Bool := (fields.get? key).isSome

/-- Adds a field at its place, or replaces the one of that key. -/
def insert (fields : Fields α) (key : String) (value : α) : Fields α :=
  match fields with
  | [] => [(key, value)]
  | (k, v) :: rest =>
    if key < k then (key, value) :: (k, v) :: rest
    else if key = k then (key, value) :: rest
    else (k, v) :: insert rest key value

def remove (fields : Fields α) (key : String) : Fields α :=
  fields.filter fun field => field.1 != key

/-- Fields in any order, a later one replacing an earlier one of its key. -/
def ofList (entries : List (String × α)) : Fields α :=
  entries.foldl (fun fields entry => fields.insert entry.1 entry.2) []

end Fields

namespace Json

/-! ### Views -/

/-- An integer literal. -/
def ofNat (n : Nat) : Json := .number (.integer n)

def ofInt (n : Int) : Json := .number (.integer n)

/-- An object from fields in any order. -/
def ofFields (entries : List (String × Json)) : Json := .object (Fields.ofList entries)

/-- The field of an object; nothing else has fields. -/
def field? (value : Json) (key : String) : Option Json :=
  match value with
  | .object fields => Fields.get? fields key
  | _ => none

def string? : Json → Option String
  | .string s => some s
  | _ => none

def array? : Json → Option (List Json)
  | .array items => some items
  | _ => none

def number? : Json → Option Number
  | .number n => some n
  | _ => none

/-- The value as an integer of 64 bits without a sign. -/
def natural? : Json → Option Nat
  | .number n => n.natural?
  | _ => none

def isObject : Json → Bool
  | .object _ => true
  | _ => false

def isNull : Json → Bool
  | .null => true
  | _ => false

end Json

end DocQuery
