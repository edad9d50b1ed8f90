import DocQuery.Text.Runs

/-! Sets of characters.

A set is a list of ranges of code points in order, with a gap between any two of them.
The code points of surrogates are no characters, so the ranges before and after them
have no gap between them. -/
namespace DocQuery.Text

structure CharSet where
  /-- First and last code points, in order. -/
  ranges : List (Nat × Nat)
  deriving DecidableEq, Repr

namespace CharSet

/-- The greatest code point. -/
def top : Nat := 0x10FFFF

def empty : CharSet := ⟨[]⟩

def all : CharSet := ⟨[(0, top)]⟩

instance : Inhabited CharSet := ⟨empty⟩

def isEmpty (set : CharSet) : Bool := set.ranges.isEmpty

/-- The next character after a code point. -/
def after (code : Nat) : Nat := if code = 0xD7FF then 0xE000 else code + 1

/-- The last character before a code point. -/
def before (code : Nat) : Nat := if code = 0xE000 then 0xD7FF else code - 1

/-! ### Ranges in order -/

/-- A range, and then ranges that do not begin before it, joined where they meet. -/
def joinFrom (low high : Nat) : List (Nat × Nat) → List (Nat × Nat)
  | [] => [(low, high)]
  | (low', high') :: rest =>
    if low' ≤ high + 1 then joinFrom low (max high high') rest
    else (low, high) :: joinFrom low' high' rest

/-- Ranges by their beginnings, joined where they meet. -/
def join : List (Nat × Nat) → CharSet
  | [] => empty
  | (low, high) :: rest => ⟨joinFrom low high rest⟩

/-- The set of ranges in any order. -/
def ofRanges (ranges : List (Nat × Nat)) : CharSet :=
  join (ranges.mergeSort fun a b => a.1 ≤ b.1)

def ofCodes (codes : List Nat) : CharSet := ofRanges (codes.map fun code => (code, code))

def range (low high : Nat) : CharSet := ⟨[(low, high)]⟩

def ofChar (c : Char) : CharSet := range c.toNat c.toNat

/-- The code points of runs with certain codes. -/
def ofRuns (runs : Array Run) (wanted : String → Bool) : CharSet :=
  join ((runs.toList.filter fun run => wanted run.code).map fun run => (run.first, run.last))

/-! ### Operations -/

/-- The code point lies in one of the ranges, which are in order. -/
def covers : List (Nat × Nat) → Nat → Bool
  | [], _ => false
  | (low, high) :: rest, code => low ≤ code && (code ≤ high || covers rest code)

def hasCode (set : CharSet) (code : Nat) : Bool := covers set.ranges code

def has (set : CharSet) (c : Char) : Bool := set.hasCode c.toNat

/-- What lies between ranges, from a code point on. -/
def gaps (first : Nat) : List (Nat × Nat) → List (Nat × Nat)
  | [] => if first ≤ top then [(first, top)] else []
  | (low, high) :: rest =>
    if first < low then (first, before low) :: gaps (after high) rest
    else gaps (after high) rest

def complement (set : CharSet) : CharSet := ⟨gaps 0 set.ranges⟩

def union (a b : CharSet) : CharSet := join (a.ranges.merge b.ranges fun a b => a.1 ≤ b.1)

def intersection (a b : CharSet) : CharSet := (a.complement.union b.complement).complement

def difference (a b : CharSet) : CharSet := (a.complement.union b).complement

/-- What is in one of two sets alone. -/
def symmetric (a b : CharSet) : CharSet := (a.union b).difference (a.intersection b)

/-- There is no character but Latin ones and the controls beside them. -/
def isAscii (set : CharSet) : Bool := set.ranges.all fun range => range.2 < 0x80

/-- The character that is alone in the set. -/
def single? (set : CharSet) : Option Char :=
  match set.ranges with
  | [(low, high)] => if low = high then some (Char.ofNat low) else none
  | _ => none

end CharSet

end DocQuery.Text
