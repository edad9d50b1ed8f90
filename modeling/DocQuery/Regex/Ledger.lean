import DocQuery.Text.ByteRanges

/-! The states of an automaton over bytes.

A pattern may only be used if the automaton that it stands for is not too large. The
automaton itself is not built; a ledger counts its states and what they take. A state
takes a fixed number of bytes, and more for each of its ways to other states if they can
be many. States of sets that lead the same ways are shared as far as a table of limited
size remembers them. -/
namespace DocQuery.Regex

open Text (ByteRange CharSet)

structure Ledger where
  /-- The number of states; a state goes by the number of those before it. -/
  states : Nat := 0
  /-- What the ways of states take. -/
  ways : Nat := 0
  /-- The states that are remembered, by what tells them apart. -/
  remembered : Array (List Nat × Nat)

namespace Ledger

/-- How many bytes a state takes. -/
def stateSize : Nat := 32

/-- How many bytes a way takes that is open to some bytes of the text, and one that is
always open. -/
def byteWay : Nat := 8

def freeWay : Nat := 4

/-- How many bytes an automaton may take. -/
def sizeLimit : Nat := 10485760

def ofSlots (slots : Nat) : Ledger := { remembered := Array.replicate slots ([], 0) }

def tooLarge (l : Ledger) : Bool := sizeLimit < stateSize * l.states + l.ways

/-! ### States -/

/-- Adds states with one way each. -/
def add (count : Nat) (l : Ledger) : Ledger := { l with states := l.states + count }

/-- Adds a state with some ways that are always open. -/
def addFork (ways : Nat) (l : Ledger) : Ledger :=
  { l with states := l.states + 1, ways := l.ways + freeWay * ways }

/-- Adds a state with some ways that are open to ranges of bytes. -/
def addRanges (ways : Nat) (l : Ledger) : Ledger :=
  { l with states := l.states + 1, ways := l.ways + byteWay * ways }

/-- Does a step a number of times, or until the automaton is too large. -/
def times (step : Ledger → Ledger) : (count : Nat) → Ledger → Ledger
  | 0, l => l
  | count + 1, l => if l.tooLarge then l else times step count (step l)

/-! ### Shared states -/

/-- Spreads keys over the slots of a table. -/
def spread (key : List Nat) : UInt64 :=
  key.foldl (fun hash part => (hash ^^^ part.toUInt64) * 1099511628211) 14695981039346656037

/-- The state that is remembered for a key, or else a new one, which takes the place of
another that was remembered in the same slot. -/
def share (key : List Nat) (ways : Nat) (l : Ledger) : Nat × Ledger :=
  let slot := (spread key).toNat % l.remembered.size
  let known := l.remembered[slot]?.getD ([], 0)
  if known.1 == key then (known.2, l)
  else
    let state := l.states
    (state, { l with
      states := state + 1
      ways := l.ways + byteWay * ways
      remembered := l.remembered.set! slot (key, state) })

/-- Adds states for sequences of byte ranges that end in a given state. Sequences that begin
alike share their first state. `depth` is greater than the length of any sequence. -/
def addTree (last : Nat) : (depth : Nat) → List (List ByteRange) → StateM Ledger Nat
  | 0, _ => return last
  | depth + 1, sequences => do
    if sequences.any List.isEmpty then return last
    let groups := sequences.splitBy fun a b => a.head? == b.head?
    let ways ← groups.mapM fun group => do
      let next ← addTree last depth (group.map List.tail)
      let range := (group.head?.bind List.head?).getD (0, 0)
      return [range.1, range.2, next]
    modifyGet (share ways.flatten ways.length)

/-- Adds states for one sequence of byte ranges after another, each of which is read from
its last range to its first. -/
def addBackward (last : Nat) : List (List ByteRange) → Ledger → Ledger
  | [], l => l
  | ranges :: rest, l =>
    let step (found : Nat × Ledger) (range : ByteRange) : Nat × Ledger :=
      share [found.1, range.1, range.2] 0 found.2
    addBackward last rest (ranges.foldl step (last, l)).2

/-- Adds the states of a set. -/
def addSet (backward : Bool) (set : CharSet) (l : Ledger) : Ledger :=
  if set.isAscii then (l.add 1).addRanges set.ranges.length
  else if backward then
    let sequences := set.byteRanges
    addBackward (l.states + 1) sequences ((l.addFork sequences.length).add 1)
  else (addTree l.states 5 set.byteRanges (l.add 1)).2

end Ledger

end DocQuery.Regex
