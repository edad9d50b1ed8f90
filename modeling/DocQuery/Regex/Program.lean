import DocQuery.Regex.Pattern

/-! Programs of patterns.

A pattern becomes a list of states. A state takes a character, looks at a place, marks a
place, or chooses among other states, of which earlier ones are preferred; then it goes
on to the next state. A pattern is laid out from its end, so that every state knows the
one after it. -/
namespace DocQuery.Regex

inductive State where
  | char (c : Char) (next : Nat)
  | chars (set : Text.CharSet) (next : Nat)
  | look (look : Look) (next : Nat)
  /-- Marks the place in a slot: two for each group, for its start and its end. -/
  | mark (slot : Nat) (next : Nat)
  | choose (states : List Nat)
  | done
  deriving Repr

instance : Inhabited State := ⟨.done⟩

/-- How many states can come after a state without a character in between. -/
def State.followers : State → Nat
  | .choose states => states.length
  | _ => 1

/-- A step that adds states to those so far. -/
abbrev Laying := StateM (Array State)

namespace Laying

/-- Adds a state and gives its number. -/
def add (state : State) : Laying Nat :=
  modifyGet fun states => (states.size, states.push state)

/-- A choice between a body and leaving it. -/
def fork (greedy : Bool) (inside outside : Nat) : State :=
  .choose (if greedy then [inside, outside] else [outside, inside])

/-- Lays out a body that leads back to a choice: to go round again, or to go on. Gives the
choice and the start of the body. -/
def loop (greedy : Bool) (body : Nat → Laying Nat) (next : Nat) : Laying (Nat × Nat) := do
  let number ← add .done
  let inside ← body number
  modify fun states => states.set! number (fork greedy inside next)
  return (number, inside)

/-- A body a number of times. -/
def times (body : Nat → Laying Nat) : (count : Nat) → (next : Nat) → Laying Nat
  | 0, next => return next
  | count + 1, next => do times body count (← body next)

/-- A body at most a number of times, each only after the one before it. -/
def upTo (greedy : Bool) (body : Nat → Laying Nat) (outside : Nat) :
    (count : Nat) → (next : Nat) → Laying Nat
  | 0, next => return next
  | count + 1, next => do
    let inside ← body next
    upTo greedy body outside count (← add (fork greedy inside outside))

/-- Any number of rounds. A body that always takes a character is entered from the choice
that it leads back to; otherwise it is entered from a choice of its own, since a state is
entered once only at each place. -/
def anyTimes (greedy takesSome : Bool) (body : Nat → Laying Nat) (next : Nat) : Laying Nat := do
  let (again, inside) ← loop greedy body next
  if takesSome then return again else add (fork greedy inside next)

/-- A literal, of which the characters are given from the last to the first. -/
def spell : List Char → (next : Nat) → Laying Nat
  | [], next => return next
  | c :: before, next => do spell before (← add (.char c next))

end Laying

open Laying in
mutual

/-- Lays out a pattern before a state, and gives the state in which it starts. -/
def Pattern.lay : Pattern → (next : Nat) → Laying Nat
  | .empty, next => return next
  | .literal text, next => spell text.reverse next
  | .chars set, next => add (.chars set next)
  | .look what, next => add (.look what next)
  | .capture index body, next => do
    let stop ← add (.mark (2 * index + 1) next)
    add (.mark (2 * index) (← lay body stop))
  | .rounds 0 none greedy body, next => anyTimes greedy body.takesSome (lay body) next
  | .rounds (least + 1) none greedy body, next => do
    let (_, inside) ← loop greedy (lay body) next
    times (lay body) least inside
  | .rounds least (some most) greedy body, next => do
    times (lay body) least (← upTo greedy (lay body) next (most - least) next)
  | .sequence items, next => layAll items next
  | .choice branches, next => do add (.choose (← layEach branches next))

/-- One pattern after another. -/
def Pattern.layAll : List Pattern → (next : Nat) → Laying Nat
  | [], next => return next
  | item :: rest, next => do lay item (← layAll rest next)

/-- All patterns side by side. -/
def Pattern.layEach : List Pattern → (next : Nat) → Laying (List Nat)
  | [], _ => return []
  | item :: rest, next => do
    let start ← lay item next
    return start :: (← layEach rest next)

end

/-! ### Programs -/

structure Program where
  states : Array State
  start : Nat
  /-- The number of groups. -/
  groups : Nat
  /-- How many followers all states have. -/
  followers : Nat

/-- The program of a pattern. -/
def Program.ofPattern (pattern : Pattern) : Program :=
  let (start, states) := (do pattern.lay (← Laying.add .done) : Laying Nat).run #[]
  { states, start
    groups := pattern.lastGroup
    followers := states.foldl (fun sum state => sum + state.followers) 0 }

end DocQuery.Regex
