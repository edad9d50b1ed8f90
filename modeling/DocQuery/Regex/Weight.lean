import DocQuery.Regex.LiteralTree
import DocQuery.Regex.Pattern

/-! Patterns that are too large.

A pattern is searched forward, and its ends are looked for backward, so there are two
automata over bytes that must not be too large. Only the one that reads forward marks what
groups take. -/
namespace DocQuery.Regex.Pattern

/-! ### Patterns read backward -/

mutual

/-- The pattern of the same texts, read backward. -/
def mirrored : Pattern → Pattern
  | .literal text => .literal text.reverse
  | .capture index body => .capture index (mirrored body)
  | .rounds least most greedy body => .rounds least most greedy (mirrored body)
  | .sequence items => .sequence (mirroredAll [] items)
  | .choice branches => .choice (mirroredAll [] branches).reverse
  | .empty => .empty
  | .chars set => .chars set
  | .look what => .look what

/-- Items read backward, the last one first, and then others. -/
def mirroredAll (others : List Pattern) : List Pattern → List Pattern
  | [] => others
  | item :: rest => mirroredAll (mirrored item :: others) rest

end

mutual

/-- The pattern only matches where a look holds at its start. -/
def opensWith (what : Look) : Pattern → Bool
  | .look other => other == what
  | .capture _ body => opensWith what body
  | .rounds least _ _ body => least != 0 && opensWith what body
  | .sequence items => someOpensWith what items
  | .choice branches => allOpenWith what branches
  | .empty | .literal _ | .chars _ => false

/-- One of the items up to the first that can take a character is such a pattern. -/
def someOpensWith (what : Look) : List Pattern → Bool
  | [] => false
  | item :: rest => opensWith what item || (item.onlyEmpty && someOpensWith what rest)

def allOpenWith (what : Look) : List Pattern → Bool
  | [] => true
  | branch :: rest => opensWith what branch && allOpenWith what rest

end

/-! ### Counting states -/

/-- The bytes of a literal in the order in which they are read. -/
def literalBytes (backward : Bool) (text : List Char) : List Nat :=
  text.flatMap fun c =>
    let bytes := Text.ByteRange.encode c.toNat
    if backward then bytes.reverse else bytes

def literal? : Pattern → Option (List Char)
  | .literal text => some text
  | _ => none

/-- Adds the states of rounds, given the step that adds those of the body. -/
def tallyRounds (least : Nat) (most : Option Nat) (takesSome : Bool) (body : Ledger → Ledger)
    (l : Ledger) : Ledger :=
  match least, most with
  | 0, some 1 => (body (l.addFork 2)).add 1
  | 0, none =>
    if takesSome then body (l.addFork 2) else (((body l).addFork 2).addFork 2).add 1
  | least + 1, none => (body (l.times body least)).addFork 2
  | least, some most =>
    let l := if least = 0 then l.add 1 else l.times body least
    if least = most then l
    else (l.add 1).times (fun l => body (l.addFork 2)) (most - least)

mutual

/-- Adds the states of a pattern, which has been mirrored if it is read backward. -/
def tally (backward : Bool) : Pattern → Ledger → Ledger
  | .empty, l => l.add 1
  | .look _, l => l.add 1
  | .literal text, l => l.add (literalBytes backward text).length
  | .chars set, l => l.addSet backward set
  | .capture _ body, l =>
    if backward then tally backward body l else (tally backward body (l.add 1)).add 1
  | .rounds least most _ body, l =>
    tallyRounds least most body.takesSome (tally backward body) l
  | .sequence items, l => tallyAll backward items l
  | .choice branches, l =>
    match branches.mapM literal? with
    | some literals =>
      (LiteralTree.ofLiterals (literals.map (literalBytes backward))).tally (l.add 1)
    | none => tallyBranches backward branches l

def tallyAll (backward : Bool) : List Pattern → Ledger → Ledger
  | [], l => l
  | item :: rest, l => tallyAll backward rest (tally backward item l)

/-- Adds the states of branches, and one before and one after all of them. -/
def tallyBranches (backward : Bool) : List Pattern → Ledger → Ledger
  | first :: second :: rest, l =>
    let l := tally backward second (tally backward first l)
    tallyAll backward rest ((l.addFork (rest.length + 2)).add 1)
  | branches, l => tallyAll backward branches l

end

/-- Adds states that skip text before the pattern, unless it only matches at an end. -/
def addSkip (anchored : Bool) (l : Ledger) : Ledger :=
  if anchored then l.add 1 else ((l.addFork 2).add 1).addRanges 1

/-- The ledger of the automaton that reads forward. -/
def forwardLedger (p : Pattern) : Ledger :=
  let l := addSkip (p.opensWith .textStart) (.ofSlots 10000)
  (tally false p (l.add 1)).add 2

/-- The ledger of the automaton that reads backward. -/
def backwardLedger (p : Pattern) : Ledger :=
  let p := p.mirrored
  let l := addSkip (p.opensWith .textEnd) (.ofSlots 1000)
  (tally true p l).add 1

/-- The pattern is too large to be searched for. -/
def tooLarge (p : Pattern) : Bool := p.forwardLedger.tooLarge || p.backwardLedger.tooLarge

end DocQuery.Regex.Pattern
