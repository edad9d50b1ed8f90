import DocQuery.Regex.Program

/-! Searching text for a pattern.

All ways in which a pattern can match are followed at once, as threads through its
program, in the order of preference. At every place each state is entered once at most,
by the first thread that reaches it. A thread that is done ends all that come after it,
and what it marked is the best match so far. -/
namespace DocQuery.Regex

/-- The places that a thread has marked, by slot. -/
abbrev Marks := Array (Option Nat)

/-- A state that takes a character, or that is done, and the marks on the way to it. -/
structure Thread where
  state : Nat
  marks : Marks

/-- A place in a text and the characters around it. -/
structure Place where
  index : Nat
  before : Option Char
  after : Option Char

/-- Threads at one place, of which the last was entered first. -/
structure Front where
  threads : List Thread := []
  /-- For each state how many characters came before the last place at which it was
  entered, and one more; zero if it was never entered. -/
  entered : Array Nat

namespace Search

/-- Follows states that take no character, from those on the stack in their order. Every
state puts its followers on the stack once at most, so their number bounds the steps. -/
def follow (program : Program) (place : Place) :
    (fuel : Nat) → (stack : List Thread) → Front → Front
  | 0, _, front => front
  | _ + 1, [], front => front
  | fuel + 1, thread :: stack, front =>
    if front.entered[thread.state]?.all (· == place.index + 1) then
      follow program place fuel stack front
    else
      let front := { front with entered := front.entered.set! thread.state (place.index + 1) }
      match program.states[thread.state]?.getD .done with
      | .char _ _ | .chars _ _ | .done =>
        follow program place fuel stack { front with threads := thread :: front.threads }
      | .look look next =>
        if look.holds place.before place.after then
          follow program place fuel (⟨next, thread.marks⟩ :: stack) front
        else follow program place fuel stack front
      | .mark slot next =>
        follow program place fuel
          (⟨next, thread.marks.set! slot (some place.index)⟩ :: stack) front
      | .choose states =>
        follow program place fuel
          (states.map (fun state => Thread.mk state thread.marks) ++ stack) front

def enter (program : Program) (place : Place) (thread : Thread) (front : Front) : Front :=
  follow program place (program.followers + 2) [thread] front

/-- Takes a character with each thread in turn, down to the first one that is done. Gives
the marks of that one and the front at the next place. -/
def step (program : Program) (c : Option Char) (place : Place) :
    List Thread → Front → Option Marks × Front
  | [], front => (none, front)
  | thread :: rest, front =>
    let take (passes : Char → Bool) (next : Nat) : Front :=
      if c.any passes then enter program place ⟨next, thread.marks⟩ front else front
    match program.states[thread.state]?.getD .done with
    | .done => (some thread.marks, front)
    | .char wanted next => step program c place rest (take (· == wanted) next)
    | .chars set next => step program c place rest (take set.has next)
    | _ => step program c place rest front

/-- A thread at the start of the program that has only marked the place. -/
def fresh (program : Program) (index : Nat) : Thread :=
  ⟨program.start, (Array.replicate (2 * program.groups + 2) none).set! 0 (some index)⟩

/-- Marks the end of the whole match. -/
def ended (index : Nat) (marks : Marks) : Marks := marks.set! 1 (some index)

/-- Goes on from a place. As long as nothing was found, the pattern may also start at the
place, which is the least preferred way. -/
def scan (program : Program) (index : Nat) (before : Option Char) (found : Option Marks)
    (front : Front) : List Char → Option Marks
  | [] =>
    let place : Place := ⟨index, before, none⟩
    let front := begun place found front
    let (marks, _) := step program none place front.threads.reverse { front with threads := [] }
    (marks.map (ended index)) <|> found
  | c :: rest =>
    let front := begun ⟨index, before, some c⟩ found front
    let (marks, next) := step program (some c) ⟨index + 1, some c, rest.head?⟩
      front.threads.reverse { front with threads := [] }
    let found := (marks.map (ended index)) <|> found
    if found.isSome && next.threads.isEmpty then found
    else scan program (index + 1) (some c) found next rest
where
  begun (place : Place) (found : Option Marks) (front : Front) : Front :=
    if found.isSome then front else enter program place (fresh program place.index) front

/-- The marks of the first match in a text, and of those the preferred one. -/
def first (program : Program) (text : List Char) : Option Marks :=
  scan program 0 none none { entered := Array.replicate program.states.size 0 } text

end Search

end DocQuery.Regex
