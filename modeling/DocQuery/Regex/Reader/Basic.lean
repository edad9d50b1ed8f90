import DocQuery.Regex.Expr
import DocQuery.Text.Blank

/-! Walking over the text of a pattern.

A pattern is read once, from left to right. Of the flags only one changes how it is read:
in spaced patterns blanks and comments are skipped. -/
namespace DocQuery.Regex

structure Reader where
  rest : List Char
  place : Nat := 0
  spaced : Bool := false
  /-- How many groups that capture were opened. -/
  groups : Nat := 0
  /-- The names of groups and where they stand. -/
  names : List (String × Span) := []

abbrev Reading := StateT Reader (Except Fault)

namespace Reading

def fail {α : Type} (reason : Reason) (start stop : Nat) : Reading α :=
  throw (.invalid reason [⟨start, stop⟩])

def place : Reading Nat := return (← get).place

def peek? : Reading (Option Char) := return (← get).rest.head?

def atEnd : Reading Bool := return (← get).rest.isEmpty

/-- Fails at the next character. -/
def failHere {α : Type} (reason : Reason) : Reading α := do
  let here ← place
  fail reason here (here + 1)

/-! ### Characters -/

/-- Steps over the next character. -/
def advance : Reading Unit :=
  modify fun r =>
    match r.rest with
    | [] => r
    | _ :: rest => { r with rest, place := r.place + 1 }

/-- Steps over some characters. -/
def skip : (count : Nat) → Reading Unit
  | 0 => return
  | count + 1 => do
    advance
    skip count

/-- Takes the given characters if they come next. -/
def takes (wanted : String) : Reading Bool := do
  if wanted.toList.isPrefixOf (← get).rest then
    skip wanted.length
    return true
  else return false

/-- Steps over characters that pass. -/
def skipWhile (passes : Char → Bool) : Reading Unit :=
  modify fun r =>
    let (rest, place) := past r.rest r.place
    { r with rest, place }
where
  past : List Char → (place : Nat) → List Char × Nat
    | [], place => ([], place)
    | c :: rest, place => if passes c then past rest (place + 1) else (c :: rest, place)

/-! ### What may be skipped -/

/-- A text after the blanks and comments that come first, and its place. -/
def pastBlanks : (comment : Bool) → List Char → (place : Nat) → List Char × Nat
  | _, [], place => ([], place)
  | true, c :: rest, place => pastBlanks (c != '\n') rest (place + 1)
  | false, c :: rest, place =>
    if Text.isBlank c then pastBlanks false rest (place + 1)
    else if c = '#' then pastBlanks true rest (place + 1)
    else (c :: rest, place)

/-- Skips blanks and comments in a spaced pattern. -/
def skipBlanks : Reading Unit :=
  modify fun r =>
    if r.spaced then
      let (rest, place) := pastBlanks false r.rest r.place
      { r with rest, place }
    else r

/-- Takes a character and what may be skipped after it, and looks at the next one. -/
def next? : Reading (Option Char) := do
  advance
  skipBlanks
  peek?

/-- A run of characters that pass, with their places, and the text after it. In a spaced
pattern blanks and comments do not break it. -/
def runFrom (spaced : Bool) (passes : Char → Bool) : (comment : Bool) →
    (taken : List (Char × Nat)) → List Char → (place : Nat) → List (Char × Nat) × List Char × Nat
  | _, taken, [], place => (taken.reverse, [], place)
  | true, taken, c :: rest, place => runFrom spaced passes (c != '\n') taken rest (place + 1)
  | false, taken, c :: rest, place =>
    if spaced && Text.isBlank c then runFrom spaced passes false taken rest (place + 1)
    else if spaced && c = '#' then runFrom spaced passes true taken rest (place + 1)
    else if passes c then runFrom spaced passes false ((c, place) :: taken) rest (place + 1)
    else (taken.reverse, c :: rest, place)

/-- Takes the characters that pass, and what may be skipped before and after each. -/
def takeRun (passes : Char → Bool) : Reading (List (Char × Nat)) :=
  modifyGet fun r =>
    let (taken, rest, place) := runFrom r.spaced passes false [] r.rest r.place
    (taken, { r with rest, place })

/-- The character that decides whether a hyphen before it stands for itself. In a spaced
pattern blanks and the first number sign are passed over, if anything comes after them. -/
def afterHyphen? (spaced : Bool) (text : List Char) : Option Char :=
  if spaced then (find false text).or text.head? else text.head?
where
  find : (signed : Bool) → List Char → Option Char
    | _, [] => none
    | signed, c :: rest =>
      if Text.isBlank c then find signed rest
      else if c = '#' && !signed then find true rest
      else some c

end Reading

end DocQuery.Regex
