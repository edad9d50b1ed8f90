import DocQuery.Regex.Reader.Bracket
import DocQuery.Regex.Reader.Group
import DocQuery.Regex.Reader.Repetition

/-! Reading patterns.

The groups that are open at a place are kept in a list, the innermost first. Every step
takes at least one character, so the length of the text bounds all of them. -/
namespace DocQuery.Regex

namespace Reading

/-- A group that is open, or the whole pattern. -/
structure Level where
  /-- Where the parenthesis stands, and whether the pattern was spaced before it; none for
  the whole pattern. -/
  group : Option (Nat × GroupKind × Bool) := none
  /-- Where the first branch begins, and the one that is being read. -/
  first : Nat
  start : Nat
  /-- The branches before, and the items of the one that is being read, the last first. -/
  branches : List Expr := []
  items : List Expr := []

namespace Level

def add (item : Expr) (level : Level) : Level := { level with items := item :: level.items }

/-- The branch that is being read, if it ends at a place. -/
def branch (level : Level) (stop : Nat) : Expr :=
  .ofItems ⟨level.start, stop⟩ level.items.reverse

/-- The body that was read, if it ends at a place. -/
def body (level : Level) (stop : Nat) : Expr :=
  match level.branches with
  | [] => level.branch stop
  | branches => .alternation ⟨level.first, stop⟩ (level.branch stop :: branches).reverse

/-- A bar before a place, after which a new branch begins. -/
def split (level : Level) (start : Nat) : Level :=
  { level with start, branches := level.branch (start - 1) :: level.branches, items := [] }

end Level

/-- A pattern of one character of the text, or of one escape. -/
def primitive : Reading Expr := do
  let start ← place
  let single (atom : Atom) : Reading Expr := do
    advance
    return .atom ⟨start, start + 1⟩ atom
  match ← peek? with
  | some '\\' =>
    let (span, atom) ← escape
    return .atom span atom
  | some '.' => single .dot
  | some '^' => single (.assertion .lineStart)
  | some '$' => single (.assertion .lineEnd)
  | c => single (.literal ⟨c.getD default, false⟩)

/-- What a parenthesis opens: a level of its own, or flags for the one that is open. -/
def openGroup (level : Level) (outer : List Level) : Reading (Level × List Level) := do
  let start ← place
  let spaced := (← get).spaced
  let obey (changes : FlagChanges) : Reading Unit :=
    modify fun r => { r with spaced := (changes.on? .spaced).getD spaced }
  match ← opening with
  | .flags changes =>
    obey changes
    return (level.add (.flags ⟨start, ← place⟩ changes), outer)
  | .group kind =>
    if let .flagged changes := kind then obey changes
    let first ← place
    return ({ group := some (start, kind, spaced), first, start := first }, level :: outer)

/-- Closes the innermost group; the parenthesis comes next. -/
def closeGroup (level : Level) (outer : List Level) : Reading (Level × List Level) := do
  match level.group, outer with
  | some (start, kind, spaced), parent :: outer =>
    let body := level.body (← place)
    advance
    modify fun r => { r with spaced }
    return (parent.add (.group ⟨start, ← place⟩ kind body), outer)
  | _, _ => failHere .groupUnopened

/-- The rest of a pattern. -/
def expression : (fuel : Nat) → (level : Level) → (outer : List Level) → Reading Expr
  | 0, level, _ => return level.body (← place)
  | fuel + 1, level, outer => do
    skipBlanks
    match ← peek? with
    | none =>
      match level.group with
      | some (start, _) => fail .groupUnclosed start (start + 1)
      | none => return level.body (← place)
    | some '(' =>
      let (level, outer) ← openGroup level outer
      expression fuel level outer
    | some ')' =>
      let (level, outer) ← closeGroup level outer
      expression fuel level outer
    | some '|' =>
      advance
      expression fuel (level.split (← place)) outer
    | some '[' =>
      let set ← bracketed fuel
      expression fuel (level.add set) outer
    | some '\x7b' =>
      let items ← counted level.items
      expression fuel { level with items } outer
    | some c =>
      if c == '?' || c == '*' || c == '+' then
        let items ← uncounted c level.items
        expression fuel { level with items } outer
      else
        let item ← primitive
        expression fuel (level.add item) outer

end Reading

/-- The expression that a text writes. -/
def Expr.read (text : List Char) : Except Fault Expr :=
  Prod.fst <$> (Reading.expression (text.length + 1) { first := 0, start := 0 } []).run
    { rest := text }

end DocQuery.Regex
