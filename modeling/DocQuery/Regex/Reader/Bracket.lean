import DocQuery.Regex.Reader.Escape

/-! Sets in brackets.

A bracketed set holds characters, ranges, escapes and further sets, and parts of it can be
joined by operations on sets. The brackets that are open at a place are kept in a list,
the innermost first; every step takes at least one character. -/
namespace DocQuery.Regex.Reading

/-- A bracket that is open. -/
structure OpenSet where
  /-- The bracket and the sign after it that turns the set around. -/
  opening : Span
  negated : Bool
  /-- What stands before the last joint. -/
  left : Option (Members × Joint) := none
  /-- Where the parts after the last joint begin. -/
  start : Nat
  /-- Those parts, the last one first. -/
  parts : List Members := []

namespace OpenSet

def add (part : Members) (set : OpenSet) : OpenSet := { set with parts := part :: set.parts }

/-- What stands in the bracket so far. -/
def members (set : OpenSet) : Members :=
  let right := Members.ofParts set.start set.parts.reverse
  match set.left with
  | some (left, joint) => .join joint left right
  | none => right

/-- A joint, after which parts begin anew. -/
def split (set : OpenSet) (joint : Joint) (start : Nat) : OpenSet :=
  { set with left := some (set.members, joint), start, parts := [] }

/-- The whole set, of which the bracket closes before a place. -/
def close (set : OpenSet) (stop : Nat) : Span × Bool × Members :=
  (⟨set.opening.start, stop⟩, set.negated, set.members)

end OpenSet

/-! ### Members -/

/-- A character or an escape. -/
def member : Reading (Span × Atom) := do
  match ← peek? with
  | some '\\' => escape
  | c =>
    let start ← place
    advance
    return (⟨start, start + 1⟩, .literal ⟨c.getD default, false⟩)

def failUnclosed {α : Type} (set : OpenSet) : Reading α :=
  fail .setUnclosed set.opening.start set.opening.stop

/-- The end of a range, which must be a character. -/
def rangeEnd (member : Span × Atom) : Reading (Span × Literal) := do
  match member with
  | (span, .literal literal) => return (span, literal)
  | (span, _) => fail .rangeEnd span.start span.stop

/-- A member, or the range from one character to another. -/
def memberOrRange (set : OpenSet) : Reading Members := do
  let (span, first) ← member
  skipBlanks
  let r ← get
  match r.rest with
  | [] => failUnclosed set
  | '-' :: rest =>
    let following := afterHyphen? r.spaced rest
    if following = some ']' ∨ following = some '-' then single span first
    else
      if (← next?).isNone then failUnclosed set
      let last ← member
      let low ← rangeEnd (span, first)
      let high ← rangeEnd last
      let whole : Span := ⟨span.start, last.1.stop⟩
      if high.2.char < low.2.char then fail .rangeOrder whole.start whole.stop
      return .range whole low high
  | _ => single span first
where
  single (span : Span) : Atom → Reading Members
    | .assertion _ => fail .setEscape span.start span.stop
    | atom => return .atom span atom

/-- The set that is named in brackets and colons, if one comes next. -/
def worded? : Reading (Option Members) := do
  let start ← place
  match (← get).rest with
  | '[' :: ':' :: rest =>
    let (negated, rest) := match rest with
      | '^' :: rest => (true, rest)
      | rest => (false, rest)
    let name := rest.takeWhile (· != ':')
    match wordedSet? name, rest.drop name.length with
    | some set, ':' :: ']' :: _ =>
      skip (4 + name.length + if negated then 1 else 0)
      return some (.worded ⟨start, ← place⟩ set negated)
    | _, _ => return none
  | _ => return none

/-! ### Brackets -/

/-- A bracket, which comes next, with the characters after it that only there stand for
themselves: hyphens, or a closing bracket. -/
def openSet : Reading OpenSet := do
  let start ← place
  if (← next?).isNone then fail .setUnclosed start (← place)
  let negated := (← peek?) = some '^'
  if negated then
    if (← next?).isNone then fail .setUnclosed start (← place)
  let first ← place
  let hyphens ← takeRun (· == '-')
  if hyphens.isEmpty then
    let set : OpenSet := { opening := ⟨start, first⟩, negated, start := first }
    if (← peek?) = some ']' then
      if (← next?).isNone then fail .setUnclosed start (← place)
      let bracket := Members.atom ⟨first, first + 1⟩ (.literal ⟨']', false⟩)
      return { set with opening := ⟨start, ← place⟩, parts := [bracket] }
    return set
  else
    if ← atEnd then fail .setUnclosed start start
    let parts := hyphens.map fun (c, place) =>
      Members.atom ⟨place, place + 1⟩ (.literal ⟨c, false⟩)
    return { opening := ⟨start, ← place⟩, negated, start := first, parts := parts.reverse }

/-- The joint that comes next. -/
def joint? : Reading (Option Joint) := do
  if ← takes "&&" then return some .intersection
  else if ← takes "--" then return some .difference
  else if ← takes "~~" then return some .symmetric
  else return none

/-- The rest of a bracketed set; the brackets that are open are given, the innermost one
and those around it. -/
def restOfSet : (fuel : Nat) → (set : OpenSet) → (outer : List OpenSet) → Reading Expr
  | 0, set, _ => failUnclosed set
  | fuel + 1, set, outer => do
    skipBlanks
    match ← peek? with
    | none => failUnclosed set
    | some ']' =>
      advance
      let (span, negated, members) := set.close (← place)
      match outer with
      | [] => return .bracketed span negated members
      | parent :: outer =>
        restOfSet fuel (parent.add (.bracketed span negated members)) outer
    | some '[' =>
      match ← worded? with
      | some part => restOfSet fuel (set.add part) outer
      | none =>
        let inner ← openSet
        restOfSet fuel inner (set :: outer)
    | some _ =>
      match ← joint? with
      | some joint => restOfSet fuel (set.split joint (← place)) outer
      | none =>
        let part ← memberOrRange set
        restOfSet fuel (set.add part) outer

/-- A bracketed set; the bracket comes next, and `fuel` is not less than the length of the
text after it. -/
def bracketed (fuel : Nat) : Reading Expr := do
  let set ← openSet
  restOfSet fuel set []

end DocQuery.Regex.Reading
