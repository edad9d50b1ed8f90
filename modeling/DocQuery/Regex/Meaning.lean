import DocQuery.Regex.Nesting
import DocQuery.Regex.Pattern
import DocQuery.Regex.Reader
import DocQuery.Text.Case

/-! What expressions mean.

Flags hold from where they are set to the end of the group around them. Where characters
of all scripts do not count a pattern may only take characters of ASCII in sets, since it
would take single bytes of longer characters otherwise. -/
namespace DocQuery.Regex

open Text (CharSet)

structure Flags where
  ignoreCase : Bool := false
  multiLine : Bool := false
  dotAll : Bool := false
  lazyFirst : Bool := false
  carriage : Bool := false
  unicode : Bool := true
  deriving DecidableEq, Repr

abbrev Meaning := Except Fault

namespace Flags

def change (f : Flags) (changes : FlagChanges) : Flags where
  ignoreCase := (changes.on? .ignoreCase).getD f.ignoreCase
  multiLine := (changes.on? .multiLine).getD f.multiLine
  dotAll := (changes.on? .dotAll).getD f.dotAll
  lazyFirst := (changes.on? .lazyFirst).getD f.lazyFirst
  carriage := (changes.on? .carriage).getD f.carriage
  unicode := (changes.on? .unicode).getD f.unicode

def refuse {α : Type} (reason : Reason) (span : Span) : Meaning α :=
  throw (.invalid reason [span])

/-! ### Sets -/

def foldings : List (Nat × Nat) := Text.foldings Property.edition

/-- A set with both cases of the letters of ASCII that it holds. -/
def withAsciiCases (set : CharSet) : CharSet :=
  set.union <| .ofCodes <| (List.range 26).flatMap fun i =>
    let (upper, lower) := ('A'.toNat + i, 'a'.toNat + i)
    if set.hasCode upper || set.hasCode lower then [upper, lower] else []

/-- A set with what differs from its characters in case, if the case is ignored. -/
def cases (f : Flags) (set : CharSet) : CharSet :=
  if !f.ignoreCase then set
  else if f.unicode then Text.withCases foldings set
  else withAsciiCases set

/-- A set, perhaps turned around, that only holds what it may hold. -/
def turned (f : Flags) (span : Span) (negated : Bool) (set : CharSet) : Meaning CharSet :=
  let set := if negated then set.complement else set
  if f.unicode || set.isAscii then return set else refuse .notText span

/-- A set and its other cases, perhaps turned around. -/
def finish (f : Flags) (span : Span) (negated : Bool) (set : CharSet) : Meaning CharSet :=
  f.turned span negated (f.cases set)

/-- The sets of letters have all cases of their characters. -/
def letterSet (f : Flags) (span : Span) (letters : Letters) (negated : Bool) : Meaning CharSet :=
  f.turned span negated (if f.unicode then letters.set else letters.ascii)

def propertySet (f : Flags) (span : Span) (name : List Char) (value : Option (List Char))
    (negated : Bool) : Meaning CharSet := do
  unless f.unicode do refuse .notUnicode span
  let found := match value with
    | some value => Property.ofValue name value
    | none => Property.ofName name
  match found with
  | .ok set => f.finish span negated set
  | .error .property => refuse .propertyUnknown span
  | .error .value => refuse .valueUnknown span

/-- A character of a set. -/
def member (f : Flags) (span : Span) (literal : Literal) : Meaning Char :=
  if f.unicode || literal.char.toNat < 0x80 then return literal.char
  else refuse (if literal.byte then .notText else .notUnicode) span

end Flags

def Joint.join : Joint → CharSet → CharSet → CharSet
  | .intersection => .intersection
  | .difference => .difference
  | .symmetric => .symmetric

mutual

/-- The characters of what stands in brackets. -/
def Members.set (f : Flags) : Members → Meaning CharSet
  | .empty _ => return .empty
  | .atom span (.literal literal) => return .ofChar (← f.member span literal)
  | .atom span (.letters letters negated) => f.letterSet span letters negated
  | .atom span (.property name value negated) => f.propertySet span name value negated
  | .atom span (.dot) | .atom span (.assertion _) => Flags.refuse .setEscape span
  | .range _ first last => do
    let low ← f.member first.1 first.2
    let high ← f.member last.1 last.2
    return .range low.toNat high.toNat
  | .worded span set negated => f.finish span negated set
  | .bracketed span negated members => do f.finish span negated (← members.set f)
  | .union _ parts => Members.setOf f [] parts
  | .joined _ joint left right => do
    let left ← left.set f
    let right ← right.set f
    return joint.join (f.cases left) (f.cases right)

/-- The characters of some ranges and of some parts. -/
def Members.setOf (f : Flags) (ranges : List (Nat × Nat)) : List Members → Meaning CharSet
  | [] => return .ofRanges ranges
  | part :: rest => do
    let set ← part.set f
    Members.setOf f (set.ranges ++ ranges) rest

end

namespace Flags

/-! ### Atoms -/

/-- All characters, or those that do not end a line. -/
def dotSet (f : Flags) : CharSet :=
  if f.dotAll then .all
  else if f.carriage then (CharSet.ofCodes ['\n'.toNat, '\r'.toNat]).complement
  else (CharSet.ofChar '\n').complement

def look (f : Flags) : Assertion → Look
  | .lineStart => if f.multiLine then .lineStart f.carriage else .textStart
  | .lineEnd => if f.multiLine then .lineEnd f.carriage else .textEnd
  | .textStart => .textStart
  | .textEnd => .textEnd
  | .word boundary => .word boundary f.unicode

def atom (f : Flags) (span : Span) : Atom → Meaning Pattern
  | .literal literal =>
    if literal.byte && !f.unicode && literal.char.toNat ≥ 0x80 then refuse .notText span
    else return .ofSet (f.cases (.ofChar literal.char))
  | .dot => if f.unicode then return .ofSet f.dotSet else refuse .notText span
  | .assertion assertion => return .look (f.look assertion)
  | .letters letters negated => return .ofSet (← f.letterSet span letters negated)
  | .property name value negated => return .ofSet (← f.propertySet span name value negated)

end Flags

/-! ### Expressions -/

mutual

/-- The pattern of an expression, and the flags after it. -/
def Expr.meaning (f : Flags) : Expr → Meaning (Pattern × Flags)
  | .empty _ => return (.empty, f)
  | .flags _ changes => return (.empty, f.change changes)
  | .atom span what => return (← f.atom span what, f)
  | .bracketed span negated members => do
    return (.ofSet (← f.finish span negated (← members.set f)), f)
  | .repetition _ least most greedy body => do
    let (body, f) ← meaning f body
    return (.repeated least most (greedy != f.lazyFirst) body, f)
  | .group _ (.capture index) body => do
    let (body, _) ← meaning f body
    return (.capture index body, f)
  | .group _ (.flagged changes) body => do
    let (body, _) ← meaning (f.change changes) body
    return (body, f)
  | .sequence _ items => do
    let (items, f) ← meanings f [] items
    return (.inOrder items, f)
  | .alternation _ branches => do
    let (branches, f) ← meanings f [] branches
    return (.inParallel branches, f)

/-- The patterns of expressions one after another; `done` are those before, the last
first. -/
def Expr.meanings (f : Flags) (done : List Pattern) : List Expr → Meaning (List Pattern × Flags)
  | [] => return (done.reverse, f)
  | item :: rest => do
    let (item, f) ← meaning f item
    meanings f (item :: done) rest

end

/-- The pattern that a text writes. -/
def Pattern.read (text : List Char) : Except Fault Pattern := do
  let e ← Expr.read text
  e.checkNesting
  return (← e.meaning {}).1

end DocQuery.Regex
