import DocQuery.Regex.Fault
import DocQuery.Regex.Look

/-! Patterns as they are written.

An expression says which parts a pattern has and where they stand in it. What they mean
depends on the flags in force, which can change from part to part (`Expr.meaning`). -/
namespace DocQuery.Regex

inductive Flag where
  | ignoreCase | multiLine | dotAll
  /-- Repetitions prefer few rounds unless they say otherwise. -/
  | lazyFirst
  /-- Carriage returns end lines. -/
  | carriage
  /-- Characters of all scripts count, not only those of ASCII. -/
  | unicode
  /-- Blanks and comments do not count. -/
  | spaced
  deriving DecidableEq, Repr

/-- Flags that are set or cleared, each once. -/
abbrev FlagChanges := List (Flag × Bool)

/-- What the changes make of a flag, if they touch it. -/
def FlagChanges.on? (changes : FlagChanges) (flag : Flag) : Option Bool := changes.lookup flag

/-! ### Atoms -/

/-- A character that stands for itself. -/
structure Literal where
  char : Char
  /-- It is written by two hexadecimal digits, which can also stand for a byte. -/
  byte : Bool := false
  deriving DecidableEq, Repr, Inhabited

inductive Assertion where
  | lineStart | lineEnd | textStart | textEnd
  | word (boundary : Boundary)
  deriving DecidableEq, Repr

/-- What one character of a pattern, or one escape, stands for. -/
inductive Atom where
  | literal (literal : Literal)
  | dot
  | assertion (assertion : Assertion)
  | letters (letters : Letters) (negated : Bool)
  /-- A property by its name, or by its name and a value. -/
  | property (name : List Char) (value : Option (List Char)) (negated : Bool)
  deriving DecidableEq, Repr

/-! ### Sets in brackets -/

/-- How two parts of a bracketed set are joined. -/
inductive Joint where
  | intersection | difference | symmetric
  deriving DecidableEq, Repr

/-- What stands in brackets. -/
inductive Members where
  | empty (place : Nat)
  | atom (span : Span) (atom : Atom)
  | range (span : Span) (first last : Span × Literal)
  | worded (span : Span) (set : Text.CharSet) (negated : Bool)
  | bracketed (span : Span) (negated : Bool) (members : Members)
  | union (span : Span) (parts : List Members)
  | joined (span : Span) (joint : Joint) (left right : Members)
  deriving Repr

instance : Inhabited Members := ⟨.empty 0⟩

namespace Members

def span : Members → Span
  | empty place => ⟨place, place⟩
  | atom span _ | range span _ _ | worded span _ _ | bracketed span _ _ | union span _
  | joined span _ _ _ => span

/-- Parts side by side; `place` is where the first one would begin. -/
def ofParts (place : Nat) : List Members → Members
  | [] => empty place
  | [part] => part
  | first :: rest => union ⟨first.span.start, (rest.getLastD first).span.stop⟩ (first :: rest)

/-- The parts of a joint. -/
def join (joint : Joint) (left right : Members) : Members :=
  joined ⟨left.span.start, right.span.stop⟩ joint left right

end Members

/-! ### Expressions -/

inductive GroupKind where
  /-- The group marks what it takes; groups are counted from one. -/
  | capture (index : Nat)
  | flagged (changes : FlagChanges)
  deriving DecidableEq, Repr

inductive Expr where
  | empty (place : Nat)
  /-- Flags for what comes after them in a group. -/
  | flags (span : Span) (changes : FlagChanges)
  | atom (span : Span) (atom : Atom)
  | bracketed (span : Span) (negated : Bool) (members : Members)
  | repetition (span : Span) (least : Nat) (most : Option Nat) (greedy : Bool) (body : Expr)
  | group (span : Span) (kind : GroupKind) (body : Expr)
  | sequence (span : Span) (items : List Expr)
  | alternation (span : Span) (branches : List Expr)
  deriving Repr

instance : Inhabited Expr := ⟨.empty 0⟩

namespace Expr

def span : Expr → Span
  | empty place => ⟨place, place⟩
  | flags span _ | atom span _ | bracketed span _ _ | repetition span _ _ _ _ | group span _ _
  | sequence span _ | alternation span _ => span

/-- Items one after another in a stretch of the pattern. -/
def ofItems (span : Span) : List Expr → Expr
  | [] => empty span.start
  | [item] => item
  | items => sequence span items

end Expr

end DocQuery.Regex
