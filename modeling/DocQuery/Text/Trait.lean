import DocQuery.Text.CaseTable
import DocQuery.Text.Category
import DocQuery.Text.Script
import DocQuery.Text.Table

/-! Traits of characters.

A trait is what makes a set of characters by the standard: a table, a category, a script,
the effect of a case mapping, or what is made of other traits. Which characters have it
depends on the edition. -/
namespace DocQuery.Text

inductive Trait where
  /-- Code points from first to last. -/
  | ranges (spans : List (Nat × Nat))
  /-- Characters that a table marks. -/
  | listed (table : List String)
  /-- Code points that a table marks, assigned or not. -/
  | reserved (table : List String)
  | category (names : List String)
  | script (code : String)
  /-- Characters that a case mapping moves to other characters. -/
  | moved (runs : List CaseRun)
  | either (a b : Trait)
  | both (a b : Trait)
  | except (a b : Trait)

namespace Trait

def none : Trait := .ranges []

def oneOf (traits : List Trait) : Trait := traits.foldr .either none

/-- Marked code points of a table. -/
def marked (table : List String) : CharSet := CharSet.ofRuns (Run.table table) (· == "+")

def set (edition : Edition) : Trait → CharSet
  | .ranges spans => CharSet.ofRanges spans
  | .listed table => (marked table).intersection edition.assigned
  | .reserved table => marked table
  | .category names => categorySet edition names
  | .script code => scriptSet edition code
  | .moved runs =>
    let assigned := edition.assigned
    let moves := (runs.flatMap CaseRun.moves).filter fun move =>
      assigned.hasCode move.1 && assigned.hasCode move.2
    CharSet.ofCodes (moves.map Prod.fst)
  | .either a b => (set edition a).union (set edition b)
  | .both a b => (set edition a).intersection (set edition b)
  | .except a b => (set edition a).difference (set edition b)

end Trait

end DocQuery.Text
