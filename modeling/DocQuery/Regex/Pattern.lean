import DocQuery.Regex.Look

/-! Patterns.

A pattern is a regular expression with captures, looks at the characters around a place,
and repetitions that prefer many or few rounds. Wherever it can match in more ways than
one the first way counts, in the order in which choices are written. Patterns are built by
functions that bring them to a simple form, which matches the same. -/
namespace DocQuery.Regex

open Text (CharSet)

inductive Pattern where
  | empty
  /-- One character after another. -/
  | literal (text : List Char)
  | chars (set : CharSet)
  | look (look : Look)
  | capture (index : Nat) (body : Pattern)
  | rounds (least : Nat) (most : Option Nat) (greedy : Bool) (body : Pattern)
  | sequence (items : List Pattern)
  | choice (branches : List Pattern)
  deriving Repr

namespace Pattern

instance : Inhabited Pattern := ⟨.empty⟩

mutual

def same : Pattern → Pattern → Bool
  | .empty, .empty => true
  | .literal text, .literal text' => text == text'
  | .chars set, .chars set' => set == set'
  | .look what, .look what' => what == what'
  | .capture index body, .capture index' body' => index == index' && same body body'
  | .rounds least most greedy body, .rounds least' most' greedy' body' =>
    least == least' && most == most' && greedy == greedy' && same body body'
  | .sequence items, .sequence items' => sameAll items items'
  | .choice branches, .choice branches' => sameAll branches branches'
  | _, _ => false

def sameAll : List Pattern → List Pattern → Bool
  | [], [] => true
  | item :: rest, item' :: rest' => same item item' && sameAll rest rest'
  | _, _ => false

end

instance : BEq Pattern := ⟨same⟩

/-! ### What a pattern can take -/

mutual

/-- The pattern can match the empty text only. -/
def onlyEmpty : Pattern → Bool
  | .empty | .look _ => true
  | .literal _ | .chars _ => false
  | .capture _ body => onlyEmpty body
  | .rounds _ most _ body => most.isSome && onlyEmpty body
  | .sequence items | .choice items => onlyEmptyAll items

def onlyEmptyAll : List Pattern → Bool
  | [] => true
  | item :: rest => onlyEmpty item && onlyEmptyAll rest

end

mutual

/-- The least number of characters that the pattern takes. There is none if a set without
characters stands somewhere in it. -/
def shortest : Pattern → Option Nat
  | .empty | .look _ => some 0
  | .literal text => some text.length
  | .chars set => if set.isEmpty then none else some 1
  | .capture _ body => shortest body
  | .rounds least _ _ body => (shortest body).map (least * ·)
  | .sequence items => shortestSum 0 items
  | .choice branches => shortestBranch none branches

def shortestSum (sum : Nat) : List Pattern → Option Nat
  | [] => some sum
  | item :: rest =>
    match shortest item with
    | some n => shortestSum (sum + n) rest
    | none => none

def shortestBranch (least : Option Nat) : List Pattern → Option Nat
  | [] => least
  | branch :: rest =>
    match shortest branch with
    | some n => shortestBranch (some (least.elim n (min n))) rest
    | none => none

end

/-- The pattern takes a character at least. -/
def takesSome (p : Pattern) : Bool := p.shortest.any (0 < ·)

mutual

/-- The highest number of a group, zero if there is none. -/
def lastGroup : Pattern → Nat
  | .capture index body => max index (lastGroup body)
  | .rounds _ _ _ body => lastGroup body
  | .sequence items | .choice items => lastGroupOf 0 items
  | .empty | .literal _ | .chars _ | .look _ => 0

def lastGroupOf (last : Nat) : List Pattern → Nat
  | [] => last
  | item :: rest => lastGroupOf (max last (lastGroup item)) rest

end

/-! ### Building patterns -/

/-- A set of one character is that character. -/
def ofSet (set : CharSet) : Pattern :=
  match set.single? with
  | some c => .literal [c]
  | none => .chars set

/-- What no text matches. -/
def never : Pattern := .chars .empty

/-- Rounds of a body. Further rounds of a body that takes nothing make no difference. -/
def repeated (least : Nat) (most : Option Nat) (greedy : Bool) (body : Pattern) : Pattern :=
  let (least, most) :=
    if body.onlyEmpty then (min least 1, some (most.elim 1 (min · 1))) else (least, most)
  if least = 0 ∧ most = some 0 then .empty
  else if least = 1 ∧ most = some 1 then body
  else .rounds least most greedy body

/-- Items with literals next to each other joined. `text` is the literal before them, and
`done` what comes before that, both last first. -/
def joinLiterals (text : List Char) (done : List Pattern) : List Pattern → List Pattern
  | [] => (flush text done).reverse
  | .literal more :: rest => joinLiterals (more.reverse ++ text) done rest
  | item :: rest => joinLiterals [] (item :: flush text done) rest
where
  flush (text : List Char) (done : List Pattern) : List Pattern :=
    if text.isEmpty then done else .literal text.reverse :: done

/-- Items one after another. -/
def inOrder (items : List Pattern) : Pattern :=
  let flat := items.flatMap fun item =>
    match item with
    | .empty => []
    | .sequence items => items
    | item => [item]
  match joinLiterals [] [] flat with
  | [] => .empty
  | [item] => item
  | items => .sequence items

/-- The characters of a pattern that takes exactly one. -/
def charSet? : Pattern → Option CharSet
  | .literal [c] => some (.ofChar c)
  | .chars set => some set
  | _ => none

def flatten (branches : List Pattern) : List Pattern :=
  branches.flatMap fun branch =>
    match branch with
    | .choice branches => branches
    | branch => [branch]

/-- Branches of which the first that matches counts; branches of one character are one
set. -/
def branched (branches : List Pattern) : Pattern :=
  match branches with
  | [] => never
  | [branch] => branch
  | branches =>
    match branches.mapM charSet? with
    | some sets => ofSet (.ofRanges (sets.flatMap CharSet.ranges))
    | none => .choice branches

/-- The items of a sequence. -/
def items? : Pattern → Option (List Pattern)
  | .sequence items => some items
  | _ => none

/-- How many items two sequences have in common, from the first on. -/
def commonLength : List Pattern → List Pattern → Nat
  | a :: as, b :: bs => if a == b then commonLength as bs + 1 else 0
  | _, _ => 0

/-- Branches of which the first that matches counts. What all of them begin with comes
before the choice. -/
def inParallel (branches : List Pattern) : Pattern :=
  let branches := flatten branches
  let plain := branched branches
  match plain, branches.mapM items? with
  | .choice _, some (first :: rest) =>
    let common := rest.foldl (fun n items => min n (commonLength first items)) first.length
    if common = 0 then plain
    else
      let tails := (first :: rest).map fun items => inOrder (items.drop common)
      inOrder (first.take common ++ [branched (flatten tails)])
  | _, _ => plain

end Pattern

end DocQuery.Regex
