import DocQuery.Number.Power
import DocQuery.Regex.Reader.Basic

/-! Repetitions, by a sign or counted in braces.

A repetition takes the item before it as its body. Flags and the empty text cannot be
repeated. -/
namespace DocQuery.Regex.Reading

/-- The body of a repetition, which must be there, and the items before it; items are
listed from the last to the first. -/
def repeated (items : List Expr) : Reading (Expr × List Expr) := do
  let missing : Reading (Expr × List Expr) := do fail .nothingRepeated (← place) (← place)
  match items with
  | [] => missing
  | .empty _ :: _ => missing
  | .flags _ _ :: _ => missing
  | body :: before => return (body, before)

/-- Whether many rounds are preferred: a question mark turns it around. -/
def greedy : Reading Bool := return !(← takes "?")

/-- The items with a repetition of a body, which ends at the next place, as the last one. -/
def addRounds (least : Nat) (most : Option Nat) (greedy : Bool) (body : Expr)
    (before : List Expr) : Reading (List Expr) := do
  return .repetition ⟨body.span.start, ← place⟩ least most greedy body :: before

/-! ### Counts -/

/-- A count, or why there is none. -/
abbrev Count := Except Fault Nat

/-- The greatest count is below this. -/
def countLimit : Nat := 2 ^ 32

/-- A decimal number between blanks. A fault of it only counts once the number is needed. -/
def decimal : Reading Count := do
  skipWhile Text.isBlank
  let start ← place
  let digits ← takeRun Char.isDigit
  let stop ← place
  skipWhile Text.isBlank
  let invalid (reason : Reason) : Count := throw (.invalid reason [⟨start, stop⟩])
  if digits.isEmpty then return invalid .countMissing
  let n := digits.foldl (fun n digit => n * 10 + (digit.1.toNat - 0x30)) 0
  return if n < countLimit then pure n else invalid .countTooGreat

/-- The counts in braces, from the number before a comma on. -/
def counts (unclosed : Reading (Nat × Option Nat)) : Reading (Nat × Option Nat) := do
  let least ← decimal
  match ← peek? with
  | none => unclosed
  | some ',' =>
    match ← next? with
    | none => unclosed
    | some '\x7d' => return (← least, none)
    | some _ =>
      let least ← (least : Except Fault Nat)
      let most ← decimal
      return (least, some (← most))
  | some _ =>
    let least ← least
    return (least, some least)

/-- A counted repetition; the opening brace comes next. -/
def counted (items : List Expr) : Reading (List Expr) := do
  let start ← place
  let (body, before) ← repeated items
  let unclosed {α : Type} : Reading α := do fail .countUnclosed start (← place)
  if (← next?).isNone then unclosed
  let (least, most) ← counts unclosed
  unless (← peek?) = some '\x7d' do unclosed
  let _ ← next?
  let greedy ← greedy
  if most.any (· < least) then fail .countOrder start (← place)
  addRounds least most greedy body before

/-- A repetition by one of the three signs, which comes next. -/
def uncounted (sign : Char) (items : List Expr) : Reading (List Expr) := do
  let (body, before) ← repeated items
  advance
  let greedy ← greedy
  let most := if sign = '?' then some 1 else none
  addRounds (if sign = '+' then 1 else 0) most greedy body before

end DocQuery.Regex.Reading
