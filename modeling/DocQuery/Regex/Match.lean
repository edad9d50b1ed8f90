import DocQuery.Json.Value
import DocQuery.Regex.Meaning
import DocQuery.Regex.Report
import DocQuery.Regex.Search
import DocQuery.Regex.Weight

/-! Matches.

A match is a part of a text with the parts that its groups took. Places are counted in
characters. -/
namespace DocQuery.Regex

/-- A part of a text. -/
structure Part where
  text : List Char
  start : Nat
  stop : Nat
  deriving DecidableEq, Repr

structure Match where
  whole : Part
  /-- The parts of the groups; a group that took no part has none. -/
  groups : List (Option Part)
  deriving DecidableEq, Repr

/-- The part between two marks, if both were made. -/
def Part.ofMarks (text : List Char) (marks : Marks) (group : Nat) : Option Part := do
  let start ← (marks[2 * group]?).join
  let stop ← (marks[2 * group + 1]?).join
  return ⟨(text.drop start).take (stop - start), start, stop⟩

def Part.fields (part : Part) : List (String × Json) :=
  [("str", .string (String.ofList part.text)), ("start", .ofNat part.start),
    ("end", .ofNat part.stop)]

/-- The pattern that a text writes, unless it is too large. -/
def Pattern.ofText (text : List Char) : Except Fault Pattern := do
  let pattern ← Pattern.read text
  if pattern.tooLarge then throw .tooLarge
  return pattern

/-- The first match of a pattern in a text. -/
def firstMatch (pattern text : String) : Except String (Option Match) :=
  match Pattern.ofText pattern.toList with
  | .error fault => .error (fault.message pattern)
  | .ok compiled =>
    let program := Program.ofPattern compiled
    let chars := text.toList
    .ok do
      let marks ← Search.first program chars
      let whole ← Part.ofMarks chars marks 0
      return ⟨whole, (List.range program.groups).map fun i => Part.ofMarks chars marks (i + 1)⟩

def Match.toJson (m : Match) : Json :=
  let group (part : Option Part) : Json :=
    match part with
    | some part => .ofFields part.fields
    | none => .null
  .ofFields (m.whole.fields ++ [("groups", .array (m.groups.map group))])

end DocQuery.Regex
