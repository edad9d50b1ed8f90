import DocQuery.Text.Letter

/-! Upper and lower case of text.

Every character has its full mapping, so a letter can become several. The one mapping
that depends on the neighbours is that of the capital sigma, which is a final sigma at
the end of a word (`isWordFinal`). Characters that fold to the same character differ in
case only (`withCases`). -/
namespace DocQuery.Text

def upperChars (c : Char) : List Char :=
  match severalUpper.lookup c.toNat with
  | some codes => codes.map Char.ofNat
  | none => [Char.ofNat (CaseRun.map upperRuns c.toNat)]

/-- The dotted capital `I` alone has a lower case of two characters. -/
def lowerChars (c : Char) : List Char :=
  if c.toNat = 0x130 then ['i', Char.ofNat 0x307]
  else [Char.ofNat (CaseRun.map lowerRuns c.toNat)]

/-- The next character that is not ignorable has a case. -/
def meetsCased (text : List Char) : Bool :=
  match text.dropWhile isCaseIgnorable with
  | c :: _ => isCased c
  | [] => false

/-- A cased letter comes before and none after; `before` is read backward. -/
def isWordFinal (before after : List Char) : Bool := meetsCased before && !meetsCased after

def upper (text : List Char) : List Char := text.flatMap upperChars

/-- The rest of a text in lower case, after the characters `before`, last first. -/
def lowerAfter (before : List Char) : List Char → List Char
  | [] => []
  | c :: rest =>
    let mapped :=
      if c.toNat = 0x3A3 then [Char.ofNat (if isWordFinal before rest then 0x3C2 else 0x3C3)]
      else lowerChars c
    mapped ++ lowerAfter (c :: before) rest

def lower (text : List Char) : List Char := lowerAfter [] text

/-! ### Without regard to case -/

/-- Characters and what they fold to, of those that an edition assigns. -/
def foldings (edition : Edition) : List (Nat × Nat) :=
  let assigned := edition.assigned
  (foldRuns.flatMap CaseRun.moves).filter fun move =>
    assigned.hasCode move.1 && assigned.hasCode move.2

/-- A set with all characters that differ from one of its own in case only. -/
def withCases (foldings : List (Nat × Nat)) (set : CharSet) : CharSet :=
  let folded := CharSet.ofCodes <| foldings.filterMap fun move =>
    if set.hasCode move.1 || set.hasCode move.2 then some move.2 else none
  set.union <| CharSet.ofCodes <| foldings.flatMap fun move =>
    if folded.hasCode move.2 then [move.1, move.2] else []

end DocQuery.Text
