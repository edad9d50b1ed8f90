import DocQuery.Regex.Reader.Basic
import DocQuery.Text.Letter

/-! Groups in parentheses, their names and their flags.

A group captures unless it begins with flags. Flags that stand alone hold for the rest of
the group around them. -/
namespace DocQuery.Regex.Reading

/-! ### Flags -/

def flag? : Char → Option Flag
  | 'i' => some .ignoreCase
  | 'm' => some .multiLine
  | 's' => some .dotAll
  | 'U' => some .lazyFirst
  | 'u' => some .unicode
  | 'R' => some .carriage
  | 'x' => some .spaced
  | _ => none

/-- The letters of flags and the sign that clears those after it, with their places; the
last one comes first. -/
abbrev FlagSigns := List (Char × Nat)

/-- The changes that signs make. -/
def changesOf (signs : FlagSigns) : FlagChanges :=
  let cleared := signs.takeWhile (·.1 != '-')
  let hasSign := cleared.length < signs.length
  (signs.reverse.filterMap fun (c, place) =>
    (flag? c).map fun flag => (flag, !(hasSign && cleared.contains (c, place))))

/-- Signs up to a colon or a closing parenthesis. No sign may come twice, so there are not
more than eight. -/
def flagSigns : (fuel : Nat) → (signs : FlagSigns) → Reading FlagSigns
  | 0, signs => return signs
  | fuel + 1, signs => do
    let here ← place
    match ← peek? with
    | none => fail .flagUnfinished here here
    | some c =>
      if c == ':' || c == ')' then
        match signs with
        | ('-', sign) :: _ => fail .negationDangling sign (sign + 1)
        | _ => return signs
      else
        unless c == '-' || (flag? c).isSome do failHere .flagUnknown
        match signs.lookup c with
        | some earlier =>
          throw (.invalid (if c = '-' then .negationTwice else .flagTwice)
            [⟨here, here + 1⟩, ⟨earlier, earlier + 1⟩])
        | none =>
          advance
          if ← atEnd then fail .flagUnfinished (here + 1) (here + 1)
          flagSigns fuel ((c, here) :: signs)

/-! ### Names -/

def isNameChar (first : Bool) (c : Char) : Bool :=
  c == '_' || Text.isAlphabetic c ||
    (!first && (c == '.' || c == '[' || c == ']' || Text.isNumeric c))

/-- The name of a group and the bracket after it. -/
def groupName : Reading Unit := do
  let start ← place
  let name := (← get).rest.takeWhile (· != '>')
  match (name.zipIdx.find? fun (c, i) => !isNameChar (i == 0) c) with
  | some (_, i) => fail .nameCharacter (start + i) (start + i + 1)
  | none => pure ()
  skip name.length
  let stop ← place
  unless ← takes ">" do fail .nameUnclosed stop stop
  if name.isEmpty then fail .nameEmpty start start
  let span : Span := ⟨start, stop⟩
  match (← get).names.lookup (String.ofList name) with
  | some earlier => throw (.invalid .nameTwice [span, earlier])
  | none => modify fun r => { r with names := (String.ofList name, span) :: r.names }

/-! ### Openings -/

/-- What a parenthesis opens. -/
inductive Opening where
  | group (kind : GroupKind)
  /-- Flags alone, which close at once. -/
  | flags (changes : FlagChanges)

/-- A group that captures, with the next number. -/
def capture (named : Bool) : Reading Opening := do
  modify fun r => { r with groups := r.groups + 1 }
  let index := (← get).groups
  if named then groupName
  return .group (.capture index)

/-- The opening of a group with what comes before its body, or flags alone; the
parenthesis comes next. -/
def opening : Reading Opening := do
  let start ← place
  advance
  skipBlanks
  let inner ← place
  for look in ["?=", "?!", "?<=", "?<!"] do
    if ← takes look then fail .groupLooksAround start (← place)
  if ← takes "?P<" then capture true
  else if ← takes "?<" then capture true
  else if ← takes "?" then
    if ← atEnd then fail .groupUnclosed start (start + 1)
    let signs ← flagSigns 9 []
    let closes := (← peek?) = some ')'
    advance
    if !closes then return .group (.flagged (changesOf signs))
    if signs.isEmpty then fail .nothingRepeated inner inner
    return .flags (changesOf signs)
  else capture false

end DocQuery.Regex.Reading
