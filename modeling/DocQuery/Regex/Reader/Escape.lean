import DocQuery.Regex.Reader.Basic

/-! Escapes: a backslash with what comes after it.

Characters can be given by their codes in hexadecimal digits, and sets by the names of
properties. -/
namespace DocQuery.Regex.Reading

def failUnfinished {α : Type} (start : Nat) : Reading α := do
  fail .escapeUnfinished start (← place)

/-! ### Characters by their codes -/

def isHex (c : Char) : Bool := c.isDigit || ('a' ≤ c && c ≤ 'f') || ('A' ≤ c && c ≤ 'F')

def hexValue (digits : List Char) : Nat :=
  digits.foldl (fun sum c =>
    sum * 16 + if c.isDigit then c.toNat - 0x30 else c.toLower.toNat - 0x57) 0

/-- The character of a code; the digits stand between two places. -/
def charOf (digits : List Char) (start stop : Nat) : Reading Char := do
  let code := hexValue digits
  if code < 0xD800 || (0xE000 ≤ code && code < 0x110000) then return Char.ofNat code
  else fail .hexNoCharacter start stop

/-- A fixed number of digits, of which the first comes next. -/
def fixedDigits : (count : Nat) → (digits : List Char) → Reading (List Char)
  | 0, digits => return digits.reverse
  | count + 1, digits => do
    match ← peek? with
    | none => failUnfinished (← place)
    | some c =>
      unless isHex c do failHere .hexDigit
      let _ ← next?
      fixedDigits count (c :: digits)

/-- Digits in braces; the opening brace comes next. -/
def bracedDigits : Reading Char := do
  let opening ← place
  advance
  let start ← place
  let digits ← takeRun isHex
  let stop ← place
  match ← peek? with
  | none => failUnfinished opening
  | some '\x7d' =>
    let _ ← next?
    if digits.isEmpty then fail .hexEmpty opening (← place)
    charOf (digits.map Prod.fst) start stop
  | some _ => failHere .hexDigit

/-- A character by its code; the letter that says how long the code is comes next. -/
def hex (letter : Char) : Reading Literal := do
  let size := if letter = 'x' then 2 else if letter = 'u' then 4 else 8
  match ← next? with
  | none => failUnfinished (← place)
  | some '\x7b' => return ⟨← bracedDigits, false⟩
  | some _ =>
    let start ← place
    let digits ← fixedDigits size []
    return ⟨← charOf digits start (← place), letter = 'x'⟩

/-! ### Properties -/

/-- The parts of a text before and after a separator. -/
def cut? (separator : String) (text : List Char) : Option (List Char × List Char) :=
  let found := (List.range text.length).find? fun i => separator.toList.isPrefixOf (text.drop i)
  found.map fun i => (text.take i, text.drop (i + separator.length))

/-- A name, or a name and a value of which the set is turned around by `!=`. -/
def named (text : List Char) (negated : Bool) : Atom :=
  match cut? "!=" text with
  | some (name, value) => .property name (some value) (!negated)
  | none =>
    match (cut? ":" text).or (cut? "=" text) with
    | some (name, value) => .property name (some value) negated
    | none => .property text none negated

/-- A property; the letter before its name comes next. -/
def property (letter : Char) : Reading Atom := do
  let negated := letter = 'P'
  match ← next? with
  | none => failUnfinished (← place)
  | some '\x7b' =>
    advance
    let name ← takeRun (· != '\x7d')
    if ← atEnd then failUnfinished (← place)
    advance
    return named (name.map Prod.fst) negated
  | some '\\' => failHere .propertyEscape
  | some c =>
    let _ ← next?
    return .property [c] none negated

/-! ### Boundaries -/

def isBoundaryChar (c : Char) : Bool := c.isAlpha || c == '-'

/-- The boundary after a `\b`, which can have a name in braces. Braces that hold no name
count a repetition and are left. -/
def boundary (start : Nat) : Reading Boundary := do
  let r ← get
  if r.rest.head? != some '\x7b' then return .edge
  match ← next? with
  | none => fail .boundaryUnfinished start (← place)
  | some c =>
    unless isBoundaryChar c do
      set r
      return .edge
    let nameStart ← place
    let name ← takeRun isBoundaryChar
    let stop ← place
    unless ← takes "\x7d" do fail .boundaryUnclosed r.place stop
    match String.ofList (name.map Prod.fst) with
    | "start" => return .start
    | "end" => return .stop
    | "start-half" => return .startHalf
    | "end-half" => return .stopHalf
    | _ => fail .boundaryUnknown nameStart stop

/-! ### All escapes -/

/-- Punctuation can be escaped; letters and digits only where that means something. -/
def isEscapable (c : Char) : Bool :=
  c.toNat < 0x80 && !c.isAlphanum && c != '<' && c != '>'

/-- What an escape stands for; the character after the backslash comes next. -/
def escaped (start : Nat) : Reading Atom := do
  match ← peek? with
  | none => failUnfinished start
  | some c =>
    let char (c : Char) : Atom := .literal ⟨c, false⟩
    if c.isDigit then fail .backreference start (start + 2)
    else if c == 'x' || c == 'u' || c == 'U' then return .literal (← hex c)
    else if c == 'p' || c == 'P' then property c
    else
      advance
      match c with
      | 'd' | 'D' => return .letters .digit (c == 'D')
      | 's' | 'S' => return .letters .blank (c == 'S')
      | 'w' | 'W' => return .letters .word (c == 'W')
      | 'a' => return char '\x07'
      | 'f' => return char '\x0c'
      | 't' => return char '\t'
      | 'n' => return char '\n'
      | 'r' => return char '\r'
      | 'v' => return char '\x0b'
      | 'A' => return .assertion .textStart
      | 'z' => return .assertion .textEnd
      | 'b' => return .assertion (.word (← boundary start))
      | 'B' => return .assertion (.word .inside)
      | '<' => return .assertion (.word .start)
      | '>' => return .assertion (.word .stop)
      | _ => if isEscapable c then return char c else fail .escapeUnknown start (← place)

/-- An escape; the backslash comes next. -/
def escape : Reading (Span × Atom) := do
  let start ← place
  advance
  let atom ← escaped start
  return (⟨start, ← place⟩, atom)

end DocQuery.Regex.Reading
