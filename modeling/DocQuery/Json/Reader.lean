import DocQuery.Json.Value
import DocQuery.Number.Decimal

/-! Reading JSON text.

The text is strict: one value, blanks around it, no trailing commas, no control
characters inside strings, and at most `maxDepth` containers inside one another. Of
fields with one key the last is kept.

A number without a point or an exponent is an integer if it fits in 64 bits, without
a sign for the positive ones. Any other number is real, and so is `-0`. The digits of
a real count as far as they fit in 64 bits without a sign. -/
namespace DocQuery
namespace Json.Reader

/-- How deep containers may be nested. -/
def maxDepth : Nat := 127

def isBlank (c : Char) : Bool := c == ' ' || c == '\n' || c == '\t' || c == '\r'

def skipBlanks (text : List Char) : List Char := text.dropWhile isBlank

/-! ### Numbers -/

/-- The leading digits that fit in 64 bits after `n`, and the digits left over. -/
def leadingDigits (n : Nat) : List Char → Nat × List Char
  | [] => (n, [])
  | c :: rest =>
    let next := n * 10 + Extended.digitValue c
    if next < 2 ^ 64 then leadingDigits next rest else (n, c :: rest)

/-- A real from its digits; a number too large for binary64 is refused. -/
def realOf? (negative : Bool) (whole fraction : List Char) (exponent : Int) : Option Number :=
  let (n, dropped) := leadingDigits 0 whole
  let (digits, ignored) := leadingDigits n fraction
  let places : Int := dropped.length - (fraction.length - ignored.length : Nat)
  match Extended.scaled negative digits (places + exponent) with
  | .finite x => some (.real x)
  | _ => none

/-- A number without point and exponent. -/
def wholeOf? (negative : Bool) (whole : List Char) : Option Number :=
  let n := Extended.digitsValue whole
  if negative then
    if 0 < n ∧ n ≤ 2 ^ 63 then some (.integer (-n)) else realOf? true whole [] 0
  else if n < 2 ^ 64 then some (.integer n)
  else realOf? false whole [] 0

/-- The digits after a point, if there is one; a point needs a digit after it. -/
def fractionPart? : List Char → Option (List Char × List Char)
  | '.' :: rest =>
    let digits := rest.takeWhile Char.isDigit
    if digits.isEmpty then none else some (digits, rest.dropWhile Char.isDigit)
  | text => some ([], text)

/-- The exponent, if there is one. -/
def exponentPart? (text : List Char) : Option (Option Int × List Char) :=
  match text with
  | c :: rest =>
    if c == 'e' || c == 'E' then
      let (negative, rest) := Extended.splitSign rest
      let digits := rest.takeWhile Char.isDigit
      let value : Int := Extended.digitsValue digits
      if digits.isEmpty then none
      else some (some (if negative then -value else value), rest.dropWhile Char.isDigit)
    else some (none, text)
  | [] => some (none, [])

/-- A number at the start of the text. A leading zero stands alone. -/
def number? (text : List Char) : Option (Number × List Char) := do
  let (negative, text) := match text with
    | '-' :: rest => (true, rest)
    | _ => (false, text)
  let whole := text.takeWhile Char.isDigit
  if whole.isEmpty || (whole.head? == some '0' && 1 < whole.length) then none
  else
    let (fraction, rest) ← fractionPart? (text.dropWhile Char.isDigit)
    let (exponent, rest) ← exponentPart? rest
    let n ← if fraction.isEmpty && exponent.isNone then wholeOf? negative whole
      else realOf? negative whole fraction (exponent.getD 0)
    some (n, rest)

/-! ### Strings -/

def hexValue? (c : Char) : Option Nat :=
  if c.isDigit then some (c.toNat - '0'.toNat)
  else if 'a' ≤ c ∧ c ≤ 'f' then some (c.toNat - 'a'.toNat + 10)
  else if 'A' ≤ c ∧ c ≤ 'F' then some (c.toNat - 'A'.toNat + 10)
  else none

/-- Four hexadecimal digits. -/
def codeUnit? : List Char → Option (Nat × List Char)
  | a :: b :: c :: d :: rest => do
    let a ← hexValue? a
    let b ← hexValue? b
    let c ← hexValue? c
    let d ← hexValue? d
    some (((a * 16 + b) * 16 + c) * 16 + d, rest)
  | _ => none

/-- The character of a `u` escape, two escapes for one past `0xFFFF`. A surrogate that
is not one of a pair is refused. -/
def unicodeEscape? (text : List Char) : Option (Char × List Char) := do
  let (unit, rest) ← codeUnit? text
  if 0xD800 ≤ unit ∧ unit < 0xDC00 then
    match rest with
    | '\\' :: 'u' :: rest =>
      let (low, rest) ← codeUnit? rest
      if 0xDC00 ≤ low ∧ low < 0xE000 then
        some (Char.ofNat (0x10000 + (unit - 0xD800) * 0x400 + (low - 0xDC00)), rest)
      else none
    | _ => none
  else if 0xDC00 ≤ unit ∧ unit < 0xE000 then none
  else some (Char.ofNat unit, rest)

/-- What follows a backslash. -/
def escape? : List Char → Option (Char × List Char)
  | [] => none
  | c :: rest =>
    match c with
    | '"' | '\\' | '/' => some (c, rest)
    | 'b' => some ('\x08', rest)
    | 'f' => some ('\x0c', rest)
    | 'n' => some ('\n', rest)
    | 'r' => some ('\r', rest)
    | 't' => some ('\t', rest)
    | 'u' => unicodeEscape? rest
    | _ => none

/-- The rest of a string after its opening quote; `read` holds what came before, last
character first. -/
def stringRest? : Nat → List Char → List Char → Option (String × List Char)
  | 0, _, _ => none
  | fuel + 1, read, text =>
    match text with
    | [] => none
    | '"' :: rest => some (String.ofList read.reverse, rest)
    | '\\' :: rest =>
      match escape? rest with
      | some (c, rest) => stringRest? fuel (c :: read) rest
      | none => none
    | c :: rest => if c.toNat < 0x20 then none else stringRest? fuel (c :: read) rest

/-! ### Values -/

def word? (word : List Char) (value : Json) (text : List Char) : Option (Json × List Char) :=
  if word.isPrefixOf text then some (value, text.drop word.length) else none

mutual

/-- A value at the start of the text. Between two characters there are at most two calls, so
twice the length of the text is fuel enough. -/
def value? : Nat → Nat → List Char → Option (Json × List Char)
  | 0, _, _ => none
  | fuel + 1, depth, text =>
    match text with
    | '"' :: rest =>
      match stringRest? (fuel + 1) [] rest with
      | some (s, rest) => some (.string s, rest)
      | none => none
    | '[' :: rest =>
      if depth = 0 then none
      else
        match skipBlanks rest with
        | ']' :: rest => some (.array [], rest)
        | rest => items? fuel (depth - 1) [] rest
    | '\x7b' :: rest =>
      if depth = 0 then none
      else
        match skipBlanks rest with
        | '\x7d' :: rest => some (.object [], rest)
        | rest => fields? fuel (depth - 1) [] rest
    | 'n' :: _ => word? ['n', 'u', 'l', 'l'] .null text
    | 't' :: _ => word? ['t', 'r', 'u', 'e'] (.bool true) text
    | 'f' :: _ => word? ['f', 'a', 'l', 's', 'e'] (.bool false) text
    | _ =>
      match number? text with
      | some (n, rest) => some (.number n, rest)
      | none => none

/-- The items from here to the closing bracket; `read` holds those before, last first. -/
def items? : Nat → Nat → List Json → List Char → Option (Json × List Char)
  | 0, _, _, _ => none
  | fuel + 1, depth, read, text =>
    match value? fuel depth text with
    | none => none
    | some (item, rest) =>
      match skipBlanks rest with
      | ',' :: rest => items? fuel depth (item :: read) (skipBlanks rest)
      | ']' :: rest => some (.array (item :: read).reverse, rest)
      | _ => none

/-- The fields from here to the closing brace. -/
def fields? : Nat → Nat → Fields Json → List Char → Option (Json × List Char)
  | 0, _, _, _ => none
  | fuel + 1, depth, read, text =>
    match text with
    | '"' :: rest =>
      match stringRest? (fuel + 1) [] rest with
      | none => none
      | some (key, rest) =>
        match skipBlanks rest with
        | ':' :: rest =>
          match value? fuel depth (skipBlanks rest) with
          | none => none
          | some (value, rest) =>
            let read := read.insert key value
            match skipBlanks rest with
            | ',' :: rest => fields? fuel depth read (skipBlanks rest)
            | '\x7d' :: rest => some (.object read, rest)
            | _ => none
        | _ => none
    | _ => none

end

end Json.Reader

/-- The value that a text holds, if it holds exactly one. -/
def Json.read? (text : String) : Option Json :=
  let chars := Json.Reader.skipBlanks text.toList
  match Json.Reader.value? (2 * chars.length + 2) Json.Reader.maxDepth chars with
  | some (value, rest) => if (Json.Reader.skipBlanks rest).isEmpty then some value else none
  | none => none

end DocQuery
