import DocQuery.Json.Value
import DocQuery.Number.Decimal
import DocQuery.Text.Printable

/-! JSON text.

`compact` has no spaces and `pretty` puts every item on a line of its own with two
spaces of indentation for each level. `inspect` names the kind of every value and is
used where a message shows a value that should have been something else. -/
namespace DocQuery

/-- Integers in digits; a real always shows a point or an exponent. -/
def Number.text : Number → String
  | .integer n => toString n
  | .real x => x.markedText

namespace Json

/-! ### Strings -/

def hexDigits (n : Nat) : List Char := Nat.toDigits 16 n

/-- The letter after the backslash of a short escape. -/
def shortEscape? (c : Char) : Option Char :=
  match c.toNat with
  | 0x22 => some '"'
  | 0x5C => some '\\'
  | 0x08 => some 'b'
  | 0x0C => some 'f'
  | 0x0A => some 'n'
  | 0x0D => some 'r'
  | 0x09 => some 't'
  | _ => none

/-- A control character has four hexadecimal digits unless it has a letter. -/
def escaped (c : Char) : List Char :=
  match shortEscape? c with
  | some letter => ['\\', letter]
  | none =>
    if c.toNat < 0x20 then
      let digits := hexDigits c.toNat
      '\\' :: 'u' :: (List.replicate (4 - digits.length) '0' ++ digits)
    else [c]

def quoted (s : String) : String :=
  String.ofList ('"' :: (s.toList.flatMap escaped ++ ['"']))

/-! ### Compact text -/

mutual

def compactAfter (text : String) : Json → String
  | .null => text ++ "null"
  | .bool b => text ++ if b then "true" else "false"
  | .number n => text ++ n.text
  | .string s => text ++ quoted s
  | .array items => compactItems (text ++ "[") true items ++ "]"
  | .object fields => compactFields (text ++ "\x7b") true fields ++ "\x7d"

def compactItems (text : String) (first : Bool) : List Json → String
  | [] => text
  | item :: rest =>
    compactItems (compactAfter (if first then text else text ++ ",") item) false rest

def compactFields (text : String) (first : Bool) : List (String × Json) → String
  | [] => text
  | (key, value) :: rest =>
    compactFields
      (compactAfter ((if first then text else text ++ ",") ++ quoted key ++ ":") value) false rest

end

def compact (value : Json) : String := compactAfter "" value

/-! ### Indented text -/

def newline (level : Nat) : String := String.ofList ('\n' :: List.replicate (2 * level) ' ')

mutual

def prettyAfter (text : String) (level : Nat) : Json → String
  | .array [] => text ++ "[]"
  | .array (item :: rest) =>
    prettyItems (prettyAfter (text ++ "[" ++ newline (level + 1)) (level + 1) item) level rest
      ++ newline level ++ "]"
  | .object [] => text ++ "\x7b\x7d"
  | .object ((key, value) :: rest) =>
    prettyFields
      (prettyAfter (text ++ "\x7b" ++ newline (level + 1) ++ quoted key ++ ": ") (level + 1) value)
      level rest ++ newline level ++ "\x7d"
  | value => compactAfter text value

def prettyItems (text : String) (level : Nat) : List Json → String
  | [] => text
  | item :: rest =>
    prettyItems (prettyAfter (text ++ "," ++ newline (level + 1)) (level + 1) item) level rest

def prettyFields (text : String) (level : Nat) : List (String × Json) → String
  | [] => text
  | (key, value) :: rest =>
    prettyFields
      (prettyAfter (text ++ "," ++ newline (level + 1) ++ quoted key ++ ": ") (level + 1) value)
      level rest

end

def pretty (value : Json) : String := prettyAfter "" 0 value

/-! ### Text that shows the kinds -/

/-- A character as it stands in shown text: what cannot be seen is a code in braces. -/
def shownChar (c : Char) : List Char :=
  match c.toNat with
  | 0x00 => ['\\', '0']
  | 0x09 => ['\\', 't']
  | 0x0A => ['\\', 'n']
  | 0x0D => ['\\', 'r']
  | 0x22 => ['\\', '"']
  | 0x5C => ['\\', '\\']
  | code =>
    if Text.isPrintable c then [c]
    else '\\' :: 'u' :: '\x7b' :: (hexDigits code ++ ['\x7d'])

def shownString (s : String) : String :=
  String.ofList ('"' :: (s.toList.flatMap shownChar ++ ['"']))

mutual

def inspect : Json → String
  | .null => "Null"
  | .bool b => "Bool(" ++ (if b then "true" else "false") ++ ")"
  | .number n => "Number(" ++ n.text ++ ")"
  | .string s => "String(" ++ shownString s ++ ")"
  | .array items => "Array [" ++ inspectItems true items ++ "]"
  | .object fields => "Object \x7b" ++ inspectFields true fields ++ "\x7d"

def inspectItems (first : Bool) : List Json → String
  | [] => ""
  | item :: rest => (if first then "" else ", ") ++ inspect item ++ inspectItems false rest

def inspectFields (first : Bool) : List (String × Json) → String
  | [] => ""
  | (key, value) :: rest =>
    (if first then "" else ", ") ++ shownString key ++ ": " ++ inspect value
      ++ inspectFields false rest

end

end Json

end DocQuery
