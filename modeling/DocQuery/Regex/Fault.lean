/-! What is wrong with a pattern.

A pattern that cannot be used has a stretch that shows why, or two of them where
something is written twice. A pattern that can be read can still be too large. -/
namespace DocQuery.Regex

/-- A stretch of a pattern, by the places of its first character and of the one after its
last. -/
structure Span where
  start : Nat
  stop : Nat
  deriving DecidableEq, Repr, Inhabited

inductive Reason where
  -- Sets in brackets.
  | setUnclosed | setEscape | rangeOrder | rangeEnd
  -- Escapes.
  | escapeUnfinished | escapeUnknown | hexEmpty | hexDigit | hexNoCharacter | propertyEscape
  | backreference
  -- Boundaries of words by name.
  | boundaryUnfinished | boundaryUnclosed | boundaryUnknown
  -- Repetitions.
  | nothingRepeated | countUnclosed | countMissing | countTooGreat | countOrder
  -- Groups.
  | groupUnclosed | groupUnopened | groupLooksAround
  | nameEmpty | nameUnclosed | nameCharacter | nameTwice
  | flagUnfinished | flagUnknown | flagTwice | negationTwice | negationDangling
  | tooDeep (limit : Nat)
  -- Meanings.
  | notUnicode | notText | propertyUnknown | valueUnknown
  deriving DecidableEq, Repr

namespace Reason

def text : Reason → String
  | setUnclosed => "unclosed character class"
  | setEscape => "invalid escape sequence found in character class"
  | rangeOrder => "invalid character class range, the start must be <= the end"
  | rangeEnd => "invalid range boundary, must be a literal"
  | escapeUnfinished => "incomplete escape sequence, reached end of pattern prematurely"
  | escapeUnknown => "unrecognized escape sequence"
  | hexEmpty => "hexadecimal literal empty"
  | hexDigit => "invalid hexadecimal digit"
  | hexNoCharacter => "hexadecimal literal is not a Unicode scalar value"
  | propertyEscape => "invalid Unicode character class"
  | backreference => "backreferences are not supported"
  | boundaryUnfinished =>
    "found either the beginning of a special word boundary or a bounded repetition on a " ++
      "\\b with an opening brace, but no closing brace"
  | boundaryUnclosed =>
    "special word boundary assertion is either unclosed or contains an invalid character"
  | boundaryUnknown =>
    "unrecognized special word boundary assertion, valid choices are: start, end, " ++
      "start-half or end-half"
  | nothingRepeated => "repetition operator missing expression"
  | countUnclosed => "unclosed counted repetition"
  | countMissing => "repetition quantifier expects a valid decimal"
  | countTooGreat => "decimal literal invalid"
  | countOrder => "invalid repetition count range, the start must be <= the end"
  | groupUnclosed => "unclosed group"
  | groupUnopened => "unopened group"
  | groupLooksAround => "look-around, including look-ahead and look-behind, is not supported"
  | nameEmpty => "empty capture group name"
  | nameUnclosed => "unclosed capture group name"
  | nameCharacter => "invalid capture group character"
  | nameTwice => "duplicate capture group name"
  | flagUnfinished => "expected flag but got end of regex"
  | flagUnknown => "unrecognized flag"
  | flagTwice => "duplicate flag"
  | negationTwice => "flag negation operator repeated"
  | negationDangling => "dangling flag negation operator"
  | tooDeep limit =>
    "exceed the maximum number of nested parentheses/brackets (" ++ toString limit ++ ")"
  | notUnicode => "Unicode not allowed here"
  | notText => "pattern can match invalid UTF-8"
  | propertyUnknown => "Unicode property not found"
  | valueUnknown => "Unicode property value not found"

end Reason

inductive Fault where
  /-- The stretches that show the reason, the one that came up last first. -/
  | invalid (reason : Reason) (spans : List Span)
  | tooLarge
  deriving DecidableEq, Repr

end DocQuery.Regex
