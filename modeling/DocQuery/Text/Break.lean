import DocQuery.Text.Kind

/-! Breaks between characters, words and sentences.

For each of the three a character has one value, by which it joins its neighbours or
parts from them. Values are listed with a short name and a long one. -/
namespace DocQuery.Text

/-- The characters of one value of a property. -/
structure Value where
  short : String
  long : String
  trait : Trait

namespace Break

open Trait

def one (code : Nat) : Trait := .ranges [(code, code)]

def emojiModifier : Trait := .ranges [(0x1F3FB, 0x1F3FF)]

def regionalIndicator : Trait := .ranges [(0x1F1E6, 0x1F1FF)]

/-! ### Characters -/

/-- The syllables of Korean script without a final consonant, which come every 28 code
points. -/
def openSyllables : Trait :=
  .ranges ((List.range 399).map fun i => (0xAC00 + 28 * i, 0xAC00 + 28 * i))

/-- Marks that take a place of their own but stand with their letter. -/
def detached : Trait := .ranges [
  (0x102B, 0x102C), (0x1038, 0x1038), (0x1062, 0x1064), (0x1067, 0x106D), (0x1083, 0x1083),
  (0x1087, 0x108C), (0x108F, 0x108F), (0x109A, 0x109C), (0x1A61, 0x1A61), (0x1A63, 0x1A64),
  (0xAA7B, 0xAA7B), (0xAA7D, 0xAA7D), (0x11720, 0x11721)]

/-- Consonants that stand before the one they are joined to. -/
def prefixed : Trait := .ranges [
  (0xD4E, 0xD4E), (0x111C2, 0x111C3), (0x113D1, 0x113D1), (0x1193F, 0x1193F),
  (0x11941, 0x11941), (0x11A3A, 0x11A3A), (0x11A84, 0x11A89), (0x11D46, 0x11D46),
  (0x11F02, 0x11F02)]

def extend : Trait := .either graphemeExtend emojiModifier

def graphemeValues : List Value := [
  ⟨"CN", "Control",
    .except (oneOf [.category ["Zl", "Zp", "Cc", "Cf"],
        .both (.category ["Cn"]) ignorable])
      (oneOf [.ranges [(0xA, 0xA), (0xD, 0xD), (0x200C, 0x200D)], prependedMark, extend])⟩,
  ⟨"CR", "CR", one 0xD⟩, ⟨"EX", "Extend", extend⟩,
  ⟨"L", "L", .ranges [(0x1100, 0x115F), (0xA960, 0xA97C)]⟩, ⟨"LF", "LF", one 0xA⟩,
  ⟨"LV", "LV", openSyllables⟩, ⟨"LVT", "LVT", .except (.ranges [(0xAC00, 0xD7A3)]) openSyllables⟩,
  ⟨"PP", "Prepend", .either prependedMark prefixed⟩,
  ⟨"RI", "Regional_Indicator", regionalIndicator⟩,
  ⟨"SM", "SpacingMark",
    .except (.either (.category ["Mc"]) (.ranges [(0xE33, 0xE33), (0xEB3, 0xEB3)]))
      (.either extend detached)⟩,
  ⟨"T", "T", .ranges [(0x11A8, 0x11FF), (0xD7CB, 0xD7FB)]⟩,
  ⟨"V", "V",
    .ranges [(0x1160, 0x11A7), (0xD7B0, 0xD7C6), (0x16D63, 0x16D63), (0x16D67, 0x16D6A)]⟩,
  ⟨"ZWJ", "ZWJ", one 0x200D⟩]

/-! ### Words -/

/-- Letters of scripts that are written without spaces. -/
def unspaced : Trait := .ranges [
    (0xE01, 0xE3A), (0xE40, 0xE4E), (0xE81, 0xE82), (0xE84, 0xE84), (0xE86, 0xE8A),
    (0xE8C, 0xEA3), (0xEA5, 0xEA5), (0xEA7, 0xEBD), (0xEC0, 0xEC4), (0xEC6, 0xEC6),
    (0xEC8, 0xECE), (0xEDC, 0xEDF), (0x1000, 0x103F), (0x1050, 0x108F), (0x109A, 0x109F),
    (0x1780, 0x17D3), (0x17D7, 0x17D7), (0x17DC, 0x17DD), (0x1950, 0x196D), (0x1970, 0x1974),
    (0x1980, 0x19AB), (0x19B0, 0x19C9), (0x19DA, 0x19DA), (0x19DE, 0x19DF), (0x1A20, 0x1A5E),
    (0x1A60, 0x1A7C), (0x1AA0, 0x1AAD), (0xA9E0, 0xA9EF), (0xA9FA, 0xA9FE), (0xAA60, 0xAAC2),
    (0xAADB, 0xAADF), (0x11700, 0x1171A), (0x1171D, 0x1172B), (0x1173A, 0x1173B),
    (0x1173F, 0x11746)]

/-- Marks that count as letters of words. -/
def letterLike : Trait := .ranges [
  (0x2C2, 0x2C5), (0x2D2, 0x2D7), (0x2DE, 0x2DF), (0x2E5, 0x2EB), (0x2ED, 0x2ED),
  (0x2EF, 0x2FF), (0x55A, 0x55C), (0x55E, 0x55E), (0x58A, 0x58A), (0x5F3, 0x5F3),
  (0x70F, 0x70F), (0xA708, 0xA716), (0xA720, 0xA721), (0xA789, 0xA78A), (0xAB5B, 0xAB5B)]

/-- Letters and marks that extend what comes before them. -/
def wordExtend : Trait :=
  .except (oneOf [graphemeExtend, .category ["Mc"], emojiModifier]) (one 0x200D)

def katakana : Trait :=
  .either (.script "Kana") <| .ranges [
    (0x3031, 0x3035), (0x309B, 0x309C), (0x30A0, 0x30A0), (0x30FC, 0x30FC), (0xFF70, 0xFF70)]

def hebrewLetter : Trait := .both (.script "Hebr") (.category ["Lo"])

/-- Digits, and the marks that span them. -/
def numeric : Trait :=
  oneOf [.category ["Nd"], one 0x66B, .except prependedMark (one 0x70F)]

def wordValues : List Value := [
  ⟨"CR", "CR", one 0xD⟩, ⟨"DQ", "Double_Quote", one 0x22⟩,
  ⟨"EX", "ExtendNumLet", .either (.category ["Pc"]) (one 0x202F)⟩,
  ⟨"Extend", "Extend", wordExtend⟩,
  ⟨"FO", "Format", .except (.category ["Cf"])
    (oneOf [.ranges [(0x200B, 0x200D)], prependedMark, wordExtend])⟩,
  ⟨"HL", "Hebrew_Letter", hebrewLetter⟩, ⟨"KA", "Katakana", katakana⟩,
  ⟨"LE", "ALetter", .except (.either alphabetic letterLike)
    (oneOf [.listed Table.ideographic, katakana, unspaced, .script "Hira", wordExtend,
      hebrewLetter])⟩,
  ⟨"LF", "LF", one 0xA⟩,
  ⟨"MB", "MidNumLet", .ranges [(0x2E, 0x2E), (0x2018, 0x2019), (0x2024, 0x2024),
    (0xFE52, 0xFE52), (0xFF07, 0xFF07), (0xFF0E, 0xFF0E)]⟩,
  ⟨"ML", "MidLetter", .ranges [(0x3A, 0x3A), (0xB7, 0xB7), (0x387, 0x387), (0x55F, 0x55F),
    (0x5F4, 0x5F4), (0x2027, 0x2027), (0xFE13, 0xFE13), (0xFE55, 0xFE55), (0xFF1A, 0xFF1A)]⟩,
  ⟨"MN", "MidNum", .ranges [(0x2C, 0x2C), (0x3B, 0x3B), (0x37E, 0x37E), (0x589, 0x589),
    (0x60C, 0x60D), (0x66C, 0x66C), (0x7F8, 0x7F8), (0x2044, 0x2044), (0xFE10, 0xFE10),
    (0xFE14, 0xFE14), (0xFE50, 0xFE50), (0xFE54, 0xFE54), (0xFF0C, 0xFF0C), (0xFF1B, 0xFF1B)]⟩,
  ⟨"NL", "Newline", .ranges [(0xB, 0xC), (0x85, 0x85), (0x2028, 0x2029)]⟩,
  ⟨"NU", "Numeric", numeric⟩, ⟨"RI", "Regional_Indicator", regionalIndicator⟩,
  ⟨"SQ", "Single_Quote", one 0x27⟩,
  ⟨"WSegSpace", "WSegSpace",
    .except (.category ["Zs"]) (.ranges [(0xA0, 0xA0), (0x2007, 0x2007), (0x202F, 0x202F)])⟩,
  ⟨"ZWJ", "ZWJ", one 0x200D⟩]

/-! ### Sentences -/

def sentenceExtend : Trait := oneOf [graphemeExtend, .category ["Mc"], one 0x200D]

/-- Letters of Georgian, which has no sentences that begin with capitals. -/
def georgianLower : Trait := .ranges [(0x10D0, 0x10FA), (0x10FD, 0x10FF)]

def georgianUpper : Trait := .ranges [(0x1C90, 0x1CBA), (0x1CBD, 0x1CBF)]

def sentenceLower : Trait := .except lowercase (.either sentenceExtend georgianLower)

def sentenceUpper : Trait := .except (.either uppercase (.category ["Lt"])) georgianUpper

def aTerm : Trait := .ranges [(0x2E, 0x2E), (0x2024, 0x2024), (0xFE52, 0xFE52), (0xFF0E, 0xFF0E)]

def sentenceStop : Trait := .except (.listed Table.sentenceTerminal) aTerm

/-- Quotation marks that are not paired by category. -/
def quotes : Trait := .ranges [
  (0x22, 0x22), (0x27, 0x27), (0x275B, 0x2760), (0x2E00, 0x2E01), (0x2E06, 0x2E08),
  (0x2E0B, 0x2E0B), (0x1F676, 0x1F678)]

def sentenceValues : List Value := [
  ⟨"AT", "ATerm", aTerm⟩,
  ⟨"CL", "Close", .except (.either (.category ["Ps", "Pe", "Pi", "Pf"]) quotes)
    (.either aTerm sentenceStop)⟩,
  ⟨"CR", "CR", one 0xD⟩, ⟨"EX", "Extend", sentenceExtend⟩,
  ⟨"FO", "Format", .except (.category ["Cf"])
    (oneOf [sentenceExtend, .ranges [(0x200C, 0x200D)], .except prependedMark (one 0x70F)])⟩,
  ⟨"LE", "OLetter", .except (.either alphabetic (one 0x5F3))
    (oneOf [sentenceLower, sentenceUpper, sentenceExtend])⟩,
  ⟨"LF", "LF", one 0xA⟩, ⟨"LO", "Lower", sentenceLower⟩,
  ⟨"NU", "Numeric", .either numeric (one 0x66C)⟩,
  ⟨"SC", "SContinue", .ranges [(0x2C, 0x2D), (0x3A, 0x3B), (0x37E, 0x37E), (0x55D, 0x55D),
    (0x60C, 0x60D), (0x7F8, 0x7F8), (0x1802, 0x1802), (0x1808, 0x1808), (0x2013, 0x2014),
    (0x3001, 0x3001), (0xFE10, 0xFE11), (0xFE13, 0xFE14), (0xFE31, 0xFE32), (0xFE50, 0xFE51),
    (0xFE54, 0xFE55), (0xFE58, 0xFE58), (0xFE63, 0xFE63), (0xFF0C, 0xFF0D), (0xFF1A, 0xFF1B),
    (0xFF64, 0xFF64)]⟩,
  ⟨"SE", "Sep", .ranges [(0x85, 0x85), (0x2028, 0x2029)]⟩,
  ⟨"SP", "Sp", .except whiteSpace
    (.ranges [(0xA, 0xA), (0xD, 0xD), (0x85, 0x85), (0x2028, 0x2029)])⟩,
  ⟨"ST", "STerm", sentenceStop⟩, ⟨"UP", "Upper", sentenceUpper⟩]

end Break

end DocQuery.Text
