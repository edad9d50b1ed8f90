import DocQuery.Text.Trait

/-! Letters.

What counts as a letter, as upper case or lower case, or as part of a word is made of
categories and of tables of further characters. -/
namespace DocQuery.Text

namespace Trait

def lowercase : Trait := .either (.category ["Ll"]) (.listed Table.otherLowercase)

def uppercase : Trait := .either (.category ["Lu"]) (.listed Table.otherUppercase)

def cased : Trait := oneOf [lowercase, uppercase, .category ["Lt"]]

def alphabetic : Trait :=
  oneOf [.category ["L", "Nl"], lowercase, uppercase, .listed Table.otherAlphabetic]

/-- Marks and punctuation that stand inside words. -/
def caseIgnorable : Trait :=
  .either (.category ["Mn", "Me", "Cf", "Lm", "Sk"]) <| .ranges [
    (0x27, 0x27), (0x2E, 0x2E), (0x3A, 0x3A), (0xB7, 0xB7), (0x387, 0x387), (0x55F, 0x55F),
    (0x5F4, 0x5F4), (0x2018, 0x2019), (0x2024, 0x2024), (0x2027, 0x2027), (0xFE13, 0xFE13),
    (0xFE52, 0xFE52), (0xFE55, 0xFE55), (0xFF07, 0xFF07), (0xFF0E, 0xFF0E), (0xFF1A, 0xFF1A)]

/-- What joins the character before it. -/
def graphemeExtend : Trait :=
  .either (.category ["Mn", "Me"]) (.listed Table.otherGraphemeExtend)

def whiteSpace : Trait := .ranges [
  (0x9, 0xD), (0x20, 0x20), (0x85, 0x85), (0xA0, 0xA0), (0x1680, 0x1680), (0x2000, 0x200A),
  (0x2028, 0x2029), (0x202F, 0x202F), (0x205F, 0x205F), (0x3000, 0x3000)]

/-- Characters of identifiers: letters with all their marks, digits, connectors and
joiners. -/
def word : Trait :=
  oneOf [alphabetic, .category ["M", "Nd", "Pc"], .ranges [(0x200C, 0x200D)]]

/-! ### Case mappings -/

def changesWhenLowercased : Trait :=
  .either (.moved lowerRuns) (.ranges [(0x130, 0x130)])

def changesWhenUppercased : Trait :=
  .either (.moved upperRuns) (.ranges (severalUpper.map fun entry => (entry.1, entry.1)))

/-- Like upper case, but digraphs have a form of their own, and Georgian has none. -/
def changesWhenTitlecased : Trait :=
  .either (.except changesWhenUppercased (.either (.category ["Lt"]) (.ranges [(0x10D0, 0x10FF)])))
    (.ranges [(0x1C4, 0x1C4), (0x1C7, 0x1C7), (0x1CA, 0x1CA), (0x1F1, 0x1F1)])

/-- Like lower case, but Cherokee is folded to its capitals, and variants to the letters
that they vary. -/
def changesWhenCasefolded : Trait :=
  .either (.except changesWhenLowercased (.ranges [(0x13A0, 0x13F5)])) <| .ranges [
    (0xB5, 0xB5), (0xDF, 0xDF), (0x149, 0x149), (0x17F, 0x17F), (0x345, 0x345), (0x3C2, 0x3C2),
    (0x3D0, 0x3D1), (0x3D5, 0x3D6), (0x3F0, 0x3F1), (0x3F5, 0x3F5), (0x587, 0x587),
    (0x13F8, 0x13FD), (0x1C80, 0x1C88), (0x1E9A, 0x1E9B), (0x1F80, 0x1F87), (0x1F90, 0x1F97),
    (0x1FA0, 0x1FA7), (0x1FB2, 0x1FB4), (0x1FB7, 0x1FB7), (0x1FC2, 0x1FC4), (0x1FC7, 0x1FC7),
    (0x1FF2, 0x1FF4), (0x1FF7, 0x1FF7), (0xAB70, 0xABBF), (0xFB00, 0xFB06), (0xFB13, 0xFB17)]

def changesWhenCasemapped : Trait :=
  oneOf [changesWhenLowercased, changesWhenUppercased, changesWhenTitlecased]

end Trait

/-! ### Single characters -/

/-- Characters of the latest edition. -/
def alphabeticSet : CharSet := Trait.alphabetic.set .latest

def casedSet : CharSet := Trait.cased.set .latest

def caseIgnorableSet : CharSet := Trait.caseIgnorable.set .latest

def isAlphabetic (c : Char) : Bool := alphabeticSet.has c

def isNumeric (c : Char) : Bool := hasCategory ["N"] c

/-- A letter that has a case. -/
def isCased (c : Char) : Bool := casedSet.has c

def isCaseIgnorable (c : Char) : Bool := caseIgnorableSet.has c

end DocQuery.Text
