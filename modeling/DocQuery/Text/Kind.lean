import DocQuery.Text.Letter

/-! Kinds of characters beside letters.

Identifiers, and characters that others can join or that are not shown, are made of
categories and tables. -/
namespace DocQuery.Text.Trait

/-! ### Identifiers -/

def patternWhiteSpace : Trait := .ranges [
  (0x9, 0xD), (0x20, 0x20), (0x85, 0x85), (0x200E, 0x200F), (0x2028, 0x2029)]

/-- Signs of formal languages. -/
def formal : Trait := .either (.reserved Table.patternSyntax) patternWhiteSpace

def otherIdStart : Trait := .ranges [
  (0x1885, 0x1886), (0x2118, 0x2118), (0x212E, 0x212E), (0x309B, 0x309C)]

def otherIdContinue : Trait := .ranges [
  (0xB7, 0xB7), (0x387, 0x387), (0x1369, 0x1371), (0x19DA, 0x19DA), (0x200C, 0x200D),
  (0x30FB, 0x30FB), (0xFF65, 0xFF65)]

/-- What can begin an identifier. -/
def idStart : Trait := .except (oneOf [.category ["L", "Nl"], otherIdStart]) formal

/-- What can stand in an identifier. -/
def idContinue : Trait :=
  .except (oneOf [idStart, .category ["Mn", "Mc", "Nd", "Pc"], otherIdContinue]) formal

/-- Parts of identifiers whose compatible forms are none. -/
def unstableParts : List (Nat × Nat) := [
  (0x37A, 0x37A), (0x309B, 0x309C), (0xFC5E, 0xFC63), (0xFDFA, 0xFDFB), (0xFE70, 0xFE70),
  (0xFE72, 0xFE72), (0xFE74, 0xFE74), (0xFE76, 0xFE76), (0xFE78, 0xFE78), (0xFE7A, 0xFE7A),
  (0xFE7C, 0xFE7C), (0xFE7E, 0xFE7E)]

def xidStart : Trait :=
  .except idStart (.ranges (unstableParts ++ [(0xE33, 0xE33), (0xEB3, 0xEB3), (0xFF9E, 0xFF9F)]))

def xidContinue : Trait := .except idContinue (.ranges unstableParts)

/-! ### Other kinds of characters -/

def variationSelector : Trait := .ranges [
  (0x180B, 0x180D), (0x180F, 0x180F), (0xFE00, 0xFE0F), (0xE0100, 0xE01EF)]

/-- Marks that stand before the digits or letters that they span. -/
def prependedMark : Trait := .ranges [
  (0x600, 0x605), (0x6DD, 0x6DD), (0x70F, 0x70F), (0x890, 0x891), (0x8E2, 0x8E2),
  (0x110BD, 0x110BD), (0x110CD, 0x110CD)]

/-- What is not shown when it is not supported. -/
def ignorable : Trait :=
  .except (oneOf [.reserved Table.otherIgnorable, .category ["Cf"], variationSelector])
    (oneOf [whiteSpace, prependedMark, .ranges [(0xFFF9, 0xFFFB), (0x13430, 0x13440)]])

/-- Characters that others can join. -/
def graphemeBase : Trait :=
  .except (.ranges [(0, CharSet.top)]) (.either (.category ["C", "Zl", "Zp"]) graphemeExtend)

def math : Trait := .either (.category ["Sm"]) (.listed Table.otherMath)

end DocQuery.Text.Trait
