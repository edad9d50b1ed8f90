import DocQuery.Regex.Property

/-! Sets of characters by short names.

Three sets are named by a letter after a backslash, and some more by a word inside
brackets and colons. -/
namespace DocQuery.Regex

/-- The set of a letter: `d`, `s` or `w`. -/
inductive Letters where
  | digit | blank | word
  deriving DecidableEq, Repr

namespace Letters

def digitSet : Text.CharSet := Text.categorySet Property.edition ["Nd"]

def blankSet : Text.CharSet := Text.Trait.whiteSpace.set Property.edition

def wordSet : Text.CharSet := Text.Trait.word.set Property.edition

/-- The characters of the set that are in ASCII. -/
def ascii : Letters → Text.CharSet
  | digit => ⟨[(0x30, 0x39)]⟩
  | blank => ⟨[(0x09, 0x0D), (0x20, 0x20)]⟩
  | word => ⟨[(0x30, 0x39), (0x41, 0x5A), (0x5F, 0x5F), (0x61, 0x7A)]⟩

def set : Letters → Text.CharSet
  | digit => digitSet
  | blank => blankSet
  | word => wordSet

end Letters

/-- The set of a word, as in `[:alpha:]`. -/
def wordedSet? (name : List Char) : Option Text.CharSet :=
  (table.find? fun entry => entry.1.toList == name).map fun entry => ⟨entry.2⟩
where
  table : List (String × List (Nat × Nat)) := [
    ("alnum", [(0x30, 0x39), (0x41, 0x5A), (0x61, 0x7A)]),
    ("alpha", [(0x41, 0x5A), (0x61, 0x7A)]),
    ("ascii", [(0, 0x7F)]),
    ("blank", [(0x09, 0x09), (0x20, 0x20)]),
    ("cntrl", [(0, 0x1F), (0x7F, 0x7F)]),
    ("digit", [(0x30, 0x39)]),
    ("graph", [(0x21, 0x7E)]),
    ("lower", [(0x61, 0x7A)]),
    ("print", [(0x20, 0x7E)]),
    ("punct", [(0x21, 0x2F), (0x3A, 0x40), (0x5B, 0x60), (0x7B, 0x7E)]),
    ("space", [(0x09, 0x0D), (0x20, 0x20)]),
    ("upper", [(0x41, 0x5A)]),
    ("word", [(0x30, 0x39), (0x41, 0x5A), (0x5F, 0x5F), (0x61, 0x7A)]),
    ("xdigit", [(0x30, 0x39), (0x41, 0x46), (0x61, 0x66)])]

end DocQuery.Regex
