import DocQuery.Text.CharSet

/-! Ranges of characters as ranges of bytes.

In UTF-8 a character takes one byte to four. A range of characters is cut into ranges
whose characters are exactly those with a first byte in one range, a second byte in
another, and so on. -/
namespace DocQuery.Text

/-- First and last byte. -/
abbrev ByteRange := Nat × Nat

namespace ByteRange

/-- The bytes of a character by its code point. -/
def encode (code : Nat) : List Nat :=
  (String.utf8EncodeChar (Char.ofNat code)).map UInt8.toNat

/-- The parts of a range of code points before a border and from it on. -/
def cutAt (border : Nat) (range : Nat × Nat) : List (Nat × Nat) :=
  if range.1 < border && border ≤ range.2 then [(range.1, border - 1), (border, range.2)]
  else [range]

/-- Parts of a range without surrogates, in each of which all characters take equally many
bytes. -/
def ofOneLength (range : Nat × Nat) : List (Nat × Nat) :=
  let parts := [0x80, 0x800, 0xD800, 0xE000, 0x10000].foldl
    (fun parts border => parts.flatMap (cutAt border)) [range]
  parts.filter fun (low, _) => low < 0xD800 || 0xE000 ≤ low

/-- Cuts a range at the ends of the blocks that it only covers in part, first of the
smaller blocks and then of the larger ones. -/
def cutBlocks : (blocks : List Nat) → (low high : Nat) → List (Nat × Nat)
  | [], low, high => [(low, high)]
  | block :: larger, low, high =>
    if low / block = high / block then [(low, high)]
    else
      let (before, low) :=
        if low % block = 0 then ([], low)
        else ([(low, low / block * block + (block - 1))], (low / block + 1) * block)
      let (after, high) :=
        if (high + 1) % block = 0 then ([], high)
        else ([(high / block * block, high)], high / block * block - 1)
      before ++ (if low ≤ high then cutBlocks larger low high else []) ++ after

/-- The ranges of bytes of a range of code points, in the order of the characters. A
byte after the first one has six bits of the character. -/
def ofCodes (range : Nat × Nat) : List (List ByteRange) :=
  let parts := (ofOneLength range).flatMap fun (low, high) =>
    if high < 0x80 then [(low, high)] else cutBlocks [64, 4096, 262144] low high
  parts.map fun (low, high) => (encode low).zip (encode high)

end ByteRange

/-- The ranges of bytes of a set, in the order of the characters. -/
def CharSet.byteRanges (set : CharSet) : List (List ByteRange) :=
  set.ranges.flatMap ByteRange.ofCodes

end DocQuery.Text
