/-! Tables of the character standard.

A table says what holds for every code point, from zero upward, in runs of code points
for which the same holds. A run is written as a code of letters or signs and the number
of its code points. -/
namespace DocQuery.Text

/-- Code points `first` to `last`, for which the same holds. -/
structure Run where
  code : String
  first : Nat
  last : Nat
  deriving Repr

namespace Run

/-- Reads runs from a place on. `letters` holds a code that is being read, last letter
first, and `count` the length read so far. -/
def read : List Char → (start count : Nat) → (letters : List Char) → Array Run → Array Run
  | [], start, count, letters, runs =>
    runs.push ⟨String.ofList letters.reverse, start, start + count - 1⟩
  | c :: rest, start, count, letters, runs =>
    if c.isDigit then read rest start (count * 10 + (c.toNat - '0'.toNat)) letters runs
    else if count = 0 then read rest start 0 (c :: letters) runs
    else
      read rest (start + count) 0 [c]
        (runs.push ⟨String.ofList letters.reverse, start, start + count - 1⟩)

/-- The runs that the lines of a table write. -/
def table (lines : List String) : Array Run := read (lines.flatMap String.toList) 0 0 [] #[]

/-- The last run in `low .. high` that begins at or before the code point. -/
def find (runs : Array Run) (code : Nat) : (fuel low high : Nat) → Nat
  | 0, low, _ => low
  | fuel + 1, low, high =>
    if high ≤ low + 1 then low
    else
      let middle := (low + high) / 2
      match runs[middle]? with
      | some run => if run.first ≤ code then find runs code fuel middle high
        else find runs code fuel low middle
      | none => low

/-- The code of a code point. -/
def codeOf (runs : Array Run) (code : Nat) : Option String :=
  match runs[find runs code 16 0 runs.size]? with
  | some run => if code ≤ run.last then some run.code else none
  | none => none

end Run

end DocQuery.Text
