import DocQuery.Number.Binary64

/-! Decimal text of binary64 numbers.

A number is written with the fewest significant digits that read back as the same
number; of two such decimals the nearer one is taken (`shortest`). Two layouts use
these digits: `plainText` never has an exponent and writes a whole number without a
point; `markedText` always shows that the number is not an integer, by a point or an
exponent.

Three readers give numbers back. `Extended.ofDecimal` is exact. `scaled` rounds twice,
once for the digits and once for the power of ten, as number literals are read.
`ofText?` reads the free form used when text is turned into a number. -/
namespace DocQuery

/-- Significant decimal digits and the exponent of the first of them. -/
structure Decimal where
  digits : List Char
  exponent : Int

namespace Binary64

/-! ### Shortest digits -/

/-- The least `k` from `start` on with `one ≤ magnitude · 10 ^ k`. -/
def leadingZeros (magnitude : Nat) : Nat → Nat → Nat
  | 0, k => k
  | fuel + 1, k => if one ≤ magnitude * 10 ^ k then k else leadingZeros magnitude fuel (k + 1)

/-- The decimal exponent of the first digit of a positive magnitude. The smallest
number is above `10 ^ (-324)`. -/
def decimalExponent (magnitude : Nat) : Int :=
  if one ≤ magnitude then ((toString (magnitude / one)).length : Int) - 1
  else -(leadingZeros magnitude 324 1 : Int)

/-- The magnitude as a fraction in units of `10 ^ grid`. -/
def onGrid (magnitude : Nat) (grid : Int) : Nat × Nat :=
  if grid < 0 then (magnitude * 10 ^ grid.natAbs, one)
  else (magnitude, one * 10 ^ grid.natAbs)

/-- A decimal that reads back as the positive magnitude. -/
def readsBack (magnitude digits : Nat) (grid : Int) : Bool :=
  match Extended.ofDecimal false digits grid with
  | .finite x => x.ulps == magnitude
  | _ => false

/-- The decimal with last place `10 ^ grid` that reads back as the magnitude and is
nearest to it. Only the two neighbours on the grid can do so. -/
def nearestOn (magnitude : Nat) (grid : Int) : Option Nat :=
  let (num, den) := onGrid magnitude grid
  let below := num / den
  match readsBack magnitude below grid, readsBack magnitude (below + 1) grid with
  | true, true => some (roundHalfEven num den)
  | true, false => some below
  | false, true => some (below + 1)
  | false, false => none

/-- The first grid, from coarse to fine, on which the magnitude reads back. -/
def shortestFrom (magnitude : Nat) : Nat → Int → Nat × Int
  | 0, grid => ((onGrid magnitude grid).1 / (onGrid magnitude grid).2, grid)
  | fuel + 1, grid =>
    match nearestOn magnitude grid with
    | some digits => (digits, grid)
    | none => shortestFrom magnitude fuel (grid - 1)

def dropTrailingZeros (digits : List Char) : List Char :=
  (digits.reverse.dropWhile (· == '0')).reverse

/-- The shortest decimal of a positive magnitude; seventeen digits always suffice. -/
def shortest (magnitude : Nat) : Decimal :=
  let (digits, grid) := shortestFrom magnitude 17 (decimalExponent magnitude)
  let text := (toString digits).toList
  ⟨dropTrailingZeros text, grid + text.length - 1⟩

/-! ### Layouts -/

/-- Digits around a point. `fraction` is written after a whole number. -/
def positional (d : Decimal) (fraction : List Char) : List Char :=
  if d.exponent < 0 then
    '0' :: '.' :: (List.replicate (d.exponent.natAbs - 1) '0' ++ d.digits)
  else
    let whole := d.exponent.natAbs + 1
    if d.digits.length ≤ whole then
      d.digits ++ List.replicate (whole - d.digits.length) '0' ++ fraction
    else d.digits.take whole ++ '.' :: d.digits.drop whole

/-- One digit before the point, and an exponent with its sign. -/
def scientific (d : Decimal) : List Char :=
  let mantissa := match d.digits with
    | [] => []
    | [c] => [c]
    | c :: rest => c :: '.' :: rest
  let mark := if d.exponent < 0 then ['e', '-'] else ['e', '+']
  mantissa ++ mark ++ (toString d.exponent.natAbs).toList

def signed (x : Binary64) (text : List Char) : String :=
  String.ofList (if x.negative then '-' :: text else text)

/-- No exponent, and no point after a whole number. -/
def plainText (x : Binary64) : String :=
  x.signed (if x.ulps = 0 then ['0'] else positional (shortest x.ulps) [])

/-- A point or an exponent is always written: positional from `10 ^ (-5)` to below
`10 ^ 16`, scientific outside. -/
def markedText (x : Binary64) : String :=
  x.signed <|
    if x.ulps = 0 then ['0', '.', '0']
    else
      let d := shortest x.ulps
      if -5 ≤ d.exponent ∧ d.exponent < 16 then positional d ['.', '0'] else scientific d

end Binary64

namespace Extended

/-- Infinities are `inf` and `-inf`. -/
def plainText : Extended → String
  | .finite x => x.plainText
  | .infinite negative => if negative then "-inf" else "inf"
  | .nan => "NaN"

/-! ### Readers -/

/-- Division by `10 ^ 308` until the exponent that is left is a power in range, or the
number is zero; three divisions bring any 64-bit integer to zero. -/
def scaledDown : Nat → Extended → Nat → Extended
  | 0, x, _ => x
  | fuel + 1, x, exponent =>
    if exponent ≤ 308 then x.div (ofDecimal false 1 exponent)
    else scaledDown fuel (x.div (ofDecimal false 1 308)) (exponent - 308)

/-- `digits · 10 ^ exponent` with the digits rounded first, then their product with, or
quotient by, the rounded power of ten. -/
def scaled (negative : Bool) (digits : Nat) (exponent : Int) : Extended :=
  let x := ofInt digits
  let magnitude :=
    if digits = 0 then x
    else if exponent < 0 then scaledDown 4 x exponent.natAbs
    else x.mul (ofDecimal false 1 exponent)
  if negative then magnitude.negate else magnitude

def digitValue (c : Char) : Nat := c.toNat - '0'.toNat

def digitsValue (digits : List Char) : Nat :=
  digits.foldl (fun n c => n * 10 + digitValue c) 0

/-- A sign, if there is one, and the rest. -/
def splitSign : List Char → Bool × List Char
  | '-' :: rest => (true, rest)
  | '+' :: rest => (false, rest)
  | rest => (false, rest)

/-- An exponent part, or nothing. -/
def exponentOf? : List Char → Option Int
  | [] => some 0
  | c :: rest =>
    let (negative, digits) := splitSign rest
    if (c == 'e' || c == 'E') && !digits.isEmpty && digits.all Char.isDigit then
      some (if negative then -(digitsValue digits : Int) else digitsValue digits)
    else none

/-- Digits with an optional point and exponent; at least one digit stands before the
exponent. -/
def decimalOf? (negative : Bool) (text : List Char) : Option Extended := do
  let whole := text.takeWhile Char.isDigit
  let rest := text.dropWhile Char.isDigit
  let (fraction, rest) := match rest with
    | '.' :: more => (more.takeWhile Char.isDigit, more.dropWhile Char.isDigit)
    | _ => ([], rest)
  if whole.isEmpty && fraction.isEmpty then none
  else
    let exponent ← exponentOf? rest
    some (ofDecimal negative (digitsValue (whole ++ fraction)) (exponent - fraction.length))

/-- A decimal in free form, or a name of an infinity or of no number in any case of
letters. -/
def ofText? (text : List Char) : Option Extended :=
  let (negative, rest) := splitSign text
  let name := String.ofList (rest.map Char.toLower)
  if name == "inf" || name == "infinity" then some (.infinite negative)
  else if name == "nan" then some .nan
  else decimalOf? negative rest

end Extended

end DocQuery
