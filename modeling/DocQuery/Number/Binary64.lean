import DocQuery.Number.Power

/-! Binary64 numbers, exactly.

Every finite binary64 number is an integer multiple of the smallest positive one,
`2 ^ (-1074)`. A number is kept as that multiple: a sign and a magnitude in *ulps*,
with the proof that the magnitude has at most fifty-three significant bits. Order
and equality are those of integers, and every operation is the exact result rounded
once (`roundMagnitude`), half to even.

Arithmetic leaves the finite numbers, so its results are `Extended`: a finite number,
an infinity, or no number. -/
namespace DocQuery

/-- `num / den` to the nearest integer, a half going to the even neighbour. -/
def roundHalfEven (num den : Nat) : Nat :=
  let quotient := num / den
  let twice := 2 * (num % den)
  if twice < den then quotient
  else if den < twice then quotient + 1
  else quotient + quotient % 2

theorem roundHalfEven_le (num den : Nat) : roundHalfEven num den ≤ num / den + 1 := by
  unfold roundHalfEven
  dsimp only
  split
  · omega
  · split <;> omega

namespace Binary64

/-- How many binary places a number has after its point at most. -/
def places : Nat := 1074

/-- How many ulps make one. -/
def one : Nat := 2 ^ places

/-- How many places the significant bits of a finite number stand above its ulps at most. -/
def topShift : Nat := 2045

/-- The first magnitude past the finite numbers, in ulps. -/
def limit : Nat := 2 ^ 53 * 2 ^ topShift

/-- The weight of the last of the fifty-three significant bits of a magnitude. -/
def weight (n : Nat) : Nat := 2 ^ (n.log2 - 52)

/-- A magnitude that a finite number can have: fifty-three bits and a power of two. -/
def Fits (ulps : Nat) : Prop :=
  (∃ m k, m ≤ 2 ^ 53 ∧ ulps = m * 2 ^ k) ∧ ulps < limit

/-- The magnitude nearest to `num / den` ulps, before overflow is considered. -/
def roundMagnitude (num den : Nat) : Nat :=
  roundHalfEven num (den * weight (num / den)) * weight (num / den)

theorem fits_zero : Fits 0 :=
  ⟨⟨0, 0, Nat.zero_le _, rfl⟩, Nat.mul_pos (Nat.two_pow_pos 53) (Nat.two_pow_pos topShift)⟩

theorem all_ones_lt_limit : (2 ^ 53 - 1) * 2 ^ topShift < limit :=
  Nat.mul_lt_mul_of_pos_right (by decide) (Nat.two_pow_pos topShift)

/-- An integer of few bits is a number as it is. -/
theorem fits_integer {n : Nat} (h : n ≤ 2 ^ 53) : Fits (n * one) := by
  refine ⟨⟨n, places, h, rfl⟩, Nat.lt_of_le_of_lt (Nat.mul_le_mul_right one h) ?_⟩
  exact Nat.mul_lt_mul_of_pos_left
    (Nat.pow_lt_pow_right (by decide) (by decide : places < topShift)) (Nat.two_pow_pos 53)

theorem div_weight_lt (n : Nat) : n / weight n < 2 ^ 53 := by
  unfold weight
  rw [Nat.div_lt_iff_lt_mul (Nat.two_pow_pos _), ← Nat.pow_add]
  by_cases h : n = 0
  · subst h
    exact Nat.two_pow_pos _
  · have hlog : n < 2 ^ (n.log2 + 1) := Nat.lt_log2_self
    exact Nat.lt_of_lt_of_le hlog (Nat.pow_le_pow_right (by omega) (by omega))

theorem roundMagnitude_bits (num den : Nat) :
    ∃ m k, m ≤ 2 ^ 53 ∧ roundMagnitude num den = m * 2 ^ k := by
  refine ⟨_, (num / den).log2 - 52, ?_, rfl⟩
  have h := roundHalfEven_le num (den * weight (num / den))
  rw [← Nat.div_div_eq_div_mul] at h
  have := div_weight_lt (num / den)
  omega

end Binary64

/-- A finite binary64 number. Zero has two signs. -/
structure Binary64 where
  negative : Bool
  ulps : Nat
  fits : Binary64.Fits ulps
  deriving DecidableEq

/-- The result of arithmetic: a finite number, an infinity, or no number. -/
inductive Extended where
  | finite (x : Binary64)
  | infinite (negative : Bool)
  | nan
  deriving DecidableEq

namespace Binary64

def zero : Binary64 := ⟨false, 0, fits_zero⟩

instance : Inhabited Binary64 := ⟨zero⟩

/-- The number as a signed count of ulps. Both zeros count nothing. -/
def toInt (x : Binary64) : Int :=
  if x.negative then -(x.ulps : Int) else x.ulps

/-- The order of numbers is the order of their ulps; the two zeros are equal. -/
def order (x y : Binary64) : Ordering := compare x.toInt y.toInt

def negate (x : Binary64) : Binary64 := { x with negative := !x.negative }

/-- A whole number of ones. -/
def isWhole (x : Binary64) : Bool := x.ulps % one == 0

/-- The part before the point, toward zero. -/
def truncated (x : Binary64) : Int := x.toInt.tdiv one

end Binary64

namespace Extended

/-- The finite number nearest to `num / den` ulps, or the infinity past them. -/
def ofUlps (negative : Bool) (num den : Nat) : Extended :=
  if h : Binary64.roundMagnitude num den < Binary64.limit then
    .finite ⟨negative, Binary64.roundMagnitude num den, Binary64.roundMagnitude_bits num den, h⟩
  else .infinite negative

/-- The number nearest to the fraction `num / den`. -/
def ofFraction (negative : Bool) (num den : Nat) : Extended :=
  ofUlps negative (num * Binary64.one) den

/-- The number nearest to an integer: itself, if it has few bits. -/
def ofInt (n : Int) : Extended :=
  if h : n.natAbs ≤ 2 ^ 53 then
    .finite ⟨n < 0, n.natAbs * Binary64.one, Binary64.fits_integer h⟩
  else ofFraction (n < 0) n.natAbs 1

/-- The nearest finite number: an infinity gives the largest of its sign, and no number
gives zero. -/
def saturate : Extended → Binary64
  | .finite x => x
  | .infinite negative =>
    ⟨negative, (2 ^ 53 - 1) * 2 ^ Binary64.topShift,
      ⟨2 ^ 53 - 1, Binary64.topShift, by decide, rfl⟩, Binary64.all_ones_lt_limit⟩
  | .nan => .zero

def negate : Extended → Extended
  | .finite x => .finite x.negate
  | .infinite negative => .infinite !negative
  | .nan => .nan

/-- A sum of finite numbers that cancels is a positive zero, unless both are negative
zeros. -/
def add : Extended → Extended → Extended
  | .finite x, .finite y =>
    let total := x.toInt + y.toInt
    if total = 0 then .finite ⟨x.negative && y.negative, 0, Binary64.fits_zero⟩
    else ofUlps (total < 0) total.natAbs 1
  | .infinite a, .infinite b => if a = b then .infinite a else .nan
  | .infinite a, .finite _ => .infinite a
  | .finite _, .infinite b => .infinite b
  | _, _ => .nan

def sub (x y : Extended) : Extended := x.add y.negate

def mul : Extended → Extended → Extended
  | .finite x, .finite y =>
    ofUlps (x.negative != y.negative) (x.ulps * y.ulps) Binary64.one
  | .infinite a, .infinite b => .infinite (a != b)
  | .infinite a, .finite y | .finite y, .infinite a =>
    if y.ulps = 0 then .nan else .infinite (a != y.negative)
  | _, _ => .nan

def div : Extended → Extended → Extended
  | .finite x, .finite y =>
    if y.ulps = 0 then
      if x.ulps = 0 then .nan else .infinite (x.negative != y.negative)
    else ofUlps (x.negative != y.negative) (x.ulps * Binary64.one) y.ulps
  | .infinite a, .finite y => .infinite (a != y.negative)
  | .finite x, .infinite b => .finite ⟨x.negative != b, 0, Binary64.fits_zero⟩
  | _, _ => .nan

/-- A finite number to a whole one, by a rule on its ulps; the rest is unchanged. -/
def wholeBy (rule : Int → Int) : Extended → Extended
  | .finite x =>
    let n := rule x.toInt
    if n = 0 then .finite ⟨x.negative, 0, Binary64.fits_zero⟩ else ofInt n
  | x => x

def floor : Extended → Extended := wholeBy fun n => n.fdiv Binary64.one

def ceil : Extended → Extended := wholeBy fun n => -(-n).fdiv Binary64.one

/-- To the nearest whole number, a half going away from zero. -/
def round : Extended → Extended :=
  wholeBy fun n => n.sign * ((2 * n.natAbs + Binary64.one) / (2 * Binary64.one) : Nat)

/-- The part before the point. -/
def trunc : Extended → Extended := wholeBy fun n => n.tdiv Binary64.one

/-- The part after the point, with the number's sign. -/
def fract (x : Extended) : Extended := x.sub x.trunc

/-- The part before the point as an integer from `low` to `high`; no number gives zero. -/
def clampedTo (low high : Int) : Extended → Int
  | .finite x => max low (min high x.truncated)
  | .infinite negative => if negative then low else high
  | .nan => 0

/-- The part before the point as a signed 64-bit integer. -/
def toInt64 : Extended → Int := clampedTo (-2 ^ 63) (2 ^ 63 - 1)

end Extended

/-- The binary64 number nearest to an integer. -/
def Binary64.ofInt (n : Int) : Binary64 := (Extended.ofInt n).saturate

/-- The number nearest to `digits · 10 ^ exponent`. Far outside the finite numbers the
power of ten is not computed: the answer is an infinity or zero by its size alone. -/
def Extended.ofDecimal (negative : Bool) (digits : Nat) (exponent : Int) : Extended :=
  let size := exponent + digits.log2 / 3
  if digits = 0 ∨ size < -700 then .finite ⟨negative, 0, Binary64.fits_zero⟩
  else if exponent < 0 then ofFraction negative digits (10 ^ exponent.natAbs)
  else if 400 < exponent then .infinite negative
  else ofFraction negative (digits * 10 ^ exponent.natAbs) 1

end DocQuery
