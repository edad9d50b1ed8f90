import DocQuery.Proofs.Value.Whole

/-! Arithmetic on whole numbers.

Whole numbers of up to fifty-three bits are binary64 numbers as they are, so a sum of them that is
no longer is exact, and what cuts off or rounds leaves them as they are. Each operation has one law,
by the integer that its result is (`Extended.IsInt`); which zero it is plays no part. -/
namespace DocQuery

/-- A fraction that is an integer is its own rounding. -/
theorem roundHalfEven_mul (n : Nat) {den : Nat} (hden : 0 < den) :
    roundHalfEven (n * den) den = n := by
  unfold roundHalfEven
  dsimp only
  rw [Nat.mul_mod_left, Nat.mul_zero, if_pos hden, Nat.mul_div_cancel _ hden]

namespace Binary64

theorem natCast_one_ne_zero : (one : Int) ≠ 0 := Int.natCast_ne_zero.mpr (Nat.ne_of_gt one_pos)

theorem weight_pos (n : Nat) : 0 < weight n := Nat.two_pow_pos _

theorem roundMagnitude_zero {den : Nat} (hden : 0 < den) : roundMagnitude 0 den = 0 := by
  have hzero := roundHalfEven_mul 0 (Nat.mul_pos hden (weight_pos (0 / den)))
  rw [Nat.zero_mul] at hzero
  unfold roundMagnitude
  rw [hzero, Nat.zero_mul]

theorem weight_dvd {n : Nat} (h : n ≤ 2 ^ 53) : weight (n * one) ∣ n * one := by
  obtain rfl | hlt := Nat.eq_or_lt_of_le h
  · rw [← two_pow_add_places, weight, Nat.log2_two_pow]
    exact Nat.pow_dvd_pow 2 (Nat.sub_le _ _)
  · by_cases hn : n * one = 0
    · rw [hn]
      exact Nat.dvd_zero _
    · have hlog : (n * one).log2 < 53 + places := by
        rw [Nat.log2_lt hn, two_pow_add_places]
        exact Nat.mul_lt_mul_of_pos_right hlt one_pos
      exact Nat.dvd_mul_left_of_dvd (Nat.pow_dvd_pow 2 (by omega)) n

/-- A whole number of few bits is its own rounding. -/
theorem roundMagnitude_one {n : Nat} (h : n ≤ 2 ^ 53) : roundMagnitude (n * one) 1 = n * one := by
  have hdvd := Nat.div_mul_cancel (weight_dvd h)
  have hround := roundHalfEven_mul (n * one / weight (n * one)) (weight_pos (n * one))
  rw [hdvd] at hround
  unfold roundMagnitude
  rw [Nat.div_one, Nat.one_mul, hround, hdvd]

theorem toInt_negate (x : Binary64) : x.negate.toInt = -x.toInt := by
  unfold negate toInt
  cases x.negative <;> simp

theorem ulps_eq_zero_iff {x : Binary64} : x.ulps = 0 ↔ x.toInt = 0 := by
  unfold toInt
  split <;> omega

theorem toInt_mk (negative : Bool) (ulps : Nat) (fits : Fits ulps) :
    (⟨negative, ulps, fits⟩ : Binary64).toInt = if negative then -(ulps : Int) else ulps := rfl

end Binary64

namespace Extended
open Binary64

theorem ofUlps_eq {negative : Bool} {num den ulps : Nat} (h : roundMagnitude num den = ulps)
    (hfits : Fits ulps) : ofUlps negative num den = .finite ⟨negative, ulps, hfits⟩ := by
  subst h
  exact dif_pos hfits.2

/-- The number is finite and has the value of an integer. -/
def IsInt (x : Extended) (n : Int) : Prop := ∃ b, x = .finite b ∧ b.toInt = n * one

namespace IsInt
variable {x y : Extended} {m n : Int}

theorem zero (negative : Bool) : IsInt (.finite ⟨negative, 0, fits_zero⟩) 0 := by
  refine ⟨_, rfl, ?_⟩
  rw [Int.zero_mul]
  cases negative <;> rfl

theorem ofInt (h : n.natAbs ≤ 2 ^ 53) : (Extended.ofInt n).IsInt n := by
  refine ⟨Binary64.ofInt n, ?_, toInt_ofInt h⟩
  unfold Binary64.ofInt Extended.ofInt
  rw [dif_pos h]
  rfl

theorem negate (h : x.IsInt n) : x.negate.IsInt (-n) := by
  obtain ⟨b, rfl, hb⟩ := h
  exact ⟨b.negate, rfl, by rw [toInt_negate, hb, Int.neg_mul]⟩

/-- A magnitude of few bits comes out of the rounding with its sign. -/
theorem ofUlps (h : n.natAbs ≤ 2 ^ 53) :
    (Extended.ofUlps (decide (n < 0)) (n.natAbs * one) 1).IsInt n := by
  rw [ofUlps_eq (roundMagnitude_one h) (fits_integer h)]
  refine ⟨_, rfl, ?_⟩
  rw [toInt_mk, Int.natCast_mul, ← Int.neg_mul]
  by_cases hn : n < 0
  · rw [if_pos (decide_eq_true hn), show -(n.natAbs : Int) = n by omega]
  · rw [if_neg (by simpa using hn), show (n.natAbs : Int) = n by omega]

theorem add (hx : x.IsInt m) (hy : y.IsInt n) (h : (m + n).natAbs ≤ 2 ^ 53) :
    (x.add y).IsInt (m + n) := by
  obtain ⟨a, rfl, ha⟩ := hx
  obtain ⟨b, rfl, hb⟩ := hy
  have hone : (0 : Int) < one := Int.natCast_pos.mpr Binary64.one_pos
  unfold Extended.add
  dsimp only
  rw [ha, hb, ← Int.add_mul]
  split
  · next hzero =>
    rw [(Int.mul_eq_zero.mp hzero).resolve_right (Int.ne_of_gt hone)]
    exact zero _
  · have hsign : (m + n) * one < 0 * one ↔ m + n < 0 := Int.mul_lt_mul_right hone
    rw [Int.zero_mul] at hsign
    rw [Int.natAbs_mul, Int.natAbs_natCast, decide_eq_decide.mpr hsign]
    exact ofUlps h

theorem sub (hx : x.IsInt m) (hy : y.IsInt n) (h : (m - n).natAbs ≤ 2 ^ 53) :
    (x.sub y).IsInt (m - n) := by
  rw [Int.sub_eq_add_neg] at h ⊢
  exact hx.add hy.negate h

/-- Nothing times a finite number is nothing. -/
theorem zero_mul (hx : x.IsInt 0) (hy : y.IsInt n) : (x.mul y).IsInt 0 := by
  obtain ⟨a, rfl, ha⟩ := hx
  obtain ⟨b, rfl, -⟩ := hy
  rw [Int.zero_mul] at ha
  unfold Extended.mul
  dsimp only
  rw [ulps_eq_zero_iff.mpr ha, Nat.zero_mul, ofUlps_eq (roundMagnitude_zero Binary64.one_pos) fits_zero]
  exact zero _

/-- Nothing divided by a number that is not zero is nothing. -/
theorem zero_div (hx : x.IsInt 0) (hy : y.IsInt n) (hn : n ≠ 0) : (x.div y).IsInt 0 := by
  obtain ⟨a, rfl, ha⟩ := hx
  obtain ⟨b, rfl, hb⟩ := hy
  rw [Int.zero_mul] at ha
  have hne : b.ulps ≠ 0 := by
    rw [Ne, ulps_eq_zero_iff, hb]
    exact Int.mul_ne_zero hn natCast_one_ne_zero
  unfold Extended.div
  dsimp only
  rw [if_neg hne, ulps_eq_zero_iff.mpr ha, Nat.zero_mul,
    ofUlps_eq (roundMagnitude_zero (Nat.pos_of_ne_zero hne)) fits_zero]
  exact zero _

/-- A rule that takes the ones of an integer to that integer leaves the number as it is. -/
theorem wholeBy {rule : Int → Int} (hrule : rule (n * one) = n) (hx : x.IsInt n)
    (h : n.natAbs ≤ 2 ^ 53) : (Extended.wholeBy rule x).IsInt n := by
  obtain ⟨a, rfl, ha⟩ := hx
  unfold Extended.wholeBy
  dsimp only
  rw [ha, hrule]
  split
  · next hzero =>
    rw [hzero]
    exact zero _
  · exact ofInt h

theorem floor (hx : x.IsInt n) (h : n.natAbs ≤ 2 ^ 53) : x.floor.IsInt n :=
  hx.wholeBy (Int.mul_fdiv_cancel _ natCast_one_ne_zero) h

theorem trunc (hx : x.IsInt n) (h : n.natAbs ≤ 2 ^ 53) : x.trunc.IsInt n :=
  hx.wholeBy (Int.mul_tdiv_cancel _ natCast_one_ne_zero) h

theorem round_zero (hx : x.IsInt 0) : x.round.IsInt 0 :=
  hx.wholeBy (by rw [Int.zero_mul, Int.sign_zero, Int.zero_mul]) (Nat.zero_le _)

/-- A whole number has nothing after the point. -/
theorem fract (hx : x.IsInt n) (h : n.natAbs ≤ 2 ^ 53) : x.fract.IsInt 0 := by
  have hsub := hx.sub (hx.trunc h)
  rw [Int.sub_self] at hsub
  exact hsub (Nat.zero_le _)

theorem clampedTo_eq (hx : x.IsInt n) (low high : Int) :
    x.clampedTo low high = max low (min high n) := by
  obtain ⟨a, rfl, ha⟩ := hx
  show max low (min high a.truncated) = _
  rw [truncated_of_toInt ha]

theorem toJson (hx : x.IsInt n) (h : n.natAbs < 2 ^ 53) : x.toJson = .ok (.ofInt n) := by
  obtain ⟨a, rfl, ha⟩ := hx
  have htruncated := truncated_of_toInt ha
  unfold Extended.toJson
  dsimp only
  rw [isWhole_of_toInt ha, htruncated, if_pos (by simpa using h)]

end IsInt

end Extended

end DocQuery
