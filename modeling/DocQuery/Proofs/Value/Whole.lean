import DocQuery.Value.Kind

/-! Integers as they are read.

A number that is asked for as an integer is read through its binary64 view and cut off at 64
bits. An integer of up to fifty-three bits comes out as it is. A larger one may be rounded or cut
off, but what is read is as large, on the same side of zero (`IsInt.exists_asInteger`), so it names
no item of any array that is shorter than `2 ^ 53`. -/
namespace DocQuery

theorem le_roundHalfEven (num den : Nat) : num / den ≤ roundHalfEven num den := by
  unfold roundHalfEven
  dsimp only
  split
  · exact Nat.le_refl _
  · split <;> omega

namespace Binary64

theorem one_pos : 0 < one := Nat.two_pow_pos places

theorem two_pow_add_places (k : Nat) : 2 ^ (k + places) = 2 ^ k * one := Nat.pow_add 2 k places

/-! ### Magnitudes -/

/-- A magnitude is not rounded below the power of two that it has reached. -/
theorem two_pow_le_roundMagnitude {n : Nat} (h : 52 ≤ n.log2) :
    2 ^ n.log2 ≤ roundMagnitude n 1 := by
  have hn : n ≠ 0 := by
    rintro rfl
    simp at h
  have hweight : 2 ^ n.log2 = 2 ^ 52 * weight n := by
    rw [weight, ← Nat.pow_add, Nat.add_sub_cancel' h]
  have hbits : 2 ^ 52 ≤ n / weight n := by
    have hpos : 0 < weight n := Nat.two_pow_pos _
    rw [Nat.le_div_iff_mul_le hpos, ← hweight]
    exact Nat.log2_self_le hn
  unfold roundMagnitude
  rw [Nat.div_one, Nat.one_mul, hweight]
  exact Nat.mul_le_mul_right _ (Nat.le_trans hbits (le_roundHalfEven _ _))

/-- A magnitude from `2 ^ 53` ones up is rounded to a whole number of ones that is not below
that. -/
theorem exists_roundMagnitude_eq {n : Nat} (h : 2 ^ 53 ≤ n) :
    ∃ m, 2 ^ 53 ≤ m ∧ roundMagnitude (n * one) 1 = m * one := by
  have hlarge : 2 ^ (53 + places) ≤ n * one := by
    rw [two_pow_add_places]
    exact Nat.mul_le_mul_right one h
  have hlog : 53 + places ≤ (n * one).log2 := by
    have hne : n * one ≠ 0 := Nat.ne_of_gt (Nat.lt_of_lt_of_le (Nat.two_pow_pos _) hlarge)
    exact (Nat.le_log2 hne).mpr hlarge
  have hdvd : one ∣ roundMagnitude (n * one) 1 := by
    have hweight : one ∣ weight (n * one) := Nat.pow_dvd_pow 2 (by omega)
    unfold roundMagnitude
    rw [Nat.div_one]
    exact Nat.dvd_mul_left_of_dvd hweight _
  obtain ⟨m, hm⟩ := hdvd
  rw [Nat.mul_comm one m] at hm
  refine ⟨m, ?_, hm⟩
  have hle : 2 ^ 53 * one ≤ m * one := by
    rw [← hm, ← two_pow_add_places]
    exact Nat.le_trans (Nat.pow_le_pow_right Nat.two_pos hlog)
      (two_pow_le_roundMagnitude (Nat.le_trans (by omega) hlog))
  exact Nat.le_of_mul_le_mul_right hle one_pos

/-! ### Whole numbers -/

section Whole
variable {x : Binary64} {n : Int}

theorem isWhole_of_toInt (h : x.toInt = n * one) : x.isWhole = true := by
  have hdvd : one ∣ x.ulps := by
    have : (one : Int) ∣ x.toInt := ⟨n, by rw [h, Int.mul_comm]⟩
    unfold toInt at this
    split at this
    · exact Int.natCast_dvd_natCast.mp (Int.dvd_neg.mp this)
    · exact Int.natCast_dvd_natCast.mp this
  unfold isWhole
  rw [Nat.mod_eq_zero_of_dvd hdvd]
  rfl

theorem truncated_of_toInt (h : x.toInt = n * one) : x.truncated = n := by
  have hone : (one : Int) ≠ 0 := Int.natCast_ne_zero.mpr (Nat.ne_of_gt one_pos)
  rw [truncated, h, Int.mul_tdiv_cancel _ hone]

/-- Small integers are binary64 numbers as they are. -/
theorem toInt_ofInt (h : n.natAbs ≤ 2 ^ 53) : (ofInt n).toInt = n * one := by
  unfold ofInt Extended.ofInt
  rw [dif_pos h]
  show (if decide (n < 0) = true then -((n.natAbs * one : Nat) : Int)
    else (n.natAbs * one : Nat)) = _
  rw [Int.natCast_mul, ← Int.neg_mul]
  by_cases hn : n < 0
  · rw [if_pos (decide_eq_true hn), show -(n.natAbs : Int) = n by omega]
  · rw [if_neg (by simpa using hn), show (n.natAbs : Int) = n by omega]

/-- A large integer is rounded to a whole number that is large as well. -/
theorem exists_ofInt_eq (h : 2 ^ 53 < n.natAbs) :
    ∃ m : Nat, 2 ^ 53 ≤ m ∧ (ofInt n).negative = decide (n < 0) ∧ (ofInt n).ulps = m * one := by
  have hnot : ¬ n.natAbs ≤ 2 ^ 53 := Nat.not_le_of_gt h
  unfold ofInt Extended.ofInt
  rw [dif_neg hnot]
  unfold Extended.ofFraction Extended.ofUlps
  split
  · obtain ⟨m, hm, hround⟩ := exists_roundMagnitude_eq (Nat.le_of_lt h)
    exact ⟨m, hm, rfl, hround⟩
  · refine ⟨(2 ^ 53 - 1) * 2 ^ (topShift - places), ?_, rfl, ?_⟩
    · exact Nat.le_trans (by decide) (Nat.mul_le_mul_left _ (Nat.pow_le_pow_right (by decide)
        (show 1 ≤ topShift - places by decide)))
    · have hshift : topShift - places + places = topShift := Nat.sub_add_cancel (by decide)
      rw [Nat.mul_assoc, ← two_pow_add_places, hshift]
      rfl

end Whole

end Binary64

/-! ### Integers that are read -/

/-- The number has the value of an integer. -/
def Number.IsInt (k : Number) (n : Int) : Prop :=
  match k with
  | .integer m => m = n
  | .real x => x.toInt = n * Binary64.one

/-- An integer is read as it is, unless it is large; what is read is then large as well. -/
def ReadAs (n i : Int) : Prop :=
  i = n ∨ (2 ^ 53 < n ∧ 2 ^ 53 ≤ i) ∨ (n < -2 ^ 53 ∧ i ≤ -2 ^ 53)

namespace Number
variable {k : Number} {n : Int}

/-- The binary64 view of an integer is a whole number. -/
theorem IsInt.exists_toInt_eq (h : k.IsInt n) :
    ∃ m : Int, k.toBinary64.toInt = m * Binary64.one ∧ ReadAs n m := by
  cases k with
  | real x => exact ⟨n, h, .inl rfl⟩
  | integer m =>
    obtain rfl : m = n := h
    by_cases hsmall : m.natAbs ≤ 2 ^ 53
    · exact ⟨m, Binary64.toInt_ofInt hsmall, .inl rfl⟩
    · obtain ⟨r, hr, hnegative, hulps⟩ := Binary64.exists_ofInt_eq (Nat.lt_of_not_ge hsmall)
      show ∃ r : Int, (Binary64.ofInt m).toInt = _ ∧ _
      unfold Binary64.toInt
      rw [hnegative, hulps, Int.natCast_mul, ← Int.neg_mul]
      unfold ReadAs
      by_cases hm : m < 0
      · exact ⟨-r, if_pos (decide_eq_true hm), by omega⟩
      · exact ⟨r, if_neg (by simpa using hm), by omega⟩

/-- An integer can be read, whatever its size. -/
theorem IsInt.exists_asInteger (h : k.IsInt n) :
    ∃ i, (Json.number k).asInteger = .ok i ∧ ReadAs n i := by
  obtain ⟨m, hm, hread⟩ := h.exists_toInt_eq
  have hwhole : k.toBinary64.isWhole = true := Binary64.isWhole_of_toInt hm
  refine ⟨(Extended.finite k.toBinary64).toInt64, ?_, ?_⟩
  · show (if k.toBinary64.isWhole = true then _ else _) = _
    rw [if_pos hwhole]
    rfl
  · show ReadAs n (max (-2 ^ 63) (min (2 ^ 63 - 1) k.toBinary64.truncated))
    rw [Binary64.truncated_of_toInt hm]
    unfold ReadAs at hread ⊢
    omega

end Number

end DocQuery
