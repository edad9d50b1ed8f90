import DocQuery.Time.Calendar

/-! Days and dates.

A day lies in its year (`yearOfDay_spec`) and in its month (`monthOfDay_spec`). So each day has a
date that there is in the calendar, and it is the day of that date (`Date.toDays_ofDays`). -/
namespace DocQuery.Calendar

/-! ### Years -/

theorem isLeap_iff {year : Int} :
    isLeap year = true ↔ year % 4 = 0 ∧ (year % 100 ≠ 0 ∨ year % 400 = 0) := by
  simp [isLeap]

theorem daysBeforeMonth_one (leap : Bool) : daysBeforeMonth leap 1 = 0 := by
  cases leap <;> rfl

/-- The days of a whole year. -/
theorem daysBeforeMonth_thirteen (leap : Bool) :
    daysBeforeMonth leap 13 = if leap then 366 else 365 := by
  cases leap <;> rfl

theorem daysBeforeYear_succ (year : Int) :
    daysBeforeYear (year + 1) = daysBeforeYear year + daysBeforeMonth (isLeap year) 13 := by
  rw [daysBeforeMonth_thirteen]
  unfold daysBeforeYear
  dsimp only
  split
  · next h =>
    have hdivides := isLeap_iff.mp h
    omega
  · next h =>
    have hdivides := mt isLeap_iff.mpr h
    omega

theorem daysBeforeYear_mono {year year' : Int} (h : year ≤ year') :
    daysBeforeYear year ≤ daysBeforeYear year' := by
  unfold daysBeforeYear
  dsimp only
  omega

/-- The guess from the mean length of a year is off by at most one. -/
theorem yearOfDay_spec (days : Int) :
    daysBeforeYear (yearOfDay days) ≤ days ∧ days < daysBeforeYear (yearOfDay days + 1) := by
  unfold yearOfDay
  dsimp only
  split
  · next hbefore =>
    unfold daysBeforeYear at *
    dsimp only at *
    omega
  · split
    · unfold daysBeforeYear at *
      dsimp only at *
      omega
    · omega

/-! ### Months -/

/-- The month of a day is found from the last month down, if the day is not after it. -/
theorem monthOfDay_spec {leap : Bool} {ordinal last : Nat}
    (h : ordinal < daysBeforeMonth leap (last + 1)) :
    1 ≤ monthOfDay leap ordinal last ∧ monthOfDay leap ordinal last ≤ last ∧
      daysBeforeMonth leap (monthOfDay leap ordinal last) ≤ ordinal ∧
      ordinal < daysBeforeMonth leap (monthOfDay leap ordinal last + 1) := by
  induction last with
  | zero =>
    rw [daysBeforeMonth_one] at h
    exact absurd h (Nat.not_lt_zero _)
  | succ last ih =>
    unfold monthOfDay
    split
    · next hstart => exact ⟨Nat.le_add_left 1 last, Nat.le_refl _, hstart, h⟩
    · next hstart =>
      obtain ⟨hfirst, hlast, hfrom, hto⟩ := ih (Nat.lt_of_not_ge hstart)
      exact ⟨hfirst, Nat.le_succ_of_le hlast, hfrom, hto⟩

/-! ### Dates -/

namespace Date
variable {days : Int}

/-- The day of the year lies in the month, in the calendar of the year. -/
theorem ofDays_spec (days : Int) :
    let date := ofDays days
    1 ≤ date.month ∧ date.month ≤ 12 ∧ 1 ≤ date.day ∧
      date.day ≤ daysInMonth (isLeap date.year) date.month ∧ date.toDays = days := by
  let year := yearOfDay days
  let ordinal := (days - daysBeforeYear year).toNat
  let month := monthOfDay (isLeap year) ordinal 12
  obtain ⟨hfrom, hto⟩ : daysBeforeYear year ≤ days ∧ days < daysBeforeYear (year + 1) :=
    yearOfDay_spec days
  have hordinal : (ordinal : Int) = days - daysBeforeYear year :=
    Int.toNat_of_nonneg (Int.sub_nonneg_of_le hfrom)
  have hlength : ordinal < daysBeforeMonth (isLeap year) 13 := by
    rw [daysBeforeYear_succ] at hto
    omega
  obtain ⟨hfirst, hlast, hstart, hend⟩ :
      1 ≤ month ∧ month ≤ 12 ∧ daysBeforeMonth (isLeap year) month ≤ ordinal ∧
        ordinal < daysBeforeMonth (isLeap year) (month + 1) := monthOfDay_spec hlength
  refine ⟨hfirst, hlast, Nat.le_add_left 1 _, ?_, ?_⟩
  · show ordinal - daysBeforeMonth (isLeap year) month + 1 ≤
      daysBeforeMonth (isLeap year) (month + 1) - daysBeforeMonth (isLeap year) month
    omega
  · show daysBeforeYear year + ((daysBeforeMonth (isLeap year) month +
      (ordinal - daysBeforeMonth (isLeap year) month + 1) : Nat) : Int) - 1 = days
    omega

theorem toDays_ofDays (days : Int) : (ofDays days).toDays = days := (ofDays_spec days).2.2.2.2

theorem day_ofDays_le (days : Int) : (ofDays days).day ≤ 31 := by
  obtain ⟨-, hmonth, -, hday, -⟩ := ofDays_spec days
  have hlongest : ∀ leap, ∀ month ≤ 12, daysInMonth leap month ≤ 31 := by decide
  exact Nat.le_trans hday (hlongest _ _ hmonth)

theorem isValid_ofDays (hfirst : firstYear ≤ (ofDays days).year)
    (hlast : (ofDays days).year ≤ lastYear) : (ofDays days).isValid = true := by
  obtain ⟨hmonth, hmonth', hday, hday', -⟩ := ofDays_spec days
  unfold isValid
  simp only [Bool.and_eq_true, decide_eq_true_eq]
  exact ⟨⟨⟨⟨⟨hfirst, hlast⟩, hmonth⟩, hmonth'⟩, hday⟩, hday'⟩

end Date

end DocQuery.Calendar
