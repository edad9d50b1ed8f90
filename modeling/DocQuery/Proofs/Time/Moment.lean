import DocQuery.Proofs.Time.Calendar
import DocQuery.Proofs.Value.Exact
import DocQuery.Time.Moment

/-! Moments taken apart.

The local day and the second of it make up the local time (`localSeconds_eq`), so a moment is put
together again of its date and the clock (`ofLocal?_date`). A whole number of seconds is the epoch
of a moment without nanoseconds, and of no other (`ofEpoch_eq`, `isInt_epoch`). -/
namespace DocQuery

namespace Moment
open Calendar

/-! ### Range -/

theorem inRange_of_natAbs_le {seconds : Int} (h : seconds.natAbs ≤ 10 ^ 12) :
    inRange seconds = true := by
  have hfirst : firstSecond ≤ -10 ^ 12 := by decide
  have hlast : 10 ^ 12 ≤ lastSecond := by decide
  unfold inRange
  rw [Bool.and_eq_true, decide_eq_true_iff, decide_eq_true_iff]
  omega

theorem natAbs_lt_of_inRange {seconds : Int} (h : inRange seconds = true) :
    seconds.natAbs < 2 ^ 53 := by
  have hfirst : -2 ^ 53 < firstSecond := by decide
  have hlast : lastSecond < 2 ^ 53 := by decide
  unfold inRange at h
  rw [Bool.and_eq_true, decide_eq_true_iff, decide_eq_true_iff] at h
  omega

/-! ### Local time -/

section Local
variable {m : Moment}

theorem secondOfDay_lt (m : Moment) : m.secondOfDay < 86400 := by
  unfold secondOfDay
  omega

theorem localSeconds_eq (m : Moment) :
    m.localSeconds = (m.day - epochDay) * 86400 + m.secondOfDay := by
  unfold day secondOfDay
  omega

/-- What the clock shows. -/
def clock (m : Moment) : Clock := ⟨m.hour, m.minute, m.second, m.nanos⟩

theorem secondOfDay_eq (m : Moment) :
    (m.hour * 60 + m.minute) * 60 + m.second = m.secondOfDay := by
  unfold hour minute second
  omega

theorem hour_lt (m : Moment) : m.hour < 24 := by
  have h := m.secondOfDay_lt
  unfold hour
  omega

theorem minute_lt (m : Moment) : m.minute < 60 := Nat.mod_lt _ (by decide)

theorem second_lt (m : Moment) : m.second < 60 := Nat.mod_lt _ (by decide)

theorem isValid_clock (m : Moment) : m.clock.isValid = true := by
  simp [Clock.isValid, clock, m.hour_lt, m.minute_lt, m.second_lt]

/-- A clock on the local day of a moment is as far from it as the clock shows. -/
theorem ofLocal?_date (m : Moment) (clock : Clock) :
    ofLocal? m.date clock m.offset =
      let seconds := m.seconds - m.secondOfDay +
        ((clock.hour * 60 + clock.minute) * 60 + clock.second : Nat)
      if inRange seconds then some ⟨seconds, clock.nanos, m.offset⟩ else none := by
  have hseconds : secondsOf m.date.toDays
      ((clock.hour * 60 + clock.minute) * 60 + clock.second : Nat) - m.offset =
        m.seconds - m.secondOfDay +
          ((clock.hour * 60 + clock.minute) * 60 + clock.second : Nat) := by
    have hlocal : m.seconds + m.offset = _ := m.localSeconds_eq
    rw [date, Date.toDays_ofDays, secondsOf]
    omega
  unfold ofLocal?
  dsimp only
  rw [hseconds]

theorem ofLocal?_clock (h : inRange m.seconds = true) :
    ofLocal? m.date m.clock m.offset = some m := by
  have hseconds : m.seconds - m.secondOfDay +
      ((m.clock.hour * 60 + m.clock.minute) * 60 + m.clock.second : Nat) = m.seconds := by
    show _ - _ + (((m.hour * 60 + m.minute) * 60 + m.second : Nat) : Int) = _
    rw [m.secondOfDay_eq, Int.sub_add_cancel]
  rw [ofLocal?_date]
  dsimp only
  rw [hseconds, if_pos h]
  rfl

theorem ofLocal?_midnight (h : inRange (m.seconds - m.secondOfDay) = true) :
    ofLocal? m.date ⟨0, 0, 0, 0⟩ m.offset = some ⟨m.seconds - m.secondOfDay, 0, m.offset⟩ := by
  have hseconds : m.seconds - m.secondOfDay + ((0 * 60 + 0) * 60 + 0 : Nat) =
      m.seconds - m.secondOfDay := Int.add_zero _
  rw [ofLocal?_date]
  dsimp only
  rw [hseconds, if_pos h]

/-- Years of up to four digits are in range, and so is the start of each day of them. -/
theorem natAbs_le_of_year (hfirst : 0 ≤ m.date.year) (hlast : m.date.year ≤ 9999)
    (hoffset : m.offset.natAbs < 86400) :
    m.seconds.natAbs ≤ 10 ^ 12 ∧ (m.seconds - m.secondOfDay).natAbs ≤ 10 ^ 12 := by
  obtain ⟨hfrom, hto⟩ : daysBeforeYear m.date.year ≤ m.day ∧
    m.day < daysBeforeYear (m.date.year + 1) := yearOfDay_spec m.day
  have hstart : -366 ≤ daysBeforeYear m.date.year := daysBeforeYear_mono hfirst
  have hend : daysBeforeYear (m.date.year + 1) ≤ 3652059 :=
    daysBeforeYear_mono (Int.add_le_add_right hlast 1)
  have hlocal : m.seconds + m.offset = _ := m.localSeconds_eq
  have hsecond := m.secondOfDay_lt
  have hepoch : epochDay = 719162 := rfl
  omega

end Local

/-! ### Whole seconds -/

section Whole
variable {n offset : Int} {x : Extended}

theorem ofEpoch_eq (hx : x.IsInt n) (h : inRange n = true) :
    ofEpoch x offset = .ok ⟨n, 0, offset⟩ := by
  have hsmall := natAbs_lt_of_inRange h
  have hwhole := hx.floor (Nat.le_of_lt hsmall)
  have hrest : (x.sub x.floor).IsInt 0 := by
    have hsub := hx.sub hwhole
    rw [Int.sub_self] at hsub
    exact hsub (Nat.zero_le _)
  have hnanos := (hrest.zero_mul (.ofInt (n := 10 ^ 9) (by decide))).round_zero
  have hinstant : x.floor.toInt64 = n := by
    unfold Extended.toInt64
    rw [hwhole.clampedTo_eq]
    omega
  unfold ofEpoch
  dsimp only
  rw [hinstant, if_pos h, hnanos.clampedTo_eq]
  rfl

theorem isInt_fraction_zero : (fraction 0).IsInt 0 :=
  .zero_div (.ofInt (n := 0) (by decide)) (.ofInt (n := 10 ^ 9) (by decide)) (by decide)

theorem isInt_epoch (h : n.natAbs ≤ 2 ^ 53) : (epoch ⟨n, 0, offset⟩).IsInt n := by
  have hsum := (Extended.IsInt.ofInt h).add isInt_fraction_zero
  rw [Int.add_zero] at hsum
  exact hsum h

end Whole

end Moment

end DocQuery
