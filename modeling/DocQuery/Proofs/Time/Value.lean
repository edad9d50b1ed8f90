import DocQuery.Proofs.Time.Moment
import DocQuery.Proofs.Time.Zone
import DocQuery.Value.Arithmetic
import Mathlib.Data.List.Forall2

/-! Times of whole seconds as values.

Such a time is the value of a moment without nanoseconds (`IsWhole.moment_eq`, `ofMoment_eq`), and
stays so in any zone (`IsWhole.inZone_eq`). What the accessors give of the moment (`component_eq`)
makes up its time again (`ofArguments_fields`), and so do the midnight of its day and the seconds
since then (`add_secondOfDay`). -/
namespace DocQuery.Time

/-- A time of whole seconds, with a zone as it is written. -/
def ofSeconds (seconds : Int) (zone : String) : Json :=
  .object [(tagKey, .string "TIME"), ("epoch_time", .ofInt seconds), ("timezone", .string zone)]

section Values
variable {value : Json} {n offset offset' : Int} {zone : String}

theorem epoch_ofSeconds (n : Int) (zone : String) :
    epoch (ofSeconds n zone) = .ok (Binary64.ofInt n) := rfl

theorem isInt_number (h : n.natAbs ≤ 2 ^ 53) :
    (Extended.finite (Binary64.ofInt n)).IsInt n :=
  ⟨_, rfl, Binary64.toInt_ofInt h⟩

/-- The text of the zone of a time. -/
def zone? (value : Json) : Option String := (value.field? "timezone").bind Json.string?

/-- A time of whole seconds with any other fields. Without a zone it is read at Greenwich. -/
structure IsWhole (value : Json) (n offset : Int) : Prop where
  isTime : value.isTime = true
  seconds : value.field? "epoch_time" = some (.ofInt n)
  zone : (zone? value).elim (.ok 0) Zone.read = .ok offset

theorem isWhole_ofSeconds (n : Int) (hzone : Zone.read zone = .ok offset) :
    IsWhole (ofSeconds n zone) n offset := ⟨rfl, rfl, hzone⟩

theorem IsWhole.epoch?_eq (h : IsWhole value n offset) :
    epoch? value = some (Binary64.ofInt n) := by
  unfold epoch?
  rw [if_pos h.isTime, h.seconds]
  rfl

theorem IsWhole.moment_eq (h : IsWhole value n offset) (hrange : Moment.inRange n = true) :
    moment value = .ok ⟨n, 0, offset⟩ := by
  have hepoch : epoch value = .ok (Binary64.ofInt n) := by
    unfold epoch
    rw [if_pos h.isTime, h.epoch?_eq]
  have hmoment : moment value = (epoch value >>= fun seconds =>
      (zone? value).elim (.ok 0) Zone.read >>= Moment.ofEpoch (.finite seconds)) := by
    unfold moment zone?
    cases (value.field? "timezone").bind Json.string? <;> rfl
  have hint := isInt_number (Nat.le_of_lt (Moment.natAbs_lt_of_inRange hrange))
  rw [hmoment, hepoch, h.zone]
  exact Moment.ofEpoch_eq hint hrange

theorem moment_ofSeconds (hzone : Zone.read zone = .ok offset) (h : Moment.inRange n = true) :
    moment (ofSeconds n zone) = .ok ⟨n, 0, offset⟩ := (isWhole_ofSeconds n hzone).moment_eq h

theorem ofMoment_eq (h : Moment.inRange n = true) :
    ofMoment ⟨n, 0, offset⟩ = .ok (ofSeconds n (Zone.text offset)) := by
  have hsmall := Moment.natAbs_lt_of_inRange h
  unfold ofMoment
  rw [(Moment.isInt_epoch (Nat.le_of_lt hsmall)).toJson hsmall]
  rfl

/-- In another zone, a time has the same seconds and that zone as it is written. -/
theorem IsWhole.inZone_eq (h : IsWhole value n offset) (hrange : Moment.inRange n = true)
    (hzone : Zone.read zone = .ok offset') :
    inZone value (.string zone) = .ok (ofSeconds n (Zone.text offset')) := by
  unfold inZone
  rw [h.moment_eq hrange]
  show (Zone.read zone >>= fun offset => ofMoment ⟨n, 0, offset⟩) = _
  rw [hzone]
  exact ofMoment_eq hrange

end Values

/-! ### Parts -/

section Parts
variable {value : Json} {m : Moment}

/-- The parts of the date and the clock of a moment, from the year down. -/
def fields (m : Moment) : List Json :=
  [.ofInt m.date.year, .ofNat m.date.month, .ofNat m.date.day, .ofNat m.hour, .ofNat m.minute,
    .ofNat m.second]

/-- A number of seconds of a day without nanoseconds. -/
theorem toJson_seconds {k : Nat} (h : k < 86400) :
    ((Extended.ofInt k).add (Moment.fraction 0)).toJson = .ok (.ofNat k) := by
  have hsum := (Extended.IsInt.ofInt (n := k) (by omega)).add Moment.isInt_fraction_zero
  rw [Int.add_zero] at hsum
  exact (hsum (by omega)).toJson (by omega)

/-- The accessors give the fields in order. -/
theorem component_eq (hmoment : moment value = .ok m) (hnanos : m.nanos = 0) :
    List.Forall₂ (fun accessor field => component value accessor = .ok field)
      ["year", "month", "day", "hours", "minutes", "seconds"] (fields m) := by
  have hseconds : component value "seconds" = .ok (.ofNat m.second) := by
    unfold component
    rw [hmoment]
    show ((Extended.ofInt m.second).add (Moment.fraction m.nanos)).toJson = _
    rw [hnanos]
    exact toJson_seconds (Nat.lt_trans m.second_lt (by decide))
  refine .cons ?_ (.cons ?_ (.cons ?_ (.cons ?_ (.cons ?_ (.cons hseconds .nil))))) <;>
    (unfold component; rw [hmoment]; rfl)

theorem timeOfDay_eq (hmoment : moment value = .ok m) (hnanos : m.nanos = 0) :
    timeOfDay value = .ok (.ofNat m.secondOfDay) := by
  unfold timeOfDay
  rw [hmoment]
  show ((Extended.ofInt m.secondOfDay).add (Moment.fraction m.nanos)).toJson = _
  rw [hnanos]
  exact toJson_seconds m.secondOfDay_lt

/-- The date is the midnight before, in the same zone. -/
theorem date_eq (hmoment : moment value = .ok m)
    (h : Moment.inRange (m.seconds - m.secondOfDay) = true) :
    date value = .ok (ofSeconds (m.seconds - m.secondOfDay) (Zone.text m.offset)) := by
  unfold date
  rw [hmoment]
  dsimp only [bind, Except.bind]
  rw [Moment.ofLocal?_midnight h]
  exact ofMoment_eq h

end Parts

/-! ### Times made of parts -/

section Made
variable {n k offset : Int} {zone : String} {m : Moment}

theorem clampedTo_number {low high : Int} (h : n.natAbs ≤ 2 ^ 53) (hlow : low ≤ n)
    (hhigh : n ≤ high) : (Extended.finite (Binary64.ofInt n)).clampedTo low high = n := by
  rw [(isInt_number h).clampedTo_eq]
  omega

theorem word32_eq {k : Nat} (h : k < 2 ^ 32) :
    word32 (.finite (Binary64.ofInt k)) = k := by
  unfold word32
  rw [clampedTo_number (by omega) (Int.natCast_nonneg k) (by omega)]
  exact Int.toNat_natCast k

/-- A time of whole seconds is shifted by whole seconds. -/
theorem shift_ofSeconds (hzone : Zone.read zone = .ok offset) (hstart : Moment.inRange n = true)
    (hsum : Moment.inRange (n + k) = true) (hk : k.natAbs ≤ 2 ^ 53) :
    shift (ofSeconds n zone) (.finite (Binary64.ofInt k)) =
      .ok (ofSeconds (n + k) (Zone.text offset)) := by
  have hsmall := Nat.le_of_lt (Moment.natAbs_lt_of_inRange hstart)
  have hsum' := (isInt_number hsmall).add (isInt_number hk)
    (Nat.le_of_lt (Moment.natAbs_lt_of_inRange hsum))
  unfold shift
  rw [moment_ofSeconds hzone hstart, epoch_ofSeconds]
  show (Moment.ofEpoch ((Extended.finite _).add (.finite _)) offset >>= ofMoment) = _
  rw [Moment.ofEpoch_eq hsum' hsum]
  exact ofMoment_eq hsum

/-- The midnight of a moment and the seconds since then make up the moment again. -/
theorem add_secondOfDay (hzone : Zone.read zone = .ok m.offset)
    (hmidnight : Moment.inRange (m.seconds - m.secondOfDay) = true)
    (hrange : Moment.inRange m.seconds = true) :
    (ofSeconds (m.seconds - m.secondOfDay) zone).add (.ofNat m.secondOfDay) =
      .ok (ofSeconds m.seconds (Zone.text m.offset)) := by
  have hsecond := m.secondOfDay_lt
  have hsum : m.seconds - m.secondOfDay + m.secondOfDay = m.seconds := Int.sub_add_cancel _ _
  have hshift := shift_ofSeconds (k := m.secondOfDay) hzone hmidnight (hsum.symm ▸ hrange)
    (by omega)
  rw [hsum] at hshift
  exact hshift

theorem dateOf_date (hfirst : 0 ≤ m.date.year) (hlast : m.date.year ≤ 9999) :
    dateOf (.finite (Binary64.ofInt m.date.year)) (.finite (Binary64.ofInt m.date.month))
      (.finite (Binary64.ofInt m.date.day)) = m.date := by
  obtain ⟨-, hmonth, -⟩ := Calendar.Date.ofDays_spec m.day
  have hmonth : m.date.month < 2 ^ 32 := Nat.lt_of_le_of_lt hmonth (by decide)
  have hday : m.date.day < 2 ^ 32 :=
    Nat.lt_of_le_of_lt (Calendar.Date.day_ofDays_le m.day) (by decide)
  unfold dateOf
  rw [clampedTo_number (by omega) (by omega) (by omega), word32_eq hmonth, word32_eq hday]

theorem clockOf_clock (hnanos : m.nanos = 0) :
    clockOf (.finite (Binary64.ofInt m.hour)) (.finite (Binary64.ofInt m.minute))
      (.finite (Binary64.ofInt m.second)) = m.clock := by
  have hhour := m.hour_lt
  have hminute := m.minute_lt
  have hsecond := m.second_lt
  unfold clockOf Moment.clock
  rw [word32_eq (by omega), word32_eq (by omega), word32_eq (by omega), hnanos]

/-- The fields of a moment and its zone make up the moment again. -/
theorem ofArguments_fields (hzone : Zone.read zone = .ok m.offset) (hnanos : m.nanos = 0)
    (hfirst : 0 ≤ m.date.year) (hlast : m.date.year ≤ 9999)
    (hrange : Moment.inRange m.seconds = true) :
    ofArguments (fields m ++ [.string zone]) = .ok (ofSeconds m.seconds (Zone.text m.offset)) := by
  have hsplit : splitZone (fields m ++ [.string zone]) = .ok (fields m, m.offset) := by
    show (Zone.read zone >>= fun offset => pure (fields m, offset)) = _
    rw [hzone]
    rfl
  let numbers := [m.date.year, m.date.month, m.date.day, m.hour, m.minute, m.second].map
    Binary64.ofInt
  let fraction := (Extended.finite (Binary64.ofInt m.second)).fract
  have hnumbers : (fields m).mapM Json.asNumber = .ok numbers := rfl
  have hparts : parts (numbers.map .finite) = some (m.date, m.clock, fraction) := by
    rw [← dateOf_date hfirst hlast, ← clockOf_clock hnanos]
    rfl
  have hvalid : (m.date.isValid && m.clock.isValid) = true := by
    rw [m.isValid_clock, Bool.and_true]
    exact Calendar.Date.isValid_ofDays (Int.le_trans (by decide) hfirst)
      (Int.le_trans hlast (by decide))
  have hepoch : ((Extended.ofInt m.seconds).add fraction).IsInt m.seconds := by
    have hsmall := Nat.le_of_lt (Moment.natAbs_lt_of_inRange hrange)
    have hsecond := m.second_lt
    have hfraction : fraction.IsInt 0 := (isInt_number (by omega)).fract (by omega)
    have hsum := (Extended.IsInt.ofInt hsmall).add hfraction
    rw [Int.add_zero] at hsum
    exact hsum hsmall
  have hlength : (fields m).length = 3 ∨ (fields m).length = 6 := .inr rfl
  unfold ofArguments
  rw [hsplit]
  dsimp only [bind, Except.bind]
  rw [if_pos hlength, hnumbers]
  dsimp only
  rw [hparts]
  dsimp only
  rw [if_pos hvalid, Moment.ofLocal?_clock hrange]
  dsimp only
  rw [Moment.ofEpoch_eq hepoch hrange]
  exact ofMoment_eq hrange

end Made

end DocQuery.Time
