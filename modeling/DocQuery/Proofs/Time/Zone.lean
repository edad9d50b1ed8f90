import DocQuery.Time.Zone

/-! Zones as they are written.

Each text of a sign, two digits of hours and two of minutes names the offset that it spells
(`read_written`), and an offset is written as such a text (`text_ofParts`). No offset is written
with a plus, so of all these texts that of no offset with a minus alone is not written. -/
namespace DocQuery.Zone

/-! ### Two digits -/

/-- The two digits of a number below a hundred. -/
def digits (n : Nat) : List Char := [Nat.digitChar (n / 10), Nat.digitChar (n % 10)]

section Digits
variable {n : Nat} {c : Char}

theorem twoDigits_eq (h : n < 100) : twoDigits n = digits n := by
  have hrepr : (toString n).toList = Nat.toDigits 10 n := String.toList_ofList
  unfold twoDigits
  dsimp only
  rw [hrepr]
  by_cases hshort : n < 10
  · rw [Nat.toDigits_of_lt_base hshort, digits, Nat.div_eq_of_lt hshort, Nat.mod_eq_of_lt hshort]
    rfl
  · have htens : n / 10 < 10 := by omega
    have hpos : 0 < n / 10 := by omega
    have hsplit := Nat.toDigits_append_toDigits (b := 10) (n := n / 10) (d := n % 10) (by decide)
      hpos (Nat.mod_lt n (by decide))
    rw [Nat.toDigits_of_lt_base htens, Nat.toDigits_of_lt_base (Nat.mod_lt n (by decide)),
      Nat.div_add_mod] at hsplit
    rw [← hsplit]
    rfl

theorem isDigit_of_mem_digits (h : n < 100) (hc : c ∈ digits n) : c.isDigit = true := by
  obtain ⟨d, hd, rfl⟩ : ∃ d, d < 10 ∧ c = Nat.digitChar d := by
    rcases List.mem_cons.mp hc with rfl | hc
    · exact ⟨n / 10, by omega, rfl⟩
    · exact ⟨n % 10, Nat.mod_lt n (by decide), List.mem_singleton.mp hc⟩
  rw [Nat.isDigit_digitChar, decide_eq_true hd]

theorem digitValue_digitChar {d : Nat} (h : d < 10) :
    Extended.digitValue (Nat.digitChar d) = d := by
  unfold Extended.digitValue
  rw [Nat.toNat_digitChar_of_lt_ten h]
  exact Nat.add_sub_cancel_left 48 d

theorem digitsValue_digits (h : n < 100) : Extended.digitsValue (digits n) = n := by
  show (0 * 10 + Extended.digitValue _) * 10 + Extended.digitValue _ = n
  rw [digitValue_digitChar (by omega), digitValue_digitChar (Nat.mod_lt n (by decide))]
  omega

theorem splitSign_of_isDigit {rest : List Char} (h : c.isDigit = true) :
    Extended.splitSign (c :: rest) = (false, c :: rest) := by
  unfold Extended.splitSign
  split
  · next heq =>
    rw [(List.cons.inj heq).1] at h
    cases h
  · next heq =>
    rw [(List.cons.inj heq).1] at h
    cases h
  · rfl

theorem integer?_digits (h : n < 100) : integer? (digits n) = some (n : Int) := by
  have hall : (digits n).all Char.isDigit = true :=
    List.all_eq_true.mpr fun c hc => isDigit_of_mem_digits h hc
  have hsign : Extended.splitSign (digits n) = (false, digits n) :=
    splitSign_of_isDigit (isDigit_of_mem_digits h List.mem_cons_self)
  unfold integer?
  rw [hsign]
  dsimp only
  rw [hall, digitsValue_digits h]
  rfl

end Digits

/-! ### Texts -/

theorem splitMinutes_append {hours minutes : List Char} (h : ':' ∉ hours) :
    splitMinutes (hours ++ ':' :: minutes) = (hours, minutes) := by
  have hpass : ∀ c ∈ hours, (c != ':') = true := fun c hc => by
    rw [bne_iff_ne]
    rintro rfl
    exact h hc
  unfold splitMinutes
  rw [List.dropWhile_append_of_pos hpass, List.takeWhile_append_of_pos hpass,
    List.dropWhile_cons_of_neg (by decide), List.takeWhile_cons_of_neg (by decide),
    List.append_nil]

/-- The offset of a sign, hours and minutes. -/
def ofParts (negative : Bool) (hours minutes : Nat) : Int :=
  let seconds : Int := hours * 3600 + minutes * 60
  if negative then -seconds else seconds

/-- A sign, two digits of hours and two of minutes. -/
def written (negative : Bool) (hours minutes : Nat) : String :=
  String.ofList ((if negative then '-' else '+') :: (digits hours ++ ':' :: digits minutes))

section Written
variable {hours minutes : Nat}

theorem natAbs_ofParts (negative : Bool) (hours minutes : Nat) :
    (ofParts negative hours minutes).natAbs = hours * 3600 + minutes * 60 := by
  unfold ofParts
  dsimp only
  split <;> omega

theorem unsigned?_digits (hhours : hours ≤ 23) (hminutes : minutes ≤ 59) :
    unsigned? (digits hours ++ ':' :: digits minutes) =
      some (hours * 3600 + minutes * 60 : Int) := by
  have hcolon : ':' ∉ digits hours := fun hmem =>
    absurd (isDigit_of_mem_digits (by omega) hmem) (by decide)
  unfold unsigned?
  rw [splitMinutes_append hcolon]
  dsimp only
  rw [integer?_digits (by omega), integer?_digits (by omega)]
  exact if_pos (by omega)

/-- A text of two digits of hours and of minutes names the offset that it spells. -/
theorem read_written (negative : Bool) (hhours : hours ≤ 23) (hminutes : minutes ≤ 59) :
    read (written negative hours minutes) = .ok (ofParts negative hours minutes) := by
  have hoffset : offset? (written negative hours minutes).toList =
      some (ofParts negative hours minutes) := by
    rw [written, String.toList_ofList]
    cases negative with
    | false => exact unsigned?_digits hhours hminutes
    | true =>
      show (unsigned? _).map _ = _
      rw [unsigned?_digits hhours hminutes]
      rfl
  unfold read
  rw [hoffset]

/-- An offset is written with the sign that it has, and no offset is written with a plus. -/
theorem text_ofParts (negative : Bool) (hhours : hours ≤ 23) (hminutes : minutes ≤ 59) :
    text (ofParts negative hours minutes) =
      written (negative && (hours != 0 || minutes != 0)) hours minutes := by
  have hsign : decide (ofParts negative hours minutes < 0) =
      (negative && (hours != 0 || minutes != 0)) := by
    rw [Bool.eq_iff_iff]
    unfold ofParts
    cases negative <;> simp <;> omega
  have hhour : (hours * 3600 + minutes * 60) / 3600 = hours := by omega
  have hminute : (hours * 3600 + minutes * 60) % 3600 / 60 = minutes := by omega
  unfold text written
  dsimp only
  rw [natAbs_ofParts, hhour, hminute, twoDigits_eq (by omega), twoDigits_eq (by omega), ← hsign]
  simp only [decide_eq_true_eq]

theorem read_text_ofParts (negative : Bool) (hhours : hours ≤ 23) (hminutes : minutes ≤ 59) :
    read (text (ofParts negative hours minutes)) = .ok (ofParts negative hours minutes) := by
  rw [text_ofParts negative hhours hminutes, read_written _ hhours hminutes]
  cases negative with
  | false => rfl
  | true =>
    -- Without a sign, no offset is the same.
    unfold ofParts
    by_cases hzero : hours = 0 ∧ minutes = 0
    · rw [hzero.1, hzero.2]
      rfl
    · have hsigned : (hours != 0 || minutes != 0) = true := by
        rw [Bool.or_eq_true, bne_iff_ne, bne_iff_ne]
        omega
      rw [hsigned]
      rfl

end Written

/-! ### Offsets that are read -/

section Read
variable {zone : String} {offset : Int}

/-- A text of hours and minutes names a time of day. -/
theorem exists_of_unsigned? {rest : List Char} {seconds : Int} (h : unsigned? rest = some seconds) :
    ∃ hours minutes : Nat, hours ≤ 23 ∧ minutes ≤ 59 ∧ seconds = hours * 3600 + minutes * 60 := by
  unfold unsigned? at h
  simp only [Option.bind_eq_bind, Option.bind_eq_some_iff, Option.ite_none_right_eq_some,
    Option.some_inj] at h
  obtain ⟨hours, -, minutes, -, hbounds, rfl⟩ := h
  exact ⟨hours.toNat, minutes.toNat, by omega, by omega, by omega⟩

/-- Whatever its text is like, an offset that can be read is one of hours and minutes. -/
theorem exists_ofParts (h : read zone = .ok offset) :
    ∃ negative hours minutes, hours ≤ 23 ∧ minutes ≤ 59 ∧
      offset = ofParts negative hours minutes := by
  have hread : offset? zone.toList = some offset := by
    unfold read at h
    split at h
    · next heq => rw [heq, Except.ok.inj h]
    · cases h
  unfold offset? at hread
  split at hread
  case h_1 =>
    cases hread
    exact ⟨false, 0, 0, by decide, by decide, rfl⟩
  case h_2 =>
    obtain ⟨hours, minutes, hhours, hminutes, rfl⟩ := exists_of_unsigned? hread
    exact ⟨false, hours, minutes, hhours, hminutes, rfl⟩
  case h_3 =>
    obtain ⟨seconds, hseconds, rfl⟩ := Option.map_eq_some_iff.mp hread
    obtain ⟨hours, minutes, hhours, hminutes, rfl⟩ := exists_of_unsigned? hseconds
    exact ⟨true, hours, minutes, hhours, hminutes, rfl⟩
  case h_4 => cases hread

/-- An offset that was read is written in one way, and read again from that. -/
theorem text_of_read (h : read zone = .ok offset) :
    (∃ negative hours minutes, hours ≤ 23 ∧ minutes ≤ 59 ∧
      text offset = written negative hours minutes) ∧ read (text offset) = .ok offset := by
  obtain ⟨negative, hours, minutes, hhours, hminutes, rfl⟩ := exists_ofParts h
  exact ⟨⟨_, hours, minutes, hhours, hminutes, text_ofParts negative hhours hminutes⟩,
    read_text_ofParts negative hhours hminutes⟩

end Read

end DocQuery.Zone
