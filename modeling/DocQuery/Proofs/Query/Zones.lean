import DocQuery.Proofs.Query.Comparisons
import DocQuery.Proofs.Time.Value

/-! Times in other zones.

A zone that can be read is written in one way, as a sign, two digits of hours and two of minutes,
and however it was spelled a time is shown in the zone so written. The instant stays the same: the
seconds do, and the two times are equal (`Query.run_zoned`). -/
namespace DocQuery

/-! ### Values -/

namespace Time
open Json
variable {value value' : Json} {n offset offset' : Int}

/-- Times of the same seconds are equal in any zones. -/
theorem IsWhole.equals (h : IsWhole value n offset) (h' : IsWhole value' n offset') :
    value.equals value' = true := by
  have horder : value.order value' = .eq := by
    cases value with
    | object fields =>
      cases value' with
      | object fields' =>
        rw [order_times h.isTime h'.isTime]
        unfold orderOfTimes
        rw [h.epoch?_eq, h'.epoch?_eq]
        simp [Binary64.order]
      | _ => cases h'.isTime
    | _ => cases h.isTime
  exact equals_iff.mpr horder

end Time

/-! ### Queries -/

/-- What a term means, in the zone that another one means. -/
def zonedTerm (source zone : Json) : Json := methodTerm .inTimezone source [zone] none

/-- Whether two terms mean equal values. -/
def equalTerm (source term : Json) : Json := methodTerm .eq source [term] none

namespace Query
variable {settings : Settings} {source term value other : Json} {context : Run.Context}
  {state : Run.State}

theorem Yields.zoned (hsource : Yields settings source context state (.ok value) state)
    (hterm : Yields settings term context state (.ok other) state) :
    Yields settings (zonedTerm source term) context state (Time.inZone value other) state := by
  refine Yields.operand rfl rfl rfl (fun first arg => ?_) hsource hterm
  show ((arg.value >>= fun other => liftM (Time.inZone value other)) >>= fun shown =>
    pure (Datum.value shown) : Run Datum) = _
  simp only [bind_assoc, Run.lift_map]

theorem Yields.equal (hsource : Yields settings source context state (.ok value) state)
    (hterm : Yields settings term context state (.ok other) state) :
    Yields settings (equalTerm source term) context state (.ok (.bool (value.equals other)))
      state := by
  let verdict (value other : Json) : Except Fault Json := .ok (.bool (value.equals other))
  refine Yields.operand (f := verdict) rfl rfl rfl (fun first arg => ?_) hsource hterm
  have hvalues : values [arg] = arg.value >>= fun other => pure [other] := by simp [values]
  show (((values [arg] >>= fun operands => pure (Call.chained Json.equals (value :: operands))) >>=
    fun holds => pure (Json.bool holds)) >>= fun v => pure (Datum.value v) : Run Datum) = _
  simp only [hvalues, bind_assoc, pure_bind, Call.chained, Bool.and_true]
  rfl

/-- A zone that can be read is written in one way, and is read from that as it was. In the zone a
time of whole seconds has the same seconds, is the same as in the zone as it is written, and is
equal to the time that it was. -/
theorem run_zoned {zone : String} {offset : Int} (hzone : Zone.read zone = .ok offset) :
    let canonical := Zone.text offset
    (∃ negative hours minutes, hours ≤ 23 ∧ minutes ≤ 59 ∧
      canonical = Zone.written negative hours minutes) ∧
    Zone.read canonical = .ok offset ∧
    ∀ {settings : Settings} {source term value : Json} {context : Run.Context} {state : Run.State}
      {n offset' : Int}, Time.IsWhole value n offset' → Moment.inRange n = true →
      Yields settings source context state (.ok value) state →
      Yields settings term context state (.ok (.string zone)) state →
      let runs (term : Json) := run ⟨term, settings⟩ context state
      let shown := zonedTerm source term
      runs shown = (.ok (Time.ofSeconds n canonical), state) ∧
        runs (zonedTerm source (datumTerm (.string canonical))) = runs shown ∧
        runs (equalTerm source shown) = (.ok (.bool true), state) := by
  intro canonical
  obtain ⟨hwritten, hread⟩ := Zone.text_of_read hzone
  refine ⟨hwritten, hread, ?_⟩
  intro settings source term value context state n offset' hvalue hrange hsource hterm runs shown
  have hcanonical := Yields.datum settings (.string canonical) context state
  have hshown := hsource.zoned hterm
  rw [hvalue.inZone_eq hrange hzone] at hshown
  have hagain := hsource.zoned hcanonical
  rw [hvalue.inZone_eq hrange hread] at hagain
  have hequal := hsource.equal hshown
  rw [hvalue.equals (Time.isWhole_ofSeconds n hread)] at hequal
  exact ⟨hshown.run_eq, hagain.run_eq.trans hshown.run_eq.symm, hequal.run_eq⟩

/-- Signs and zeros that the zone is not written with, and a time without a zone. -/
theorem run_zoned_minutes :
    let zone := "--0:+007"
    let value : Json :=
      .object [(tagKey, .string "TIME"), ("epoch_time", .ofInt (-1)), ("note", .null)]
    let shown := zonedTerm (datumTerm value) (datumTerm (.string zone))
    let context : Run.Context := ⟨⟨0, 0, 0⟩, fun _ => 0⟩
    let state : Run.State := ⟨.empty, 0⟩
    Zone.read zone = .ok (-420) ∧ Zone.read "-00:07" = .ok (-420) ∧
      run ⟨shown, {}⟩ context state = (.ok (Time.ofSeconds (-1) "-00:07"), state) ∧
      run ⟨equalTerm (datumTerm value) shown, {}⟩ context state = (.ok (.bool true), state) := by
  intro zone value shown context state
  have hzone : Zone.read zone = .ok (-420) := by decide +kernel
  have hvalue : Time.IsWhole value (-1) 0 := ⟨by decide +kernel, rfl, rfl⟩
  obtain ⟨-, hread, hruns⟩ := run_zoned hzone
  obtain ⟨hshown, -, hequal⟩ := hruns hvalue (by decide) (Yields.datum {} value context state)
    (Yields.datum {} (.string zone) context state)
  exact ⟨hzone, hread, hshown, hequal⟩

end Query

end DocQuery
