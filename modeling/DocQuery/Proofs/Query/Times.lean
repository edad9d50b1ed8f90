import DocQuery.Proofs.Query.Receivers
import DocQuery.Proofs.Time.Value

/-! Times taken apart and put together.

The accessors of a time, its date and its time of day are methods without other arguments
(`Operation.TakesPart`). Put together again, by the constructor or by a sum, what they take of a
time of whole seconds is that time (`Query.run_parts`). -/
namespace DocQuery

/-! ### Times of arguments -/

namespace Query
open Evaluation
variable {settings : Settings} {source : Json} {terms values : List Json} {context : Run.Context}
  {state : Run.State}

/-- A time is made of the values of its arguments. -/
theorem YieldAll.run_time (h : YieldAll settings context state terms values)
    (hcount : Operation.time.descriptor.accepts terms.length = true) :
    run ⟨nodeTerm .time terms none, settings⟩ context state = (Time.ofArguments values, state) := by
  obtain ⟨handles, hterms, hheads, hvalues⟩ := h.exists_handles
  have hpermitted : Operator.permitted ⟨.time, .list terms, none⟩ = .ok () :=
    permitted_eq_ok (Operation.legal_of_isRegular rfl) hcount (.inr rfl)
  have hbuild : DocQuery.build settings (nodeTerm .time terms none) =
      .ok (.call .time handles []) := by
    unfold DocQuery.build
    rw [evaluate_nodeTerm rfl, hpermitted, hterms]
    show assembled .time [] handles = _
    unfold assembled
    rw [constructed_nil]
    rfl
  let call : Call := ⟨.time, Handle.arguments Function.invoke handles, []⟩
  have hplain : ∀ arg ∈ call.args, arg.head ≠ some .args := Handle.heads_arguments hheads
  rw [run_of_build hbuild, Handle.run_eq_invoke]
  show (call.run >>= Datum.materialize).outcome context state = _
  rw [Call.run_eq_perform hplain]
  show ((DocQuery.values call.args >>= fun values =>
    liftM (Time.ofArguments values) >>= fun value => pure (Datum.value value)) >>=
      Datum.materialize : Run Json).outcome context state = _
  have hargs : (DocQuery.values call.args).outcome context state = (.ok values, state) :=
    Run.outcome_mapM hvalues
  rw [Run.outcome_bind, Run.outcome_bind, hargs]
  dsimp only
  rw [Run.outcome_bind, Run.outcome_lift]
  cases Time.ofArguments values <;> rfl

end Query

/-! ### Parts -/

/-- The operation makes its receiver another value and has no other arguments. -/
structure Operation.TakesPart (op : Operation) (part : Json → Except Fault Json) : Prop where
  runs : op.runsReceiver = true
  count : op.descriptor.accepts 1 = true
  groups : Call.runsPerGroup op = false
  dispatch : ∀ first value, Call.dispatch ⟨op, [first], []⟩ (.value value) =
    liftM ((part value).map Datum.value)

/-- The operations that take apart the date and the clock of a time. -/
def fieldOps : List Operation := [.year, .month, .day, .hours, .minutes, .seconds]

namespace Operation

theorem takesPart_component : ∀ op ∈ fieldOps, op.TakesPart (Time.component · op.method) := by
  intro op hop
  have hop : op = .year ∨ op = .month ∨ op = .day ∨ op = .hours ∨ op = .minutes ∨
      op = .seconds := by simpa [fieldOps] using hop
  rcases hop with rfl | rfl | rfl | rfl | rfl | rfl <;>
    exact ⟨rfl, rfl, rfl, fun _ _ => (Run.lift_map _ _).symm⟩

theorem takesPart_timezone : timezone.TakesPart Call.zoneOf :=
  ⟨rfl, rfl, rfl, fun _ _ => (Run.lift_map _ _).symm⟩

theorem takesPart_date : date.TakesPart Time.date :=
  ⟨rfl, rfl, rfl, fun _ _ => (Run.lift_map _ _).symm⟩

theorem takesPart_timeOfDay : timeOfDay.TakesPart Time.timeOfDay :=
  ⟨rfl, rfl, rfl, fun _ _ => (Run.lift_map _ _).symm⟩

end Operation

/-- The term of an operation that takes a part of what another term means. -/
def partTerm (op : Operation) (source : Json) : Json := methodTerm op source [] none

/-- The time that is made of the parts of what another term means. -/
def rebuiltTerm (source : Json) : Json :=
  nodeTerm .time (fieldOps.map (partTerm · source) ++ [partTerm .timezone source]) none

/-- The date of what another term means, shifted by the time of day of that. -/
def shiftedTerm (source : Json) : Json :=
  methodTerm .add (partTerm .date source) [partTerm .timeOfDay source] none

namespace Query
open Evaluation
variable {settings : Settings} {op : Operation} {source value result : Json}
  {context : Run.Context} {state : Run.State}

theorem Yields.part {part : Json → Except Fault Json} (hop : op.TakesPart part)
    (hsource : Yields settings source context state (.ok value) state)
    (hpart : part value = .ok result) :
    Yields settings (partTerm op source) context state (.ok result) state := by
  have hmethod : Yields settings (methodTerm op source (([] : List Json).map datumTerm) none)
      context state (Except.ok value >>= part) state := by
    refine Yields.method hop.runs hop.count (.inr rfl) hsource (fun _ _ => ?_)
      fun first found _ => hop.dispatch first found
    rw [hop.groups]
    rfl
  have hresult : (Except.ok value >>= part) = .ok result := hpart
  rwa [hresult] at hmethod

section Times
open Time
variable {n : Int} {m : Moment}

/-- The fields of a time are what its accessors yield. -/
theorem Yields.fields (hmoment : moment value = .ok m) (hnanos : m.nanos = 0)
    (hsource : Yields settings source context state (.ok value) state) :
    YieldAll settings context state (fieldOps.map (partTerm · source)) (Time.fields m) := by
  have hnames : List.Forall₂ (fun accessor field => component value accessor = .ok field)
      (fieldOps.map Operation.method) (Time.fields m) := component_eq hmoment hnanos
  have hfields := List.forall₂_map_left_iff.mp hnames
  refine List.forall₂_map_left_iff.mpr ?_
  have hparts := (List.forall₂_and_left _ _).mpr ⟨Operation.takesPart_component, hfields⟩
  exact hparts.imp fun op field h => hsource.part h.1 h.2

/-- A sum adds the value of its argument to that of its receiver. -/
theorem Yields.add {term other : Json}
    (hsource : Yields settings source context state (.ok value) state)
    (hterm : Yields settings term context state (.ok other) state) :
    Yields settings (methodTerm .add source [term] none) context state (value.add other) state := by
  refine Yields.operand rfl rfl rfl (fun first arg => ?_) hsource hterm
  show (((arg.value >>= fun other => liftM (value.add other)) >>= pure) >>= fun sum =>
    pure (Datum.value sum) : Run Datum) = _
  simp only [bind_pure, bind_assoc, Run.lift_map]

/-- A time of whole seconds is put together again of its parts, and so it is of its date and its
time of day. The zone is as it was written, but that no offset is written with a plus. -/
theorem run_parts (negative : Bool) {hours minutes : Nat} (hhours : hours ≤ 23)
    (hminutes : minutes ≤ 59)
    (hfirst : 0 ≤ (Moment.mk n 0 (Zone.ofParts negative hours minutes)).date.year)
    (hlast : (Moment.mk n 0 (Zone.ofParts negative hours minutes)).date.year ≤ 9999)
    (hsource : Yields settings source context state
      (.ok (ofSeconds n (Zone.written negative hours minutes))) state) :
    let zone := Zone.written (negative && (hours != 0 || minutes != 0)) hours minutes
    run ⟨rebuiltTerm source, settings⟩ context state = (.ok (ofSeconds n zone), state) ∧
      run ⟨shiftedTerm source, settings⟩ context state = (.ok (ofSeconds n zone), state) := by
  let m : Moment := ⟨n, 0, Zone.ofParts negative hours minutes⟩
  intro zone
  have hzone : Zone.text m.offset = zone := Zone.text_ofParts negative hhours hminutes
  have hread := Zone.read_written negative hhours hminutes
  have hoffset : m.offset.natAbs < 86400 := by
    show (Zone.ofParts negative hours minutes).natAbs < 86400
    rw [Zone.natAbs_ofParts]
    omega
  obtain ⟨hseconds, hmidnight⟩ := Moment.natAbs_le_of_year (m := m) hfirst hlast hoffset
  have hrange : Moment.inRange m.seconds = true := Moment.inRange_of_natAbs_le hseconds
  have hmidnight := Moment.inRange_of_natAbs_le hmidnight
  have hmoment : moment (ofSeconds n (Zone.written negative hours minutes)) = .ok m :=
    moment_ofSeconds hread hrange
  constructor
  · have hwritten : Yields settings (partTerm .timezone source) context state
        (.ok (.string (Zone.written negative hours minutes))) state :=
      hsource.part Operation.takesPart_timezone rfl
    have hall : YieldAll settings context state _ _ :=
      List.rel_append (hsource.fields hmoment rfl) (.cons hwritten .nil)
    refine (hall.run_time rfl).trans ?_
    rw [ofArguments_fields (m := m) hread rfl hfirst hlast hrange, hzone]
  · have hdate := hsource.part Operation.takesPart_date (date_eq hmoment hmidnight)
    have htime := hsource.part Operation.takesPart_timeOfDay (timeOfDay_eq hmoment rfl)
    have hsum := hdate.add htime
    rw [add_secondOfDay (Zone.read_text_ofParts negative hhours hminutes) hmidnight hrange,
      hzone] at hsum
    exact hsum.run_eq

/-- A leap day before 1970, at an hour that belongs to the next day elsewhere. -/
theorem run_parts_leap_day :
    let time := ofSeconds (-57974400) "-03:30"
    let context : Run.Context := ⟨⟨0, 0, 0⟩, fun _ => 0⟩
    let state : Run.State := ⟨.empty, 0⟩
    (Moment.mk (-57974400) 0 (-12600)).date = ⟨1968, 2, 29⟩ ∧
      run ⟨rebuiltTerm (datumTerm time), {}⟩ context state = (.ok time, state) ∧
      run ⟨shiftedTerm (datumTerm time), {}⟩ context state = (.ok time, state) := by
  intro time context state
  have hhours : 3 ≤ 23 := by decide
  have hminutes : 30 ≤ 59 := by decide
  have hparts := run_parts true hhours hminutes (by decide) (by decide)
    (Yields.datum {} time context state)
  exact ⟨by decide, hparts⟩

end Times

end Query

end DocQuery
