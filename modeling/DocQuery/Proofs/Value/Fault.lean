import DocQuery.Proofs.Fault
import DocQuery.Value.Arithmetic
import DocQuery.Value.Coerce
import DocQuery.Value.Document
import DocQuery.Value.Index

/-! What operations on values fail with.

Whatever a view, an arithmetical operation, a selector or a time cannot do is the fault of an
operation (`Operational`). The lemmas are tagged for `simp`, which finds them wherever a
result is worked out. -/
namespace DocQuery

/-! ### Views -/

namespace Json

@[simp] theorem operational_asNumber (v : Json) : Operational v.asNumber := by
  unfold asNumber
  split
  · exact .ok _
  · exact FailsOnly.error_iff.mpr trivial

@[simp] theorem operational_asInteger (v : Json) : Operational v.asInteger :=
  .bind (operational_asNumber v) fun _ => .ite (.ok _) (FailsOnly.throw_iff.mpr trivial)

@[simp] theorem operational_asString (v : Json) : Operational v.asString := by
  unfold asString
  split
  · exact .ok _
  · exact FailsOnly.error_iff.mpr trivial

@[simp] theorem operational_asObject (v : Json) : Operational v.asObject := by
  unfold asObject
  split
  · exact .ok _
  · exact FailsOnly.error_iff.mpr trivial

@[simp] theorem operational_asArray (v : Json) : Operational v.asArray := by
  unfold asArray
  split
  · exact .ok _
  · exact FailsOnly.error_iff.mpr trivial

end Json

@[simp] theorem Extended.operational_toJson (x : Extended) : Operational x.toJson := by
  unfold toJson
  split
  · simp
  · exact FailsOnly.error_iff.mpr trivial

/-! ### Times -/

@[simp] theorem Zone.operational_read (text : String) : Operational (Zone.read text) := by
  unfold Zone.read
  split
  · exact .ok _
  · exact FailsOnly.error_iff.mpr trivial

@[simp] theorem Moment.operational_ofEpoch (seconds : Extended) (offset : Int) :
    Operational (Moment.ofEpoch seconds offset) := by
  unfold Moment.ofEpoch
  exact .ite (.ok _) (FailsOnly.error_iff.mpr trivial)

@[simp] theorem Iso.operational_localTime (text : String) : Operational (Iso.localTime text) := by
  unfold Iso.localTime
  split
  · exact .ok _
  · exact FailsOnly.error_iff.mpr trivial

namespace Time

@[simp] theorem operational_ofMoment (m : Moment) : Operational (ofMoment m) := by
  simp [ofMoment]

@[simp] theorem operational_epoch (v : Json) : Operational (epoch v) := by
  unfold epoch
  split
  · split
    · exact .ok _
    · exact FailsOnly.error_iff.mpr trivial
  · exact FailsOnly.error_iff.mpr trivial

@[simp] theorem operational_moment (v : Json) : Operational (moment v) := by
  unfold moment
  refine .bind (operational_epoch v) fun seconds => ?_
  dsimp only
  split
  · exact .bind (Zone.operational_read _) fun offset => Moment.operational_ofEpoch _ offset
  · exact .bind (.pure 0) fun offset => Moment.operational_ofEpoch _ offset

@[simp] theorem operational_shift (v : Json) (seconds : Extended) :
    Operational (shift v seconds) :=
  .bind (operational_moment v) fun _ => .bind (operational_epoch v) fun _ =>
    .bind (Moment.operational_ofEpoch _ _) fun m => operational_ofMoment m

@[simp] theorem operational_splitZone (args : List Json) : Operational (splitZone args) := by
  unfold splitZone
  split <;> simp

@[simp] theorem operational_ofArguments (args : List Json) : Operational (ofArguments args) := by
  unfold ofArguments
  refine .bind (operational_splitZone args) fun parted => ?_
  dsimp only
  split
  · refine .bind (.mapM fun v _ => Json.operational_asNumber v) fun numbers => ?_
    split
    · exact FailsOnly.throw_iff.mpr trivial
    · split
      · split
        · exact FailsOnly.throw_iff.mpr trivial
        · exact .bind (Moment.operational_ofEpoch _ _) fun m => operational_ofMoment m
      · exact .throw_bind trivial
  · exact .throw_bind trivial

@[simp] theorem operational_ofEpoch (v : Json) : Operational (ofEpoch v) := by
  simp [ofEpoch]

@[simp] theorem operational_ofIso (text : Json) (defaultZone : Option Json) :
    Operational (ofIso text defaultZone) := by
  unfold ofIso
  refine .bind (Json.operational_asString text) fun text => ?_
  split
  · exact operational_ofMoment _
  · refine .bind (Iso.operational_localTime text) fun parted => ?_
    dsimp only
    split
    · exact FailsOnly.throw_iff.mpr trivial
    · refine .bind (Json.operational_asString _) fun zone => ?_
      refine .bind (Zone.operational_read zone) fun offset => ?_
      split
      · exact operational_ofMoment _
      · exact FailsOnly.throw_iff.mpr trivial

@[simp] theorem operational_inZone (v zone : Json) : Operational (inZone v zone) :=
  .bind (Json.operational_asString zone) fun zone => .bind (Zone.operational_read zone) fun _ =>
    .bind (operational_moment v) fun _ => operational_ofMoment _

@[simp] theorem operational_isoText (v : Json) : Operational (isoText v) := by
  simp [isoText]

@[simp] theorem operational_date (v : Json) : Operational (date v) := by
  unfold date
  refine .bind (operational_moment v) fun m => ?_
  split
  · exact operational_ofMoment _
  · exact FailsOnly.throw_iff.mpr trivial

@[simp] theorem operational_timeOfDay (v : Json) : Operational (timeOfDay v) := by
  simp [timeOfDay]

@[simp] theorem operational_component (v : Json) (accessor : String) :
    Operational (component v accessor) := by
  unfold component
  refine .bind (operational_moment v) fun m => ?_
  split
  case h_8 => exact Extended.operational_toJson _
  case h_9 => exact FailsOnly.throw_iff.mpr trivial
  all_goals exact .ok _

@[simp] theorem operational_during (v start stop : Json) (leftOpen rightClosed : Bool) :
    Operational (during v start stop leftOpen rightClosed) :=
  .bind (operational_epoch v) fun _ => .bind (operational_epoch start) fun _ =>
    .bind (operational_epoch stop) fun _ => .ok _

end Time

namespace Json

/-! ### Arithmetic -/

@[simp] theorem operational_boundedLength (length : Nat) : Operational (boundedLength length) := by
  unfold boundedLength
  exact .ite (.ok _) (FailsOnly.error_iff.mpr trivial)

@[simp] theorem operational_add (a b : Json) : Operational (add a b) := by
  unfold add
  split
  · exact Extended.operational_toJson _
  · exact .ok _
  · exact .ok _
  · exact .ite (Time.operational_shift _ _) (FailsOnly.error_iff.mpr trivial)
  · exact FailsOnly.error_iff.mpr trivial

@[simp] theorem operational_sub (a b : Json) : Operational (sub a b) := by
  unfold sub
  split
  · exact Extended.operational_toJson _
  · exact .ite (Time.operational_shift _ _) (FailsOnly.error_iff.mpr trivial)
  · refine .ite ?_ (FailsOnly.error_iff.mpr trivial)
    exact .bind (Time.operational_epoch _) fun _ => .bind (Time.operational_epoch _) fun _ =>
      Extended.operational_toJson _
  · exact FailsOnly.error_iff.mpr trivial

@[simp] theorem operational_repeated (items : List Json) (times : Json) :
    Operational (repeated items times) := by
  simp [repeated]

@[simp] theorem operational_mul (a b : Json) : Operational (mul a b) := by
  unfold mul
  split
  · exact Extended.operational_toJson _
  · exact operational_repeated _ _
  · exact operational_repeated _ _
  · exact FailsOnly.error_iff.mpr trivial

@[simp] theorem operational_div (a b : Json) : Operational (div a b) := by
  refine .bind (operational_asNumber b) fun divisor => ?_
  dsimp only
  split
  · exact .throw_bind trivial
  · exact .bind (operational_asNumber a) fun _ => Extended.operational_toJson _

@[simp] theorem operational_modulo (a b : Json) : Operational (modulo a b) := by
  refine .bind (operational_asInteger b) fun divisor => ?_
  dsimp only
  split
  · exact .throw_bind trivial
  · refine .bind (operational_asInteger a) fun dividend => ?_
    split
    · exact .throw_bind trivial
    · exact .ok _

@[simp] theorem operational_total (values : List Json) : Operational (total values) :=
  .bind (.mapM fun v _ => operational_asNumber v) fun _ => .ok _

/-! ### Positions -/

@[simp] theorem operational_itemAt (items : List Json) (i : Int) :
    Operational (itemAt items i) := by
  unfold itemAt
  split
  · exact .ok _
  · exact FailsOnly.error_iff.mpr trivial

@[simp] theorem operational_indexIn (items : List Json) (i : Int) :
    Operational (indexIn items i) := by
  unfold indexIn
  split
  · exact .ok _
  · exact FailsOnly.error_iff.mpr trivial

@[simp] theorem operational_gapIn (items : List Json) (i : Int) :
    Operational (gapIn items i) := by
  unfold gapIn
  split
  · exact .ok _
  · exact FailsOnly.error_iff.mpr trivial

/-! ### Kinds -/

@[simp] theorem operational_coerceTo (v : Json) (target : String) :
    Operational (v.coerceTo target) := by
  unfold coerceTo
  dsimp only
  split
  case h_2 | h_9 =>
    split
    · simp
    · exact FailsOnly.error_iff.mpr trivial
  all_goals first | exact .ok _ | exact FailsOnly.error_iff.mpr trivial

/-! ### Documents -/

mutual

theorem operational_pick (fields picked : Fields Json) :
    ∀ selector : Json, Operational (pick fields picked selector)
  | .string key => by
    rw [pick]
    split <;> exact .ok _
  | .array selectors => by
    rw [pick]
    exact operational_pickAll fields picked selectors
  | .object paths => by
    rw [pick]
    exact operational_pickPaths fields picked paths
  | .null | .bool _ | .number _ => FailsOnly.error_iff.mpr trivial

theorem operational_pickAll (fields picked : Fields Json) :
    ∀ selectors : List Json, Operational (pickAll fields picked selectors)
  | [] => .ok _
  | selector :: rest => by
    rw [pickAll]
    exact .bind (operational_pick fields picked selector) fun picked =>
      operational_pickAll fields picked rest

theorem operational_pickPaths (fields picked : Fields Json) :
    ∀ paths : List (String × Json), Operational (pickPaths fields picked paths)
  | [] => .ok _
  | (key, inner) :: rest => by
    rw [pickPaths]
    split
    · split
      · exact operational_pickPaths fields _ rest
      · split
        · next nested _ =>
          exact .bind (operational_pick nested [] inner) fun _ =>
            operational_pickPaths fields _ rest
        · exact operational_pickPaths fields picked rest
    · exact operational_pickPaths fields picked rest

end

@[simp] theorem operational_pluck (v : Json) (selectors : List Json) :
    Operational (v.pluck selectors) :=
  .bind (operational_asObject v) fun fields =>
    .bind (operational_pickAll fields [] selectors) fun _ => .ok _

mutual

theorem operational_drop (fields : Fields Json) :
    ∀ selector : Json, Operational (drop fields selector)
  | .string _ => .ok _
  | .array selectors => by
    rw [drop]
    exact operational_dropAll fields selectors
  | .null | .bool _ | .number _ | .object _ => FailsOnly.error_iff.mpr trivial

theorem operational_dropAll (fields : Fields Json) :
    ∀ selectors : List Json, Operational (dropAll fields selectors)
  | [] => .ok _
  | selector :: rest => by
    rw [dropAll]
    exact .bind (operational_drop fields selector) fun fields => operational_dropAll fields rest

end

@[simp] theorem operational_without (v : Json) (selectors : List Json) :
    Operational (v.without selectors) :=
  .bind (operational_asObject v) fun fields =>
    .bind (operational_dropAll fields selectors) fun _ => .ok _

@[simp] theorem operational_getField (v : Json) (key : String) : Operational (v.getField key) := by
  unfold getField
  refine .bind (operational_asObject v) fun fields => ?_
  split
  · exact .ok _
  · exact FailsOnly.throw_iff.mpr trivial

@[simp] theorem operational_present (v : Json) : Operational v.present := by
  unfold present
  exact .ite (FailsOnly.error_iff.mpr trivial) (.ok _)

@[simp] theorem operational_fieldOrFields (v : Json) (key : String) :
    Operational (v.fieldOrFields key) := by
  unfold fieldOrFields
  refine .bind (operational_present v) fun document => ?_
  split
  · exact .ok _
  · exact operational_getField _ key

end Json

end DocQuery
