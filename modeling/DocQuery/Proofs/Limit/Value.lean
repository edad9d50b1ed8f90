import DocQuery.Proofs.Run.Selection
import DocQuery.Proofs.Run.Control
import DocQuery.Proofs.Run.Aggregate
import DocQuery.Proofs.Value.Sets

/-! Values whose arrays are no longer than a limit.

An array is built of what is there: items that are picked from others are no more than they
were, and fields are copied with what they hold. What gets longer than its operands has to be
measured against the limit (`Json.boundedLength`). The lemmas say for each way to work out a
value that it keeps `Within`, where it does. -/
namespace DocQuery
namespace Json

mutual

/-- Every array in a value, at any depth, has at most so many items. -/
def Within (limit : Nat) : Json → Prop
  | .array items => items.length ≤ limit ∧ WithinItems limit items
  | .object fields => WithinFields limit fields
  | _ => True

def WithinItems (limit : Nat) : List Json → Prop
  | [] => True
  | item :: rest => Within limit item ∧ WithinItems limit rest

def WithinFields (limit : Nat) : List (String × Json) → Prop
  | [] => True
  | (_, value) :: rest => Within limit value ∧ WithinFields limit rest

end

variable {n : Nat} {v w : Json} {items : List Json} {fields : Fields Json}

theorem within_array_iff :
    (Json.array items).Within n ↔ items.length ≤ n ∧ ∀ item ∈ items, item.Within n := by
  have hall : WithinItems n items ↔ ∀ item ∈ items, item.Within n := by
    induction items with
    | nil => simp [WithinItems]
    | cons item rest ih => simp [WithinItems, ih]
  rw [Within, hall]

theorem within_object_iff :
    (Json.object fields).Within n ↔ ∀ field ∈ fields, field.2.Within n := by
  rw [Within]
  induction fields with
  | nil => simp [WithinFields]
  | cons field rest ih => simp [WithinFields, ih]

theorem within_empty : (Json.object []).Within n := trivial

namespace Within

/-! ### Items -/

/-- Some of the items, in any order. -/
theorem picked (h : (Json.array items).Within n) {picked : List Json} (hpicked : List.Subperm picked items) :
    (Json.array picked).Within n := by
  obtain ⟨hlength, hitems⟩ := within_array_iff.mp h
  refine within_array_iff.mpr ⟨Nat.le_trans hpicked.length_le hlength, fun item hitem => ?_⟩
  exact hitems item (hpicked.subset hitem)

theorem item (h : (Json.array items).Within n) (hitem : w ∈ items) : w.Within n :=
  (within_array_iff.mp h).2 w hitem

/-- What comes of some of the items, one by one. -/
theorem filterMap (h : (Json.array items).Within n) {f : Json → Option Json}
    (hf : ∀ v w, v.Within n → f v = some w → w.Within n) :
    (Json.array (items.filterMap f)).Within n := by
  refine within_array_iff.mpr ⟨?_, fun found hfound => ?_⟩
  · exact Nat.le_trans (List.length_filterMap_le f items) (within_array_iff.mp h).1
  · obtain ⟨v, hv, hfv⟩ := List.mem_filterMap.mp hfound
    exact hf v found (h.item hv) hfv

/-! ### Fields -/

theorem get? (h : (Json.object fields).Within n) {key : String}
    (hv : Fields.get? fields key = some v) : v.Within n := by
  obtain ⟨before, after, rfl, -⟩ := List.lookup_eq_some_iff.mp hv
  exact within_object_iff.mp h (key, v) List.mem_append_cons_self

theorem field? (h : v.Within n) {key : String} (hw : v.field? key = some w) : w.Within n := by
  cases v with
  | object fields => exact h.get? hw
  | _ => cases hw

/-- No more fields are taken of the documents in a list than there are documents. -/
theorem fieldOfEach (h : (Json.array items).Within n) (key : String) :
    (Json.array (items.filterMap (·.field? key))).Within n :=
  h.filterMap fun _ _ hv hw => hv.field? hw

theorem insert (h : (Json.object fields).Within n) (hv : v.Within n) (key : String) :
    (Json.object (Fields.insert fields key v)).Within n := by
  rw [within_object_iff] at h ⊢
  induction fields with
  | nil => simpa [Fields.insert] using hv
  | cons field rest ih =>
    obtain ⟨hfield, hrest⟩ := List.forall_mem_cons.mp h
    unfold Fields.insert
    split
    · exact List.forall_mem_cons.mpr ⟨hv, h⟩
    · split
      · exact List.forall_mem_cons.mpr ⟨hv, hrest⟩
      · exact List.forall_mem_cons.mpr ⟨hfield, ih hrest⟩

theorem remove (h : (Json.object fields).Within n) (key : String) :
    (Json.object (Fields.remove fields key)).Within n :=
  within_object_iff.mpr fun field hfield =>
    within_object_iff.mp h field (List.mem_filter.mp hfield).1

end Within

theorem within_ofFields {entries : List (String × Json)}
    (h : ∀ entry ∈ entries, entry.2.Within n) : (ofFields entries).Within n := by
  unfold ofFields Fields.ofList
  refine List.foldlRecOn entries _ (motive := fun fields => (Json.object fields).Within n) ?_ ?_
  · trivial
  · exact fun fields hfields entry hentry => hfields.insert (h entry hentry) entry.1

/-! ### Views -/

namespace Within

theorem asArray (h : v.Within n) (hitems : v.asArray = .ok items) : (Json.array items).Within n := by
  cases v with
  | array => exact Except.ok.inj hitems ▸ h
  | _ => cases hitems

theorem asObject (h : v.Within n) (hfields : v.asObject = .ok fields) :
    (Json.object fields).Within n := by
  cases v with
  | object => exact Except.ok.inj hfields ▸ h
  | _ => cases hfields

theorem present (h : v.Within n) (hw : v.present = .ok w) : w.Within n := by
  unfold Json.present at hw
  split at hw
  · cases hw
  · exact Except.ok.inj hw ▸ h

/-! ### Documents -/

theorem getField (h : v.Within n) {key : String} (hw : v.getField key = .ok w) : w.Within n := by
  obtain ⟨fields, hfields, hw⟩ := bind_eq_ok hw
  split at hw
  · next found hfound => exact Except.ok.inj hw ▸ (h.asObject hfields).get? hfound
  · cases hw

theorem fieldOrFields (h : v.Within n) {key : String} (hw : v.fieldOrFields key = .ok w) :
    w.Within n := by
  obtain ⟨document, hdocument, hw⟩ := bind_eq_ok hw
  have hdocument := h.present hdocument
  split at hw
  · cases hw
    exact hdocument.fieldOfEach key
  · exact hdocument.getField hw

theorem replacement (h : v.Within n) : v.replacement.Within n := by
  unfold Json.replacement
  split
  · cases hvalue : v.field? "value" with
    | none => trivial
    | some held => exact h.field? hvalue
  · exact h

mutual

theorem merge {base : Json} (hbase : base.Within n) :
    ∀ patch : Json, patch.Within n → (base.merge patch).Within n
  | .object patch, hpatch => by
    unfold Json.merge
    split
    · split
      · exact hpatch.replacement
      · exact mergeFields hbase patch hpatch
    · exact hpatch.replacement
  | .null, _ | .bool _, _ | .number _, _ | .string _, _ => trivial
  | .array items, hpatch => hpatch

theorem mergeFields {fields : Fields Json} (hfields : (Json.object fields).Within n) :
    ∀ patch : List (String × Json), WithinFields n patch →
      (Json.object (Json.mergeFields fields patch)).Within n
  | [], _ => hfields
  | (key, value) :: rest, hpatch => by
    rw [Json.mergeFields]
    split
    · exact mergeFields (hfields.remove key) rest hpatch.2
    · refine mergeFields (hfields.insert (merge ?_ value hpatch.1) key) rest hpatch.2
      cases hget : Fields.get? fields key with
      | none => trivial
      | some old => exact hfields.get? hget

end

mutual

theorem pick : ∀ (selector : Json) {fields picked out : Fields Json},
    (Json.object fields).Within n → (Json.object picked).Within n →
      Json.pick fields picked selector = .ok out → (Json.object out).Within n
  | .string key, _, _, _, h, hpicked, hout => by
    rw [Json.pick] at hout
    split at hout
    · next found hfound =>
      cases hout
      exact hpicked.insert (h.get? hfound) key
    · cases hout
      exact hpicked
  | .array selectors, _, _, _, h, hpicked, hout =>
    pickAll selectors h hpicked (by rwa [Json.pick] at hout)
  | .object paths, _, _, _, h, hpicked, hout =>
    pickPaths paths h hpicked (by rwa [Json.pick] at hout)
  | .null, _, _, _, _, _, hout | .bool _, _, _, _, _, _, hout
  | .number _, _, _, _, _, _, hout => by cases hout

theorem pickAll : ∀ (selectors : List Json) {fields picked out : Fields Json},
    (Json.object fields).Within n → (Json.object picked).Within n →
      Json.pickAll fields picked selectors = .ok out → (Json.object out).Within n
  | [], _, _, _, _, hpicked, hout => by
    cases hout
    exact hpicked
  | selector :: rest, _, _, _, h, hpicked, hout => by
    obtain ⟨more, hmore, hout⟩ := bind_eq_ok hout
    exact pickAll rest h (pick selector h hpicked hmore) hout

theorem pickPaths : ∀ (paths : List (String × Json)) {fields picked out : Fields Json},
    (Json.object fields).Within n → (Json.object picked).Within n →
      Json.pickPaths fields picked paths = .ok out → (Json.object out).Within n
  | [], _, _, _, _, hpicked, hout => by
    cases hout
    exact hpicked
  | (key, inner) :: rest, _, _, _, h, hpicked, hout => by
    rw [Json.pickPaths] at hout
    split at hout
    · next found hfound =>
      have hfound := h.get? hfound
      split at hout
      · exact pickPaths rest h (hpicked.insert hfound key) hout
      · split at hout
        · obtain ⟨part, hpart, hout⟩ := bind_eq_ok hout
          have hpart : (Json.object part).Within n := pick inner hfound within_empty hpart
          exact pickPaths rest h (hpicked.insert hpart key) hout
        · exact pickPaths rest h hpicked hout
    · exact pickPaths rest h hpicked hout

end

theorem pluck (h : v.Within n) {selectors : List Json} (hw : v.pluck selectors = .ok w) :
    w.Within n := by
  obtain ⟨fields, hfields, hw⟩ := bind_eq_ok hw
  obtain ⟨out, hout, hw⟩ := bind_eq_ok hw
  cases hw
  exact pickAll selectors (h.asObject hfields) within_empty hout

mutual

theorem drop : ∀ (selector : Json) {fields out : Fields Json}, (Json.object fields).Within n →
    Json.drop fields selector = .ok out → (Json.object out).Within n
  | .string key, _, _, h, hout => by
    cases hout
    exact h.remove key
  | .array selectors, _, _, h, hout => dropAll selectors h (by rwa [Json.drop] at hout)
  | .null, _, _, _, hout | .bool _, _, _, _, hout | .number _, _, _, _, hout
  | .object _, _, _, _, hout => by cases hout

theorem dropAll : ∀ (selectors : List Json) {fields out : Fields Json},
    (Json.object fields).Within n → Json.dropAll fields selectors = .ok out →
      (Json.object out).Within n
  | [], _, _, h, hout => by
    cases hout
    exact h
  | selector :: rest, _, _, h, hout => by
    obtain ⟨less, hless, hout⟩ := bind_eq_ok hout
    exact dropAll rest (drop selector h hless) hout

end

theorem without (h : v.Within n) {selectors : List Json} (hw : v.without selectors = .ok w) :
    w.Within n := by
  obtain ⟨fields, hfields, hw⟩ := bind_eq_ok hw
  obtain ⟨out, hout, hw⟩ := bind_eq_ok hw
  cases hw
  exact dropAll selectors (h.asObject hfields) hout

end Within

/-! ### Arrays as sets and by position -/

theorem difference_sublist (items others : List Json) : (difference items others).Sublist items :=
  List.filter_sublist

theorem deletedAt_sublist (items : List Json) (start stop : Nat) :
    (deletedAt items start stop).Sublist items := by
  unfold deletedAt
  split
  · next hlt =>
    conv => rhs; rw [← List.take_append_drop start items]
    exact (List.drop_sublist_drop_left items (Nat.le_of_lt hlt)).append_left _
  · exact List.Sublist.refl _

theorem Within.changedAt (h : (Json.array items).Within n) (hv : v.Within n) (position : Nat) :
    (Json.array (Json.changedAt items position v)).Within n := by
  obtain ⟨hlength, hitems⟩ := within_array_iff.mp h
  refine within_array_iff.mpr ⟨by simpa [Json.changedAt] using hlength, fun item hitem => ?_⟩
  rcases List.mem_or_eq_of_mem_set hitem with hitem | rfl
  · exact hitems item hitem
  · exact hv

end Json

/-! ### Numbers and times -/

theorem Extended.within_toJson {n : Nat} {x : Extended} {v : Json} (h : x.toJson = .ok v) :
    v.Within n := by
  unfold Extended.toJson at h
  split at h
  · split at h <;> cases h <;> trivial
  · cases h

namespace Time
variable {n : Nat} {v w : Json}

theorem within_ofMoment {m : Moment} (h : ofMoment m = .ok w) : w.Within n := by
  obtain ⟨seconds, hseconds, h⟩ := bind_eq_ok h
  cases h
  exact ⟨trivial, Extended.within_toJson hseconds, trivial, trivial⟩

theorem within_ofEpoch (h : ofEpoch v = .ok w) : w.Within n := by
  obtain ⟨x, -, h⟩ := bind_eq_ok h
  obtain ⟨m, -, h⟩ := bind_eq_ok h
  exact within_ofMoment h

theorem within_ofArguments {args : List Json} (h : ofArguments args = .ok w) : w.Within n := by
  obtain ⟨parted, -, h⟩ := bind_eq_ok h
  dsimp only at h
  split at h
  · obtain ⟨numbers, -, h⟩ := bind_eq_ok h
    split at h
    · cases h
    · split at h
      · split at h
        · cases h
        · obtain ⟨m, -, h⟩ := bind_eq_ok h
          exact within_ofMoment h
      · cases h
  · cases h

theorem within_ofIso {defaultZone : Option Json} (h : ofIso v defaultZone = .ok w) :
    w.Within n := by
  obtain ⟨text, -, h⟩ := bind_eq_ok h
  split at h
  · exact within_ofMoment h
  · obtain ⟨parted, -, h⟩ := bind_eq_ok h
    dsimp only at h
    split at h
    · cases h
    · obtain ⟨zone, -, h⟩ := bind_eq_ok h
      obtain ⟨offset, -, h⟩ := bind_eq_ok h
      split at h
      · exact within_ofMoment h
      · cases h

theorem within_shift {seconds : Extended} (h : shift v seconds = .ok w) : w.Within n := by
  obtain ⟨m, -, h⟩ := bind_eq_ok h
  obtain ⟨start, -, h⟩ := bind_eq_ok h
  obtain ⟨later, -, h⟩ := bind_eq_ok h
  exact within_ofMoment h

theorem within_inZone {zone : Json} (h : inZone v zone = .ok w) : w.Within n := by
  obtain ⟨text, -, h⟩ := bind_eq_ok h
  obtain ⟨offset, -, h⟩ := bind_eq_ok h
  obtain ⟨m, -, h⟩ := bind_eq_ok h
  exact within_ofMoment h

theorem within_isoText (h : isoText v = .ok w) : w.Within n := by
  obtain ⟨m, -, h⟩ := bind_eq_ok h
  cases h
  trivial

theorem within_date (h : date v = .ok w) : w.Within n := by
  obtain ⟨m, -, h⟩ := bind_eq_ok h
  split at h
  · exact within_ofMoment h
  · cases h

theorem within_timeOfDay (h : timeOfDay v = .ok w) : w.Within n := by
  obtain ⟨m, -, h⟩ := bind_eq_ok h
  exact Extended.within_toJson h

theorem within_component {accessor : String} (h : component v accessor = .ok w) :
    w.Within n := by
  obtain ⟨m, -, h⟩ := bind_eq_ok h
  split at h
  iterate 7
    · cases h
      trivial
  · exact Extended.within_toJson h
  · cases h

theorem within_during {start stop : Json} {leftOpen rightClosed : Bool}
    (h : during v start stop leftOpen rightClosed = .ok w) : w.Within n := by
  obtain ⟨instant, -, h⟩ := bind_eq_ok h
  obtain ⟨first, -, h⟩ := bind_eq_ok h
  obtain ⟨last, -, h⟩ := bind_eq_ok h
  cases h
  trivial

end Time

/-! ### Arithmetic -/

namespace Json
variable {n : Nat} {a b c : Json}

theorem le_of_boundedLength {length bounded : Nat} (h : boundedLength length = .ok bounded) :
    bounded = length ∧ length ≤ arrayLimit := by
  unfold boundedLength at h
  split at h
  · next hle => exact ⟨(Except.ok.inj h).symm, hle⟩
  · cases h

/-- An array is repeated only as often as the limit allows. -/
theorem within_repeated (hn : arrayLimit ≤ n) {items : List Json} {times : Json}
    (h : (Json.array items).Within n) (hc : repeated items times = .ok c) : c.Within n := by
  obtain ⟨count, -, hc⟩ := bind_eq_ok hc
  obtain ⟨length, hlength, hc⟩ := bind_eq_ok hc
  cases hc
  split
  · exact within_array_iff.mpr ⟨Nat.zero_le n, nofun⟩
  · refine within_array_iff.mpr ⟨?_, fun item hitem => ?_⟩
    · rw [List.length_flatten, List.map_replicate, List.sum_replicate_nat, Nat.mul_comm]
      exact Nat.le_trans (le_of_boundedLength hlength).2 hn
    · obtain ⟨list, hlist, hitem⟩ := List.mem_flatten.mp hitem
      rw [List.eq_of_mem_replicate hlist] at hitem
      exact h.item hitem

theorem within_mul (hn : arrayLimit ≤ n) (ha : a.Within n) (hb : b.Within n)
    (hc : a.mul b = .ok c) : c.Within n := by
  unfold mul at hc
  split at hc
  · exact Extended.within_toJson hc
  · exact within_repeated hn ha hc
  · exact within_repeated hn hb hc
  · cases hc

theorem within_sub (hc : a.sub b = .ok c) : c.Within n := by
  unfold sub at hc
  split at hc
  · exact Extended.within_toJson hc
  · split at hc
    · exact Time.within_shift hc
    · cases hc
  · split at hc
    · obtain ⟨x, -, hc⟩ := bind_eq_ok hc
      obtain ⟨y, -, hc⟩ := bind_eq_ok hc
      exact Extended.within_toJson hc
    · cases hc
  · cases hc

theorem within_div (hc : a.div b = .ok c) : c.Within n := by
  obtain ⟨divisor, -, hc⟩ := bind_eq_ok hc
  dsimp only at hc
  split at hc
  · cases hc
  · obtain ⟨dividend, -, hc⟩ := bind_eq_ok hc
    exact Extended.within_toJson hc

theorem within_modulo (hc : a.modulo b = .ok c) : c.Within n := by
  obtain ⟨divisor, -, hc⟩ := bind_eq_ok hc
  dsimp only at hc
  split at hc
  · cases hc
  · obtain ⟨dividend, -, hc⟩ := bind_eq_ok hc
    split at hc
    · cases hc
    · cases hc
      trivial

end Json

/-! ### Made values -/

namespace Call
variable {n : Nat} {v w : Json}

theorem within_integers (hn : arrayLimit ≤ n) {start stop : Int}
    (h : integers start stop = .ok w) : w.Within n := by
  unfold integers at h
  dsimp only at h
  split at h
  · cases h
  · obtain ⟨length, hlength, h⟩ := bind_eq_ok h
    cases h
    obtain ⟨rfl, hle⟩ := Json.le_of_boundedLength hlength
    refine Json.within_array_iff.mpr ⟨?_, fun item hitem => ?_⟩
    · rw [List.length_map, List.length_range]
      exact Nat.le_trans hle hn
    · obtain ⟨i, -, rfl⟩ := List.mem_map.mp hitem
      trivial

theorem within_pairUp : ∀ {fields out : Fields Json} {values : List Json},
    (Json.object fields).Within n → (∀ v ∈ values, v.Within n) →
      pairUp fields values = .ok out → (Json.object out).Within n := by
  intro fields out values h hvalues hout
  fun_induction pairUp fields values with
  | case1 fields key value rest ih =>
    obtain ⟨name, -, hout⟩ := bind_eq_ok hout
    dsimp only at hout
    split at hout
    · cases hout
    · refine ih name (h.insert ?_ name) (fun v hv => ?_) hout
      · exact hvalues value (List.mem_cons_of_mem _ List.mem_cons_self)
      · exact hvalues v (List.mem_cons_of_mem _ (List.mem_cons_of_mem _ hv))
  | case2 fields values =>
    cases hout
    exact h

/-- Ungrouped data has a document for each of its groups. -/
theorem within_ungroup (h : v.Within n) (hw : ungroup v = .ok w) : w.Within n := by
  unfold ungroup at hw
  dsimp only at hw
  split at hw
  · cases hw
    have hdata : (Json.array (((v.field? "data").bind Json.array?).getD [])).Within n := by
      cases hfield : v.field? "data" with
      | none => exact Json.within_array_iff.mpr ⟨Nat.zero_le n, nofun⟩
      | some found =>
        cases found with
        | array items => exact h.field? hfield
        | _ => exact Json.within_array_iff.mpr ⟨Nat.zero_le n, nofun⟩
    refine hdata.filterMap fun group document hgroup hdocument => ?_
    split at hdocument
    · next key items =>
      cases hdocument
      refine Json.within_ofFields fun entry hentry => ?_
      rcases List.mem_pair.mp hentry with rfl | rfl
      · exact hgroup.item List.mem_cons_self
      · exact hgroup.item (List.mem_cons_of_mem _ List.mem_cons_self)
    · cases hdocument
  · cases hw

end Call

end DocQuery
