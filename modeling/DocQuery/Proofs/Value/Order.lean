import DocQuery.Proofs.Json.Fields
import DocQuery.Value.Order

/-! The order of values is a preorder.

Comparing the other way round gives the opposite result, for all values, and values are
equal exactly if they compare as equal. Comparisons compose as those of a preorder do if
times are proper: without their seconds, or with fields before their tag, they would be
compared by seconds with each other and field by field with other objects, and the two need
not fit together (`order_preorder`, `order_cycle`). -/
namespace DocQuery

/-! ### Composing comparisons -/

/-- The comparisons of a first value with a second, of that with a third, and of the first
with the third, as a preorder allows them. -/
def Composes (x y z : Ordering) : Prop := (x = .eq → z = y) ∧ (y = .eq → z = x) ∧ (x = y → z = x)

/-- Comparing the other way round. -/
theorem compare_swapped {α : Type} [Ord α] [Std.OrientedOrd α] (a b : α) :
    compare a b = (compare b a).swap :=
  Std.OrientedOrd.eq_swap

namespace Composes

/-- Comparisons of parts, one after another. -/
theorem andThen {x y z x' y' z' : Ordering} (h : Composes x y z) (h' : Composes x' y' z') :
    Composes (x.then x') (y.then y') (z.then z') := by
  unfold Composes at *
  cases x <;> cases y <;> cases z <;> simp_all [Ordering.then]

theorem of_compare {α : Type} [Ord α] [Std.TransOrd α] (a b c : α) :
    Composes (compare a b) (compare b c) (compare a c) := by
  refine ⟨fun h => Std.TransCmp.congr_left h, fun h => (Std.TransCmp.congr_right h).symm, ?_⟩
  intro h
  cases hx : compare a b with
  | lt => exact Std.TransCmp.lt_trans hx (h ▸ hx)
  | eq => exact (Std.TransCmp.congr_left hx).trans (h ▸ hx)
  | gt => exact Std.TransCmp.gt_trans hx (h ▸ hx)

variable {x y z r : Ordering}

/-- Comparisons of all three the other way round. -/
theorem swap (h : Composes x y z) : Composes x.swap y.swap z.swap := by
  unfold Composes at *
  cases x <;> cases y <;> cases z <;> simp_all

theorem of_left (h : r ≠ .eq) : Composes x r r :=
  ⟨fun _ => rfl, fun hr => absurd hr h, fun hx => hx.symm⟩

theorem of_right (h : r ≠ .eq) : Composes r y r :=
  ⟨fun hr => absurd hr h, fun _ => rfl, fun _ => rfl⟩

theorem of_swap (h : r ≠ .eq) : Composes r r.swap z := by
  refine ⟨fun hr => absurd hr h, ?_, ?_⟩ <;> cases r <;> simp_all

/-- What is not above the second is not above what the second is not above. -/
theorem ne_gt (h : Composes x y z) (hx : x ≠ .gt) (hy : y ≠ .gt) : z ≠ .gt := by
  obtain ⟨hleft, hright, hboth⟩ := h
  cases x with
  | gt => exact absurd rfl hx
  | eq => rw [hleft rfl]; exact hy
  | lt =>
    cases y with
    | gt => exact absurd rfl hy
    | eq => rw [hright rfl]; exact hx
    | lt => rw [hboth rfl]; exact hx

end Composes

namespace Json

/-! ### Kinds -/

/-- The place of the constructor in the order of kinds; times stand with other objects. -/
def tier : Json → Nat
  | .array _ => 0
  | .bool _ => 1
  | .null => 2
  | .number _ => 3
  | .object _ => 4
  | .string _ => 6

/-- The rank is the place, with times on a place of their own right after it. -/
theorem rank_eq (a : Json) : a.rank = a.tier ∨ a.tier = 4 ∧ a.rank = 5 := by
  cases a with
  | object fields =>
    unfold rank
    by_cases h : (Json.object fields).isTime
    · exact .inr ⟨rfl, if_pos h⟩
    · exact .inl (if_neg h)
  | _ => exact .inl rfl

theorem tier_ne_five (a : Json) : a.tier ≠ 5 := by cases a <;> simp [tier]

theorem compare_five {n : Nat} (h : n ≠ 4) (h' : n ≠ 5) : compare 5 n = compare 4 n := by
  by_cases hlt : n < 4
  · rw [Nat.compare_eq_gt.mpr hlt, Nat.compare_eq_gt.mpr (by omega)]
  · rw [Nat.compare_eq_lt.mpr (by omega), Nat.compare_eq_lt.mpr (by omega)]

/-- Values of different kinds are ordered by their kinds alone. -/
theorem order_of_tier_ne {a b : Json} (h : a.tier ≠ b.tier) :
    order a b = compare a.tier b.tier := by
  have hrank : order a b = compare a.rank b.rank := by
    apply order.eq_6
    all_goals
      rintro _ _ rfl rfl
      exact h rfl
  rw [hrank]
  rcases rank_eq a with ha | ⟨ha, ha'⟩ <;> rcases rank_eq b with hb | ⟨hb, hb'⟩
  · rw [ha, hb]
  · rw [ha, hb, hb', compare_swapped a.tier 5, compare_five (hb ▸ h) (tier_ne_five a)]
    exact (compare_swapped _ _).symm
  · rw [ha, ha', hb, compare_five (fun hb => h (ha.trans hb.symm)) (tier_ne_five b)]
  · exact absurd (ha.trans hb.symm) h

/-! ### The other way round -/

theorem orderOfTimes_swap (a b : Json) : (orderOfTimes a b).swap = orderOfTimes b a := by
  unfold orderOfTimes
  cases Time.epoch? a with
  | none => cases Time.epoch? b <;> rfl
  | some x =>
    cases Time.epoch? b with
    | none => rfl
    | some y => exact (compare_swapped y.toInt x.toInt).symm

mutual

theorem order_swap (a b : Json) : (order a b).swap = order b a := by
  by_cases h : a.tier = b.tier
  · cases a with
    | array as =>
      cases b with
      | array bs => rw [order, order, orderItems_swap as bs]
      | _ => simp [tier] at h
    | object as =>
      cases b with
      | object bs =>
        rw [order, order, Bool.and_comm]
        split
        · exact orderOfTimes_swap _ _
        · exact orderFields_swap as bs
      | _ => simp [tier] at h
    | number m =>
      cases b with
      | number n =>
        rw [order, order]
        exact (compare_swapped n.toBinary64.toInt m.toBinary64.toInt).symm
      | _ => simp [tier] at h
    | string s =>
      cases b with
      | string t =>
        rw [order, order]
        exact (compare_swapped _ _).symm
      | _ => simp [tier] at h
    | bool s =>
      cases b with
      | bool t =>
        rw [order, order]
        exact (compare_swapped _ _).symm
      | _ => simp [tier] at h
    | null =>
      cases b with
      | null => rfl
      | _ => simp [tier] at h
  · rw [order_of_tier_ne h, order_of_tier_ne (Ne.symm h)]
    exact (compare_swapped _ _).symm

theorem orderItems_swap (as bs : List Json) : (orderItems as bs).swap = orderItems bs as := by
  match as, bs with
  | [], [] | [], _ :: _ | _ :: _, [] => rfl
  | a :: as, b :: bs =>
    rw [orderItems, orderItems, Ordering.swap_then, order_swap a b, orderItems_swap as bs]

theorem orderFields_swap (as bs : List (String × Json)) :
    (orderFields as bs).swap = orderFields bs as := by
  match as, bs with
  | [], [] | [], _ :: _ | _ :: _, [] => rfl
  | (j, a) :: as, (k, b) :: bs =>
    rw [orderFields, orderFields, Ordering.swap_then, Ordering.swap_then, order_swap a b,
      orderFields_swap as bs, ← compare_swapped k j]

end

/-! ### Proper values -/

/-- A time that has its seconds, and no field before its tag. -/
def IsProperTime (fields : Fields Json) : Prop :=
  (∃ rest, fields = (tagKey, .string "TIME") :: rest) ∧
    (Time.epoch? (.object fields)).isSome = true

mutual

/-- All times in a value are proper, at any depth. -/
def Proper : Json → Prop
  | .array items => ProperItems items
  | .object fields =>
    ((Json.object fields).isTime = true → IsProperTime fields) ∧ ProperFields fields
  | _ => True

def ProperItems : List Json → Prop
  | [] => True
  | item :: rest => Proper item ∧ ProperItems rest

def ProperFields : List (String × Json) → Prop
  | [] => True
  | (_, value) :: rest => Proper value ∧ ProperFields rest

end

/-- A time that has its seconds and no fields but those of times is proper. -/
theorem isProperTime_of_keys {fields : Fields Json} (hascending : fields.Ascending)
    (htime : (Json.object fields).isTime = true)
    (hseconds : (Time.epoch? (.object fields)).isSome = true)
    (hkeys : ∀ field ∈ fields, field.1 ∈ [tagKey, "epoch_time", "timezone"]) :
    IsProperTime fields := by
  refine ⟨?_, hseconds⟩
  obtain ⟨tag, htag, hstring⟩ := Option.bind_eq_some_iff.mp (of_decide_eq_true htime)
  cases fields with
  | nil => cases htag
  | cons field rest =>
    obtain ⟨key, value⟩ := field
    rw [field?_object, Fields.get?_cons] at htag
    by_cases hkey : tagKey = key
    · rw [if_pos hkey] at htag
      cases htag
      cases tag with
      | string s => exact ⟨rest, by rw [hkey, Option.some.inj hstring]⟩
      | _ => cases hstring
    · -- The tag would have to stand after a key that is above it.
      rw [if_neg hkey] at htag
      have hin : tagKey ∈ rest.map Prod.fst := by
        have hhas : Fields.has rest tagKey = true := by rw [Fields.has, htag, Option.isSome_some]
        simpa [Fields.has_eq] using hhas
      have hlt : key < tagKey := (List.pairwise_cons.mp hascending).1 _ hin
      have habove : ∀ name ∈ [tagKey, "epoch_time", "timezone"], ¬ name < tagKey := by
        decide +kernel
      exact absurd hlt (habove key (hkeys _ List.mem_cons_self))

mutual

/-- The fields of objects stand in order, and times have their seconds and no fields but those
of times, at any depth. -/
def Regular : Json → Prop
  | .array items => RegularItems items
  | .object fields =>
    Fields.Ascending fields ∧
      ((Json.object fields).isTime = true → (Time.epoch? (.object fields)).isSome = true ∧
        ∀ field ∈ fields, field.1 ∈ [tagKey, "epoch_time", "timezone"]) ∧
      RegularFields fields
  | _ => True

def RegularItems : List Json → Prop
  | [] => True
  | item :: rest => Regular item ∧ RegularItems rest

def RegularFields : List (String × Json) → Prop
  | [] => True
  | (_, value) :: rest => Regular value ∧ RegularFields rest

end

mutual

/-- Regular values are proper, so that the order is a preorder among them. -/
theorem Regular.proper : ∀ a : Json, a.Regular → a.Proper
  | .array items, h => properItems items h
  | .object fields, ⟨hascending, htimes, hfields⟩ =>
    ⟨fun htime => isProperTime_of_keys hascending htime (htimes htime).1 (htimes htime).2,
      properFields fields hfields⟩
  | .null, _ | .bool _, _ | .number _, _ | .string _, _ => trivial

theorem Regular.properItems : ∀ items : List Json, RegularItems items → ProperItems items
  | [], _ => trivial
  | item :: rest, h => ⟨proper item h.1, properItems rest h.2⟩

theorem Regular.properFields :
    ∀ fields : List (String × Json), RegularFields fields → ProperFields fields
  | [], _ => trivial
  | (_, value) :: rest, h => ⟨proper value h.1, properFields rest h.2⟩

end

theorem compare_ne_eq {α : Type} [Ord α] [Std.LawfulEqOrd α] {a b : α} (h : a ≠ b) :
    compare a b ≠ .eq :=
  fun heq => h (Std.LawfulEqOrd.eq_of_compare heq)

theorem then_of_ne_eq {x y : Ordering} (h : x ≠ .eq) : x.then y = x := by
  cases x <;> simp_all

/-- Against an object that is no time, all proper times compare alike, and never as
equal: the tag decides. -/
theorem exists_orderFields_time {cs : List (String × Json)}
    (hc : (Json.object cs).isTime = false) :
    ∃ r, r ≠ .eq ∧ ∀ rest, orderFields ((tagKey, .string "TIME") :: rest) cs = r := by
  cases cs with
  | nil => exact ⟨.gt, nofun, fun _ => by rw [orderFields]⟩
  | cons field cs =>
    obtain ⟨k, v⟩ := field
    by_cases hk : tagKey = k
    · subst hk
      have hv : order (.string "TIME") v ≠ .eq := by
        cases v with
        | string s =>
          rw [order]
          refine compare_ne_eq fun hs => ?_
          subst hs
          simp [isTime, tag?, field?, Fields.get?, string?] at hc
        | _ =>
          rw [order_of_tier_ne (by simp [tier])]
          exact compare_ne_eq (by simp [tier])
      refine ⟨order (.string "TIME") v, hv, fun rest => ?_⟩
      rw [orderFields, Std.ReflOrd.compare_self, Ordering.then, then_of_ne_eq hv]
    · refine ⟨compare tagKey k, compare_ne_eq hk, fun rest => ?_⟩
      rw [orderFields, then_of_ne_eq (compare_ne_eq hk)]

/-! ### The order composes -/

theorem composes_of_tier {a b c : Json} (h : ¬(a.tier = b.tier ∧ b.tier = c.tier)) :
    Composes (order a b) (order b c) (order a c) := by
  by_cases hab : a.tier = b.tier
  · have hbc : b.tier ≠ c.tier := fun hbc => h ⟨hab, hbc⟩
    have hac : a.tier ≠ c.tier := fun hac => hbc (hab.symm.trans hac)
    rw [order_of_tier_ne hbc, order_of_tier_ne hac, hab]
    exact .of_left (compare_ne_eq hbc)
  · by_cases hbc : b.tier = c.tier
    · have hac : a.tier ≠ c.tier := fun hac => hab (hac.trans hbc.symm)
      rw [order_of_tier_ne hab, order_of_tier_ne hac, hbc]
      exact .of_right (compare_ne_eq hac)
    · rw [order_of_tier_ne hab, order_of_tier_ne hbc]
      by_cases hac : a.tier = c.tier
      · rw [compare_swapped b.tier c.tier, ← hac]
        exact .of_swap (compare_ne_eq hab)
      · rw [order_of_tier_ne hac]
        exact .of_compare _ _ _

theorem orderOfTimes_composes {a b c : Json} (ha : (Time.epoch? a).isSome = true)
    (hb : (Time.epoch? b).isSome = true) (hc : (Time.epoch? c).isSome = true) :
    Composes (orderOfTimes a b) (orderOfTimes b c) (orderOfTimes a c) := by
  obtain ⟨x, hx⟩ := Option.isSome_iff_exists.mp ha
  obtain ⟨y, hy⟩ := Option.isSome_iff_exists.mp hb
  obtain ⟨z, hz⟩ := Option.isSome_iff_exists.mp hc
  unfold orderOfTimes
  rw [hx, hy, hz]
  exact .of_compare x.toInt y.toInt z.toInt

theorem order_times {as bs : List (String × Json)} (ha : (Json.object as).isTime = true)
    (hb : (Json.object bs).isTime = true) :
    order (.object as) (.object bs) = orderOfTimes (.object as) (.object bs) := by
  rw [order, ha, hb, Bool.and_self, if_pos rfl]

theorem order_left {as : List (String × Json)} (h : (Json.object as).isTime = false)
    (bs : List (String × Json)) : order (.object as) (.object bs) = orderFields as bs := by
  rw [order, h, Bool.false_and, if_neg Bool.false_ne_true]

theorem order_right {bs : List (String × Json)} (h : (Json.object bs).isTime = false)
    (as : List (String × Json)) : order (.object as) (.object bs) = orderFields as bs := by
  rw [order, h, Bool.and_false, if_neg Bool.false_ne_true]

/-- Objects compose if their fields do: proper times agree on where an object stands that
is no time. -/
theorem objects_compose {as bs cs : List (String × Json)}
    (ha : (Json.object as).isTime = true → IsProperTime as)
    (hb : (Json.object bs).isTime = true → IsProperTime bs)
    (hc : (Json.object cs).isTime = true → IsProperTime cs)
    (hfields : Composes (orderFields as bs) (orderFields bs cs) (orderFields as cs)) :
    Composes (order (.object as) (.object bs)) (order (.object bs) (.object cs))
      (order (.object as) (.object cs)) := by
  cases hta : (Json.object as).isTime <;> cases htb : (Json.object bs).isTime <;>
    cases htc : (Json.object cs).isTime
  case true.true.true =>
    rw [order_times hta htb, order_times htb htc, order_times hta htc]
    exact orderOfTimes_composes (ha hta).2 (hb htb).2 (hc htc).2
  case true.true.false =>
    obtain ⟨r, hr, hrest⟩ := exists_orderFields_time htc
    obtain ⟨⟨arest, rfl⟩, -⟩ := ha hta
    obtain ⟨⟨brest, rfl⟩, -⟩ := hb htb
    rw [order_right htc, order_right htc, hrest, hrest]
    exact .of_left hr
  case true.false.true =>
    obtain ⟨r, hr, hrest⟩ := exists_orderFields_time htb
    obtain ⟨⟨arest, rfl⟩, -⟩ := ha hta
    obtain ⟨⟨crest, rfl⟩, -⟩ := hc htc
    rw [order_right htb, order_left htb, ← orderFields_swap _ bs, hrest, hrest]
    exact .of_swap hr
  case false.true.true =>
    obtain ⟨r, hr, hrest⟩ := exists_orderFields_time hta
    obtain ⟨⟨brest, rfl⟩, -⟩ := hb htb
    obtain ⟨⟨crest, rfl⟩, -⟩ := hc htc
    rw [order_left hta, order_left hta, ← orderFields_swap _ as, hrest,
      ← orderFields_swap _ as, hrest]
    exact .of_right (by cases r <;> simp_all)
  case true.false.false =>
    rw [order_right htb, order_left htb, order_right htc]
    exact hfields
  case false.true.false =>
    rw [order_left hta, order_right htc, order_left hta]
    exact hfields
  case false.false.true =>
    rw [order_left hta, order_left htb, order_left hta]
    exact hfields
  case false.false.false =>
    rw [order_left hta, order_left htb, order_left hta]
    exact hfields

mutual

theorem order_composes (a b c : Json) (ha : a.Proper) (hb : b.Proper) (hc : c.Proper) :
    Composes (order a b) (order b c) (order a c) := by
  by_cases h : a.tier = b.tier ∧ b.tier = c.tier
  · obtain ⟨hab, hbc⟩ := h
    cases a <;> cases b <;> simp [tier] at hab <;> cases c <;> simp [tier] at hbc
    case array.array.array as bs cs =>
      rw [order, order, order]
      exact orderItems_composes as bs cs ha hb hc
    case object.object.object as bs cs =>
      refine objects_compose ha.1 hb.1 hc.1 ?_
      exact orderFields_composes as bs cs ha.2 hb.2 hc.2
    case number.number.number m n p =>
      rw [order, order, order]
      exact .of_compare m.toBinary64.toInt n.toBinary64.toInt p.toBinary64.toInt
    case string.string.string s t u =>
      rw [order, order, order]
      exact .of_compare s t u
    case bool.bool.bool s t u =>
      rw [order, order, order]
      exact .of_compare s t u
    case null.null.null => exact ⟨fun _ => rfl, fun _ => rfl, fun _ => rfl⟩
  · exact composes_of_tier h

theorem orderItems_composes (as bs cs : List Json) (ha : ProperItems as) (hb : ProperItems bs)
    (hc : ProperItems cs) :
    Composes (orderItems as bs) (orderItems bs cs) (orderItems as cs) := by
  match as, bs, cs with
  | [], [], [] | [], [], _ :: _ | [], _ :: _, [] | _ :: _, [], [] | _ :: _, [], _ :: _
  | [], _ :: _, _ :: _ => simp [orderItems, Composes]
  | _ :: _, _ :: _, [] =>
    simp only [orderItems]
    exact .of_left nofun
  | a :: as, b :: bs, c :: cs =>
    rw [orderItems, orderItems, orderItems]
    exact (order_composes a b c ha.1 hb.1 hc.1).andThen
      (orderItems_composes as bs cs ha.2 hb.2 hc.2)

theorem orderFields_composes (as bs cs : List (String × Json)) (ha : ProperFields as)
    (hb : ProperFields bs) (hc : ProperFields cs) :
    Composes (orderFields as bs) (orderFields bs cs) (orderFields as cs) := by
  match as, bs, cs with
  | [], [], [] | [], [], _ :: _ | [], _ :: _, [] | _ :: _, [], [] | _ :: _, [], _ :: _
  | [], _ :: _, _ :: _ => simp [orderFields, Composes]
  | _ :: _, _ :: _, [] =>
    simp only [orderFields]
    exact .of_left nofun
  | (i, a) :: as, (j, b) :: bs, (k, c) :: cs =>
    rw [orderFields, orderFields, orderFields]
    exact (Composes.of_compare i j k).andThen ((order_composes a b c ha.1 hb.1 hc.1).andThen
      (orderFields_composes as bs cs ha.2 hb.2 hc.2))

end

/-! ### Equality -/

theorem order_self (a : Json) : order a a = .eq := by
  have h := order_swap a a
  cases horder : order a a <;> simp_all

theorem equals_self (a : Json) : equals a a = true := by
  unfold equals
  rw [order_self, beq_self_eq_true, beq_self_eq_true, Bool.and_self]

theorem equals_comm (a b : Json) : equals a b = equals b a := by
  unfold equals
  rw [← order_swap b a, Bool.beq_comm (a := a.rank)]
  cases order b a <;> rfl

theorem tier_eq_of_order {a b : Json} (h : order a b = .eq) : a.tier = b.tier := by
  refine Decidable.byContradiction fun hne => ?_
  rw [order_of_tier_ne hne] at h
  exact compare_ne_eq hne h

/-- Fields that compare as equal have the same keys, with values that compare as equal. -/
theorem get?_of_orderFields {as bs : Fields Json} (h : orderFields as bs = .eq) {key : String}
    {a : Json} (ha : as.get? key = some a) : ∃ b, bs.get? key = some b ∧ order a b = .eq := by
  match as, bs with
  | [], _ => cases ha
  | _ :: _, [] => cases h
  | (j, x) :: as, (k, y) :: bs =>
    rw [orderFields, Ordering.then_eq_eq, Ordering.then_eq_eq] at h
    obtain ⟨hkey, hxy, hrest⟩ := h
    obtain rfl : j = k := Std.LawfulEqOrd.eq_of_compare hkey
    rw [Fields.get?_cons] at ha ⊢
    by_cases hj : key = j
    · rw [if_pos hj] at ha ⊢
      exact ⟨y, rfl, Option.some.inj ha ▸ hxy⟩
    · rw [if_neg hj] at ha ⊢
      exact get?_of_orderFields hrest ha

theorem eq_string_of_order {s : String} {b : Json} (h : order (.string s) b = .eq) :
    b = .string s := by
  cases b with
  | string t =>
    rw [order] at h
    rw [Std.LawfulEqOrd.eq_of_compare h]
  | _ => exact absurd (tier_eq_of_order h) (by simp [tier])

/-- An object whose fields compare as equal to those of a time has the tag of a time. -/
theorem isTime_of_orderFields {as bs : Fields Json} (h : orderFields as bs = .eq)
    (ha : (Json.object as).isTime = true) : (Json.object bs).isTime = true := by
  obtain ⟨tag, htag, hstring⟩ := Option.bind_eq_some_iff.mp (of_decide_eq_true ha)
  obtain ⟨found, hfound, horder⟩ := get?_of_orderFields h htag
  cases tag with
  | string s =>
    rw [eq_string_of_order horder] at hfound
    simp only [isTime, tag?, field?_object, hfound, Option.bind_some, hstring, decide_true]
  | _ => cases hstring

/-- A time never compares as equal to another object. -/
theorem isTime_eq_of_order {as bs : Fields Json} (h : order (.object as) (.object bs) = .eq) :
    (Json.object as).isTime = (Json.object bs).isTime := by
  cases hta : (Json.object as).isTime <;> cases htb : (Json.object bs).isTime
  case true.false =>
    rw [order_right htb] at h
    exact absurd (isTime_of_orderFields h hta) (by simp [htb])
  case false.true =>
    rw [order_left hta] at h
    have hswap : orderFields bs as = .eq := by rw [← orderFields_swap, h]; rfl
    exact absurd (isTime_of_orderFields hswap htb) (by simp [hta])
  all_goals rfl

/-- Values are equal if they compare as equal: their ranks are the same then. -/
theorem equals_iff {a b : Json} : equals a b = true ↔ order a b = .eq := by
  unfold equals
  rw [Bool.and_eq_true, beq_iff_eq, beq_iff_eq]
  refine ⟨And.left, fun h => ⟨h, ?_⟩⟩
  have htier : a.tier = b.tier := tier_eq_of_order h
  cases a <;> cases b <;> simp [tier] at htier <;> first | rfl | skip
  case object.object as bs =>
    exact congrArg (fun isTime : Bool => if isTime then 5 else 4) (isTime_eq_of_order h)

theorem equals_trans {a b c : Json} (ha : a.Proper) (hb : b.Proper) (hc : c.Proper)
    (h : equals a b = true) (h' : equals b c = true) : equals a c = true := by
  rw [equals_iff] at h h' ⊢
  rw [(order_composes a b c ha hb hc).1 h]
  exact h'

/-! ### A total preorder -/

/-- If the first of three values is not above the second and the second is not above the
third, the first is not above the third. -/
def Chains (a b c : Json) : Prop := order a b ≠ .gt → order b c ≠ .gt → order a c ≠ .gt

/-- The order of values is a total preorder as far as times are proper. Comparing the other
way round gives the opposite, and equality is the equality of this order, for all values
whatever. -/
theorem order_preorder (a b c : Json) :
    order b a = (order a b).swap ∧ (equals a b = true ↔ order a b = .eq) ∧
      (a.Proper → b.Proper → c.Proper → Chains a b c) :=
  ⟨(order_swap a b).symm, equals_iff, fun ha hb hc => (order_composes a b c ha hb hc).ne_gt⟩

/-- Three times in two zones and with a field that times need not have. -/
theorem order_preorder_times :
    let time (seconds : Int) (rest : Fields Json) : Json :=
      .object ((tagKey, .string "TIME") :: ("epoch_time", .ofInt seconds) :: rest)
    let early := time (-1) [("timezone", .string "+01:00")]
    let later := time 0 [("note", .null)]
    let same := time 0 [("timezone", .string "-01:00")]
    early.Proper ∧ later.Proper ∧ same.Proper ∧ order early later = .lt ∧
      order later same = .eq ∧ order early same ≠ .gt := by
  intro time early later same
  have hproper : ∀ seconds rest, ProperFields rest → (time seconds rest).Proper := fun _ _ hrest =>
    ⟨fun _ => ⟨⟨_, rfl⟩, rfl⟩, trivial, trivial, hrest⟩
  have hearly : early.Proper := hproper _ _ ⟨trivial, trivial⟩
  have hlater : later.Proper := hproper _ _ ⟨trivial, trivial⟩
  have hsame : same.Proper := hproper _ _ ⟨trivial, trivial⟩
  have hfirst : order early later = .lt := by decide +kernel
  have hsecond : order later same = .eq := by decide +kernel
  refine ⟨hearly, hlater, hsame, hfirst, hsecond, ?_⟩
  refine (order_preorder early later same).2.2 hearly hlater hsame ?_ ?_
  · simp [hfirst]
  · simp [hsecond]

/-- A time with a field before its tag can close a cycle: another object stands above it and
below an earlier time. So can a time without its seconds, which no time is told apart from. -/
theorem order_cycle :
    let tag := (tagKey, Json.string "TIME")
    let time (seconds : Nat) : Json := .object [tag, ("epoch_time", .ofNat seconds)]
    let noted := Json.object [("#", .ofNat 0), tag, ("epoch_time", .ofNat 2)]
    let note := Json.object [("#", .ofNat 1)]
    let timeless := Json.object [tag]
    ¬ Chains noted note (time 1) ∧ ¬ Chains (time 1) timeless (time 0) := by
  intro tag time noted note timeless
  have hnoted : order noted note = .lt ∧ order note (time 1) = .lt ∧ order noted (time 1) = .gt := by
    decide +kernel
  have htimeless : order (time 1) timeless = .eq ∧ order timeless (time 0) = .eq ∧
      order (time 1) (time 0) = .gt := by
    decide +kernel
  refine ⟨fun h => h ?_ ?_ hnoted.2.2, fun h => h ?_ ?_ htimeless.2.2⟩
  · simp [hnoted]
  · simp [hnoted]
  · simp [htimeless]
  · simp [htimeless]

/-! ### Untagged values -/

mutual

/-- No object in a value has a tag, at any depth. -/
def Untagged : Json → Prop
  | .array items => UntaggedItems items
  | .object fields => Fields.has fields tagKey = false ∧ UntaggedFields fields
  | _ => True

def UntaggedItems : List Json → Prop
  | [] => True
  | item :: rest => Untagged item ∧ UntaggedItems rest

def UntaggedFields : List (String × Json) → Prop
  | [] => True
  | (_, value) :: rest => Untagged value ∧ UntaggedFields rest

end

theorem isTime_of_untagged {fields : Fields Json} (h : Fields.has fields tagKey = false) :
    (Json.object fields).isTime = false := by
  have hget : Fields.get? fields tagKey = none := by simpa [Fields.has] using h
  simp [isTime, tag?, field?, hget]

mutual

theorem Untagged.proper : ∀ a : Json, a.Untagged → a.Proper
  | .array items, h => properItems items h
  | .object fields, h =>
    ⟨fun ht => absurd ht (by simp [isTime_of_untagged h.1]), properFields fields h.2⟩
  | .null, _ | .bool _, _ | .number _, _ | .string _, _ => trivial

theorem Untagged.properItems : ∀ items : List Json, UntaggedItems items → ProperItems items
  | [], _ => trivial
  | item :: rest, h => ⟨proper item h.1, properItems rest h.2⟩

theorem Untagged.properFields :
    ∀ fields : List (String × Json), UntaggedFields fields → ProperFields fields
  | [], _ => trivial
  | (_, value) :: rest, h => ⟨proper value h.1, properFields rest h.2⟩

end

end Json

end DocQuery
