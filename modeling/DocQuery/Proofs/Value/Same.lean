import DocQuery.Proofs.Json.Fields
import DocQuery.Proofs.Value.Order

/-! Values that are the same compare alike with every other value. -/
namespace DocQuery

theorem Number.same_self (n : Number) : n.same n = true := by
  cases n <;> simp [Number.same]

theorem Number.same_comm (m n : Number) : m.same n = n.same m := by
  cases m <;> cases n <;> simp only [Number.same, BEq.comm]

namespace Json

mutual

theorem same_self : ∀ a : Json, a.same a = true
  | .null => rfl
  | .bool _ | .string _ => by rw [same, beq_self_eq_true]
  | .number n => n.same_self
  | .array items => sameItems_self items
  | .object fields => sameFields_self fields

theorem sameItems_self : ∀ items : List Json, sameItems items items = true
  | [] => rfl
  | a :: rest => by rw [sameItems, same_self a, sameItems_self rest, Bool.and_self]

theorem sameFields_self : ∀ fields : List (String × Json), sameFields fields fields = true
  | [] => rfl
  | (key, a) :: rest => by
    rw [sameFields, beq_self_eq_true, same_self a, sameFields_self rest, Bool.and_self, Bool.and_self]

end

mutual

theorem same_comm : ∀ a b : Json, a.same b = b.same a
  | .array as, b => by
    cases b with
    | array bs => exact sameItems_comm as bs
    | _ => simp only [same]
  | .object as, b => by
    cases b with
    | object bs => exact sameFields_comm as bs
    | _ => simp only [same]
  | .number m, b => by
    cases b with
    | number n => exact m.same_comm n
    | _ => simp only [same]
  | .null, b | .bool _, b | .string _, b => by cases b <;> simp only [same, BEq.comm]

theorem sameItems_comm : ∀ as bs : List Json, sameItems as bs = sameItems bs as
  | [], [] | [], _ :: _ | _ :: _, [] => rfl
  | a :: as, b :: bs => by rw [sameItems, sameItems, same_comm a b, sameItems_comm as bs]

theorem sameFields_comm : ∀ as bs : List (String × Json), sameFields as bs = sameFields bs as
  | [], [] | [], _ :: _ | _ :: _, [] => rfl
  | (j, a) :: as, (k, b) :: bs => by
    rw [sameFields, sameFields, same_comm a b, sameFields_comm as bs, BEq.comm (a := j)]

end

theorem forall₂_of_sameItems {as bs : List Json} (h : sameItems as bs = true) :
    List.Forall₂ (fun a b => a.same b = true) as bs := by
  induction as generalizing bs with
  | nil => cases bs <;> simp_all [sameItems]
  | cons a as ih =>
    cases bs with
    | nil => simp [sameItems] at h
    | cons b bs =>
      simp only [sameItems, Bool.and_eq_true] at h
      exact .cons h.1 (ih h.2)

/-- The fields of values that are the same are found under the same keys. -/
theorem get?_of_sameFields {as bs : List (String × Json)} (h : sameFields as bs = true)
    (key : String) :
    (Fields.get? as key = none ∧ Fields.get? bs key = none) ∨
      ∃ a b, Fields.get? as key = some a ∧ Fields.get? bs key = some b ∧ a.same b = true := by
  match as, bs with
  | [], [] => exact .inl ⟨rfl, rfl⟩
  | [], _ :: _ | _ :: _, [] => simp [sameFields] at h
  | (j, a) :: as, (k, b) :: bs =>
    simp only [sameFields, Bool.and_eq_true, beq_iff_eq] at h
    obtain ⟨⟨rfl, hab⟩, hrest⟩ := h
    rw [Fields.get?_cons, Fields.get?_cons]
    by_cases hkey : key = j
    · rw [if_pos hkey, if_pos hkey]
      exact .inr ⟨a, b, rfl, rfl, hab⟩
    · rw [if_neg hkey, if_neg hkey]
      exact get?_of_sameFields hrest key

theorem string?_of_same {a b : Json} (h : a.same b = true) : a.string? = b.string? := by
  cases a <;> cases b <;> simp_all [same, string?]

theorem toInt_of_same {m n : Number} (h : m.same n = true) :
    m.toBinary64.toInt = n.toBinary64.toInt := by
  cases m <;> cases n <;> simp_all [Number.same, Number.toBinary64]

theorem number?_of_same {a b : Json} (h : a.same b = true) :
    (a.number? = none ∧ b.number? = none) ∨
      ∃ m n, a.number? = some m ∧ b.number? = some n ∧ m.same n = true := by
  cases a <;> cases b <;> simp_all [same, number?]

section
variable {as bs : List (String × Json)} (h : sameFields as bs = true)
include h

theorem isTime_of_same : (Json.object as).isTime = (Json.object bs).isTime := by
  unfold isTime tag?
  rw [field?_object, field?_object]
  obtain ⟨ha, hb⟩ | ⟨a, b, ha, hb, hab⟩ := get?_of_sameFields h tagKey
  · rw [ha, hb]
  · rw [ha, hb, Option.bind_some, Option.bind_some, string?_of_same hab]

theorem epoch?_of_same :
    (Time.epoch? (.object as)).map Binary64.toInt = (Time.epoch? (.object bs)).map Binary64.toInt := by
  unfold Time.epoch?
  rw [isTime_of_same h, field?_object, field?_object]
  split
  · obtain ⟨ha, hb⟩ | ⟨a, b, ha, hb, hab⟩ := get?_of_sameFields h "epoch_time"
    · rw [ha, hb]
    · rw [ha, hb, Option.bind_some, Option.bind_some]
      obtain ⟨ha, hb⟩ | ⟨m, n, ha, hb, hmn⟩ := number?_of_same hab
      · rw [ha, hb]
      · rw [ha, hb]
        exact congrArg some (toInt_of_same hmn)
  · rfl

theorem orderOfTimes_of_same (c : Json) :
    orderOfTimes (.object as) c = orderOfTimes (.object bs) c := by
  have hepoch := epoch?_of_same h
  unfold orderOfTimes
  cases ha : Time.epoch? (.object as) with
  | none =>
    cases hb : Time.epoch? (.object bs) with
    | none => rfl
    | some y => simp [ha, hb] at hepoch
  | some x =>
    cases hb : Time.epoch? (.object bs) with
    | none => simp [ha, hb] at hepoch
    | some y =>
      have hxy : x.toInt = y.toInt := by simpa [ha, hb] using hepoch
      cases Time.epoch? c with
      | none => rfl
      | some z => exact congrArg (compare · z.toInt) hxy

end

theorem rank_of_same {a b : Json} (h : a.same b = true) : a.rank = b.rank := by
  cases a <;> cases b <;> simp [same] at h <;> first | rfl | skip
  exact congrArg (fun isTime : Bool => if isTime then 5 else 4) (isTime_of_same h)

theorem tier_of_same {a b : Json} (h : a.same b = true) : a.tier = b.tier := by
  cases a <;> cases b <;> simp [same] at h <;> rfl

mutual

/-- Values that are the same compare alike with every other value. -/
theorem order_of_same (a b : Json) (h : a.same b = true) (c : Json) : order a c = order b c := by
  by_cases hc : a.tier = c.tier
  · have hb := tier_of_same h
    cases a <;> cases b <;> simp [tier] at hb <;> cases c <;> simp [tier] at hc
    case array.array.array as bs cs =>
      rw [order, order]
      exact orderItems_of_same as bs h cs
    case object.object.object as bs cs =>
      rw [order, order, isTime_of_same h, orderOfTimes_of_same h, orderFields_of_same as bs h cs]
    case number.number.number m n p =>
      rw [order, order]
      exact congrArg (compare · p.toBinary64.toInt) (toInt_of_same h)
    case string.string.string s t u => simp_all [same]
    case bool.bool.bool s t u => simp_all [same]
    case null.null.null => rfl
  · rw [order_of_tier_ne hc, order_of_tier_ne (tier_of_same h ▸ hc), tier_of_same h]

theorem orderItems_of_same (as bs : List Json) (h : sameItems as bs = true) (cs : List Json) :
    orderItems as cs = orderItems bs cs := by
  match as, bs, cs with
  | [], [], _ => rfl
  | [], _ :: _, _ | _ :: _, [], _ => simp [sameItems] at h
  | _ :: _, _ :: _, [] => rw [orderItems, orderItems]
  | a :: as, b :: bs, c :: cs =>
    simp only [sameItems, Bool.and_eq_true] at h
    rw [orderItems, orderItems, order_of_same a b h.1 c, orderItems_of_same as bs h.2 cs]

theorem orderFields_of_same (as bs : List (String × Json)) (h : sameFields as bs = true)
    (cs : List (String × Json)) : orderFields as cs = orderFields bs cs := by
  match as, bs, cs with
  | [], [], _ => rfl
  | [], _ :: _, _ | _ :: _, [], _ => simp [sameFields] at h
  | _ :: _, _ :: _, [] => rw [orderFields, orderFields]
  | (j, a) :: as, (k, b) :: bs, (l, c) :: cs =>
    simp only [sameFields, Bool.and_eq_true, beq_iff_eq] at h
    rw [orderFields, orderFields, h.1.1, order_of_same a b h.1.2 c, orderFields_of_same as bs h.2 cs]

end

theorem equals_of_same {a b : Json} (h : a.same b = true) (c : Json) : equals c a = equals c b := by
  rw [equals_comm c a, equals_comm c b]
  unfold equals
  rw [order_of_same a b h c, rank_of_same h]

end Json

end DocQuery
