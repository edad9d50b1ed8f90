import DocQuery.Proofs.Value.Merge

/-! What an untagged value is equal to.

A value without tags is equal to values without tags only. So equality goes through such a
value whatever the other two are. -/
namespace DocQuery.Json

mutual

theorem Untagged.of_order : ∀ a b : Json, order a b = .eq → a.Untagged → b.Untagged
  | _, .null, _, _ | _, .bool _, _, _ | _, .number _, _, _ | _, .string _, _, _ => trivial
  | .array as, .array bs, h, ha => Untagged.items_of_order as bs (by rwa [order] at h) ha
  | .object as, .object bs, h, ha => by
    rw [order_left (isTime_of_untagged ha.1)] at h
    refine ⟨?_, Untagged.fields_of_order as bs h ha.2⟩
    rw [Fields.has_eq, ← keys_of_orderFields h, ← Fields.has_eq]
    exact ha.1
  | .null, .array _, h, _ | .bool _, .array _, h, _ | .number _, .array _, h, _
  | .string _, .array _, h, _ | .object _, .array _, h, _ | .null, .object _, h, _
  | .bool _, .object _, h, _ | .number _, .object _, h, _ | .string _, .object _, h, _
  | .array _, .object _, h, _ => absurd (tier_eq_of_order h) (by simp [tier])

theorem Untagged.items_of_order : ∀ as bs : List Json, orderItems as bs = .eq →
    UntaggedItems as → UntaggedItems bs
  | _, [], _, _ => trivial
  | [], _ :: _, h, _ => by cases h
  | a :: as, b :: bs, h, ha => by
    rw [orderItems, Ordering.then_eq_eq] at h
    exact ⟨Untagged.of_order a b h.1 ha.1, Untagged.items_of_order as bs h.2 ha.2⟩

theorem Untagged.fields_of_order : ∀ as bs : List (String × Json), orderFields as bs = .eq →
    UntaggedFields as → UntaggedFields bs
  | _, [], _, _ => trivial
  | [], _ :: _, h, _ => by cases h
  | (_, a) :: as, (_, b) :: bs, h, ha => by
    rw [orderFields, Ordering.then_eq_eq, Ordering.then_eq_eq] at h
    exact ⟨Untagged.of_order a b h.2.1 ha.1, Untagged.fields_of_order as bs h.2.2 ha.2⟩

end

/-- What equals an untagged value is no different from it, whatever it is compared with. -/
theorem Untagged.equals_congr {a b : Json} (ha : a.Untagged) (h : equals a b = true) (c : Json) :
    equals c b = equals c a := by
  have huntagged : ∀ {x y : Json}, x.Untagged → equals x y = true → y.Untagged :=
    fun hx hxy => Untagged.of_order _ _ (eq_of_beq (Bool.and_eq_true_iff.mp hxy).1) hx
  have hb : b.Untagged := huntagged ha h
  have hba : equals b a = true := equals_comm a b ▸ h
  refine Bool.eq_iff_iff.mpr ⟨fun hcb => ?_, fun hca => ?_⟩
  · have hc : c.Untagged := huntagged hb (equals_comm c b ▸ hcb)
    exact equals_trans hc.proper hb.proper ha.proper hcb hba
  · have hc : c.Untagged := huntagged ha (equals_comm c a ▸ hca)
    exact equals_trans hc.proper ha.proper hb.proper hca h

end DocQuery.Json
