import DocQuery.Proofs.Json.Fields
import DocQuery.Proofs.Value.Order
import DocQuery.Value.Document

/-! Merging values.

What a merge makes of a field depends on that field alone. Values that are equal and hold no
literal merge, field by field, into a value that is equal to both. -/
namespace DocQuery.Json

/-! ### Fields of a merge -/

/-- A patch that names each field once. -/
theorem get?_mergeFields {patch : Fields Json} (h : patch.Ascending) (fields : Fields Json)
    (key : String) :
    Fields.get? (mergeFields fields patch) key =
      match Fields.get? patch key with
      | none => Fields.get? fields key
      | some value =>
        if value.isRemoval then none
        else some (merge ((Fields.get? fields key).getD .null) value) := by
  induction patch generalizing fields with
  | nil => rw [mergeFields]; rfl
  | cons field rest ih =>
    obtain ⟨name, value⟩ := field
    rw [mergeFields, ih h.tail]
    by_cases hname : key = name
    · subst hname
      rw [h.get?_tail, Fields.get?_cons, if_pos rfl]
      by_cases hremoval : value.isRemoval
      · simp [hremoval, Fields.get?_remove]
      · simp [hremoval, Fields.get?_insert_self]
    · have hkept : Fields.get? (if value.isRemoval then Fields.remove fields name
          else Fields.insert fields name (merge ((Fields.get? fields name).getD .null) value)) key =
            Fields.get? fields key := by
        split
        · rw [Fields.get?_remove, if_neg hname]
        · exact Fields.get?_insert_of_ne _ _ hname
      rw [Fields.get?_cons, if_neg hname, hkept]

/-- Fields merged one by one, the keys being the same. -/
def mergeEach (fields patch : Fields Json) : Fields Json :=
  List.zipWith (fun field change => (field.1, merge field.2 change.2)) fields patch

theorem keys_mergeEach {fields patch : Fields Json}
    (hkeys : fields.map Prod.fst = patch.map Prod.fst) :
    (mergeEach fields patch).map Prod.fst = patch.map Prod.fst := by
  induction fields generalizing patch with
  | nil => exact hkeys
  | cons field rest ih =>
    obtain ⟨change, more, rfl, hname, hmore⟩ := List.map_eq_cons_iff.mp hkeys.symm
    rw [mergeEach, List.zipWith_cons_cons, List.map_cons, List.map_cons, hname]
    exact congrArg _ (ih hmore.symm)

/-- A patch of the fields that are there, and that removes none, changes them where they
stand. -/
theorem mergeFields_append (done : Fields Json) {fields patch : Fields Json}
    (hkeys : fields.map Prod.fst = patch.map Prod.fst)
    (hascending : Fields.Ascending (done ++ fields))
    (hstay : ∀ change ∈ patch, change.2.isRemoval = false) :
    mergeFields (done ++ fields) patch = done ++ mergeEach fields patch := by
  induction patch generalizing done fields with
  | nil =>
    have hnil : fields = [] := List.map_eq_nil_iff.mp hkeys
    rw [hnil, mergeFields]
    rfl
  | cons change rest ih =>
    obtain ⟨key, value⟩ := change
    obtain ⟨⟨name, old⟩, more, rfl, hname, hmore⟩ := List.map_eq_cons_iff.mp hkeys
    cases hname
    have hbefore : ∀ field ∈ done, field.1 < key := by
      intro field hfield
      have hall := hascending
      unfold Fields.Ascending at hall
      rw [List.map_append, List.map_cons] at hall
      exact (List.pairwise_append.mp hall).2.2 _ (List.mem_map_of_mem hfield) _ List.mem_cons_self
    have hnext : Fields.Ascending (done ++ [(key, merge old value)] ++ more) := by
      unfold Fields.Ascending at hascending ⊢
      simpa using hascending
    rw [mergeFields, hstay _ List.mem_cons_self, if_neg Bool.false_ne_true,
      Fields.get?_middle hbefore, Option.getD_some, Fields.insert_middle hbefore, List.append_cons,
      ih _ hmore hnext fun other ho => hstay other (List.mem_cons_of_mem _ ho), List.append_assoc]
    rfl

/-! ### Plain values -/

mutual

/-- No object in a value is a literal, times are proper, and fields stand in order. -/
def Plain : Json → Prop
  | .array items => PlainItems items
  | .object fields =>
    (Json.object fields).isLiteral = false ∧
      ((Json.object fields).isTime = true → IsProperTime fields) ∧ Fields.Ascending fields ∧
      PlainFields fields
  | _ => True

def PlainItems : List Json → Prop
  | [] => True
  | item :: rest => Plain item ∧ PlainItems rest

def PlainFields : List (String × Json) → Prop
  | [] => True
  | (_, value) :: rest => Plain value ∧ PlainFields rest

end

mutual

theorem Plain.proper : ∀ a : Json, a.Plain → a.Proper
  | .array items, h => plainItems_proper items h
  | .object fields, h => ⟨h.2.1, plainFields_proper fields h.2.2.2⟩
  | .null, _ | .bool _, _ | .number _, _ | .string _, _ => trivial

theorem plainItems_proper : ∀ items : List Json, PlainItems items → ProperItems items
  | [], _ => trivial
  | item :: rest, h => ⟨Plain.proper item h.1, plainItems_proper rest h.2⟩

theorem plainFields_proper :
    ∀ fields : List (String × Json), PlainFields fields → ProperFields fields
  | [], _ => trivial
  | (_, value) :: rest, h => ⟨Plain.proper value h.1, plainFields_proper rest h.2⟩

end

theorem isLiteral_of_plain {a : Json} (h : a.Plain) : a.isLiteral = false := by
  cases a with
  | object fields => exact h.1
  | _ => rfl

theorem isLiteral_of_untagged {fields : Fields Json} (h : Fields.has fields tagKey = false) :
    (Json.object fields).isLiteral = false := by
  have hget : Fields.get? fields tagKey = none := by simpa [Fields.has] using h
  simp [isLiteral, tag?, hget]

theorem isRemoval_of_plain {a : Json} (h : a.Plain) : a.isRemoval = false := by
  rw [isRemoval, isLiteral_of_plain h, Bool.false_and]

theorem plain_of_mem {fields : Fields Json} (h : PlainFields fields) :
    ∀ field ∈ fields, field.2.Plain := by
  induction fields with
  | nil => exact fun field hfield => by cases hfield
  | cons first rest ih => exact List.forall_mem_cons.mpr ⟨h.1, ih h.2⟩

/-- Only an object on an object makes more than the patch. -/
theorem merge_of_not_object {base patch : Json} (h : ∀ fields, patch ≠ .object fields) :
    merge base patch = patch := by
  cases patch with
  | object fields => exact absurd rfl (h fields)
  | _ => rw [merge]; nofun

theorem keys_of_orderFields {as bs : Fields Json} (h : orderFields as bs = .eq) :
    as.map Prod.fst = bs.map Prod.fst := by
  induction as generalizing bs with
  | nil => cases bs with
    | nil => rfl
    | cons b bs => cases h
  | cons a as ih =>
    obtain ⟨j, a⟩ := a
    cases bs with
    | nil => cases h
    | cons b bs =>
      obtain ⟨k, b⟩ := b
      rw [orderFields, Ordering.then_eq_eq, Ordering.then_eq_eq] at h
      rw [List.map_cons, List.map_cons, ih h.2.2, Std.LawfulEqOrd.eq_of_compare h.1]

mutual

/-- Plain values that are equal merge into a plain value that is equal to them. -/
theorem merge_equal : ∀ a b : Json, order a b = .eq → a.Plain → b.Plain →
    (merge a b).Plain ∧ order (merge a b) b = .eq
  | .object as, .object bs, h, ha, hb => by
    by_cases htag : Fields.has bs tagKey = true
    · -- A tagged object is taken as it is.
      have hmerge : merge (.object as) (.object bs) = .object bs := by
        rw [merge, if_pos htag, replacement, hb.1, if_neg Bool.false_ne_true]
      rw [hmerge]
      exact ⟨hb, order_self _⟩
    · have htag : Fields.has bs tagKey = false := by simpa using htag
      rw [order_right (isTime_of_untagged htag)] at h
      have hkeys := keys_of_orderFields h
      have hstay : ∀ change ∈ bs, change.2.isRemoval = false := fun change hchange =>
        isRemoval_of_plain (plain_of_mem hb.2.2.2 change hchange)
      have hmerge : merge (.object as) (.object bs) = .object (mergeEach as bs) := by
        rw [merge, htag, if_neg Bool.false_ne_true]
        exact congrArg _ (mergeFields_append [] hkeys ha.2.2.1 hstay)
      obtain ⟨hplain, horder⟩ := mergeEach_equal as bs h ha.2.2.2 hb.2.2.2
      have hsame := keys_mergeEach hkeys
      have hhas : Fields.has (mergeEach as bs) tagKey = false := by
        rw [Fields.has_eq, hsame, ← Fields.has_eq, htag]
      have hascending : Fields.Ascending (mergeEach as bs) := by
        unfold Fields.Ascending
        rw [hsame]
        exact hb.2.2.1
      rw [hmerge, order_right (isTime_of_untagged htag)]
      refine ⟨⟨isLiteral_of_untagged hhas, fun htime => ?_, hascending, hplain⟩, horder⟩
      rw [isTime_of_untagged hhas] at htime
      cases htime
  | .null, .object bs, _, _, hb | .bool _, .object bs, _, _, hb | .number _, .object bs, _, _, hb
  | .string _, .object bs, _, _, hb | .array _, .object bs, _, _, hb => by
    rw [merge, replacement, isLiteral_of_plain hb, if_neg Bool.false_ne_true]
    · exact ⟨hb, order_self _⟩
    · nofun
  | a, .null, _, _, hb | a, .bool _, _, _, hb | a, .number _, _, _, hb | a, .string _, _, _, hb
  | a, .array _, _, _, hb => by
    rw [merge_of_not_object fun _ h => by cases h]
    exact ⟨hb, order_self _⟩

theorem mergeEach_equal : ∀ as bs : Fields Json, orderFields as bs = .eq → PlainFields as →
    PlainFields bs → PlainFields (mergeEach as bs) ∧ orderFields (mergeEach as bs) bs = .eq
  | [], [], _, _, _ => ⟨trivial, rfl⟩
  | [], _ :: _, h, _, _ | _ :: _, [], h, _, _ => nomatch h
  | (j, a) :: as, (k, b) :: bs, h, ha, hb => by
    rw [orderFields, Ordering.then_eq_eq, Ordering.then_eq_eq] at h
    obtain ⟨hhead, horder⟩ := merge_equal a b h.2.1 ha.1 hb.1
    obtain ⟨htail, hrest⟩ := mergeEach_equal as bs h.2.2 ha.2 hb.2
    refine ⟨⟨hhead, htail⟩, ?_⟩
    rw [mergeEach, List.zipWith_cons_cons, orderFields, h.1, horder]
    exact hrest

end

end DocQuery.Json
