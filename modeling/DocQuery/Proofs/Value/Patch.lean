import DocQuery.Proofs.Value.Merge

/-! Merges establish their patches.

What a patch has once been merged into is not changed by merging it again, and what a patch
does not change matches it as a pattern. The merges of different fields do not disturb each
other (`insert_mergeFields`), so the second merge finds each field as the first one left it. The
recursion is on the patch alone, and nothing is asked of the value that it is merged into. -/
namespace DocQuery

namespace Fields
variable {α : Type}

/-- Of two values under one key, the one that is inserted last stays. -/
theorem insert_insert (fields : Fields α) (key : String) (a b : α) :
    (fields.insert key a).insert key b = fields.insert key b := by
  induction fields with
  | nil => simp [Fields.insert]
  | cons field rest ih =>
    obtain ⟨name, value⟩ := field
    by_cases hlt : key < name
    · simp [Fields.insert, hlt]
    · by_cases heq : key = name
      · simp [Fields.insert, heq]
      · simp [Fields.insert, hlt, heq, ih]

theorem insert_comm_of_lt (fields : Fields α) {j k : String} (h : j < k) (a b : α) :
    (fields.insert j a).insert k b = (fields.insert k b).insert j a := by
  have hnot : ¬ k < j := String.lt_asymm h
  have hne : k ≠ j := fun heq => String.lt_irrefl k (heq ▸ h)
  induction fields with
  | nil => simp [Fields.insert, h, hnot, hne]
  | cons field rest ih =>
    obtain ⟨name, value⟩ := field
    by_cases hlt : j < name
    · by_cases hk : k < name
      · simp [Fields.insert, hlt, hk, h, hnot, hne]
      · by_cases heq : k = name
        · subst heq
          simp [Fields.insert, h, hnot, hne]
        · simp [Fields.insert, hlt, hk, heq, hnot, hne]
    · have hk : ¬ k < name := fun hk => hlt (String.lt_trans h hk)
      have hkne : k ≠ name := fun heq => hlt (heq ▸ h)
      by_cases heq : j = name
      · subst heq
        simp [Fields.insert, hnot, hne]
      · simp [Fields.insert, hlt, heq, hk, hkne, ih]

/-- Fields of different keys are inserted in any order. -/
theorem insert_comm (fields : Fields α) {j k : String} (h : j ≠ k) (a b : α) :
    (fields.insert j a).insert k b = (fields.insert k b).insert j a := by
  rcases Std.lt_trichotomy j k with hlt | heq | hgt
  · exact insert_comm_of_lt fields hlt a b
  · exact absurd heq h
  · exact (insert_comm_of_lt fields hgt b a).symm

end Fields

namespace Json

/-! ### Values without literals -/

mutual

/-- No object in a value is a literal, and the fields of objects stand in order, at any depth. -/
def LiteralFree : Json → Prop
  | .array items => LiteralFreeItems items
  | .object fields =>
    (Json.object fields).isLiteral = false ∧ Fields.Ascending fields ∧ LiteralFreeFields fields
  | _ => True

def LiteralFreeItems : List Json → Prop
  | [] => True
  | item :: rest => LiteralFree item ∧ LiteralFreeItems rest

def LiteralFreeFields : List (String × Json) → Prop
  | [] => True
  | (_, value) :: rest => LiteralFree value ∧ LiteralFreeFields rest

end

theorem LiteralFree.isLiteral {a : Json} (h : a.LiteralFree) : a.isLiteral = false := by
  cases a with
  | object fields => exact h.1
  | _ => rfl

theorem LiteralFree.isRemoval {a : Json} (h : a.LiteralFree) : a.isRemoval = false := by
  rw [Json.isRemoval, h.isLiteral, Bool.false_and]

theorem LiteralFree.replacement {a : Json} (h : a.LiteralFree) : a.replacement = a := by
  rw [Json.replacement, h.isLiteral, if_neg Bool.false_ne_true]

theorem LiteralFreeFields.of_mem {fields : Fields Json} (h : LiteralFreeFields fields) :
    ∀ field ∈ fields, field.2.LiteralFree := by
  induction fields with
  | nil => exact fun field hfield => by cases hfield
  | cons first rest ih => exact List.forall_mem_cons.mpr ⟨h.1, ih h.2⟩

/-! ### Merging -/

theorem isObject_iff {a : Json} : a.isObject = true ↔ ∃ fields, a = .object fields := by
  cases a <;> simp [isObject]

section Objects
variable {patch : Fields Json}

/-- A tagged object replaces whatever it is merged into. -/
theorem merge_tagged (base : Json) (htag : Fields.has patch tagKey = true)
    (hp : (Json.object patch).LiteralFree) : merge base (.object patch) = .object patch := by
  cases base with
  | object fields => rw [merge, if_pos htag, hp.replacement]
  | _ =>
    rw [merge, hp.replacement]
    exact fun _ h => by cases h

theorem merge_untagged (fields : Fields Json) (htag : ¬ Fields.has patch tagKey = true) :
    merge (.object fields) (.object patch) = .object (mergeFields fields patch) := by
  rw [merge, if_neg htag]

/-- An object replaces what it is merged into, unless that is an object as well and the patch has
no tag. -/
theorem merge_object (base : Json) (hp : (Json.object patch).LiteralFree) :
    merge base (.object patch) = .object patch ∨
      ¬ Fields.has patch tagKey = true ∧ ∃ fields, base = .object fields := by
  by_cases htag : Fields.has patch tagKey = true
  · exact .inl (merge_tagged base htag hp)
  · cases base with
    | object fields => exact .inr ⟨htag, fields, rfl⟩
    | _ =>
      left
      rw [merge, hp.replacement]
      exact fun _ h => by cases h

end Objects

theorem isObject_merge (base : Json) {p : Json} (hp : p.LiteralFree) (hobject : p.isObject = true) :
    (merge base p).isObject = true := by
  obtain ⟨patch, rfl⟩ := isObject_iff.mp hobject
  rcases merge_object base hp with hmerge | ⟨htag, fields, rfl⟩
  · rw [hmerge, hobject]
  · rw [merge_untagged fields htag]
    rfl

mutual

/-- A value without literals is not changed by itself. -/
theorem merge_self : ∀ p : Json, p.LiteralFree → merge p p = p
  | .object patch, hp => by
    rcases merge_object (.object patch) hp with hmerge | ⟨htag, -⟩
    · exact hmerge
    · have hstay : ∀ change ∈ patch, change.2.isRemoval = false := fun change hchange =>
        (hp.2.2.of_mem change hchange).isRemoval
      have heach : mergeFields patch patch = mergeEach patch patch :=
        mergeFields_append [] rfl hp.2.1 hstay
      rw [merge_untagged patch htag, heach, mergeEach_self patch hp.2.2]
  | .null, _ | .bool _, _ | .number _, _ | .string _, _ | .array _, _ =>
    merge_of_not_object fun _ h => by cases h

theorem mergeEach_self : ∀ patch : Fields Json, LiteralFreeFields patch →
    mergeEach patch patch = patch
  | [], _ => rfl
  | (key, value) :: rest, hp => by
    have hrest : mergeEach rest rest = rest := mergeEach_self rest hp.2
    rw [mergeEach, List.zipWith_cons_cons, merge_self value hp.1]
    exact congrArg _ hrest

end

theorem mergeFields_cons (fields : Fields Json) {key : String} {value : Json}
    (hvalue : value.LiteralFree) (rest : Fields Json) :
    mergeFields fields ((key, value) :: rest) =
      mergeFields (fields.insert key (merge ((fields.get? key).getD .null) value)) rest := by
  rw [mergeFields, hvalue.isRemoval, if_neg Bool.false_ne_true]

/-- A field that the patch does not name may be inserted before the merge or after it. -/
theorem insert_mergeFields (fields : Fields Json) {patch : Fields Json}
    (hp : LiteralFreeFields patch) {key : String} (h : ∀ change ∈ patch, key ≠ change.1)
    (value : Json) :
    Fields.insert (mergeFields fields patch) key value =
      mergeFields (Fields.insert fields key value) patch := by
  induction patch generalizing fields with
  | nil => rw [mergeFields, mergeFields]
  | cons change rest ih =>
    obtain ⟨name, new⟩ := change
    have hname : name ≠ key := (h _ List.mem_cons_self).symm
    rw [mergeFields_cons _ hp.1, mergeFields_cons _ hp.1, Fields.get?_insert_of_ne _ _ hname,
      ih _ hp.2 fun other ho => h other (List.mem_cons_of_mem _ ho), Fields.insert_comm _ hname]

mutual

/-- A merge of a patch without literals is not changed by merging the patch again. -/
theorem merge_merge : ∀ p : Json, p.LiteralFree → ∀ a : Json, merge (merge a p) p = merge a p
  | .object patch, hp, a => by
    rcases merge_object a hp with hmerge | ⟨htag, fields, rfl⟩
    · rw [hmerge, merge_self _ hp]
    · rw [merge_untagged _ htag, merge_untagged _ htag, mergeFields_twice patch hp.2.1 hp.2.2]
  | .null, _, _ | .bool _, _, _ | .number _, _, _ | .string _, _, _ | .array _, _, _ =>
    (merge_of_not_object fun _ h => by cases h).trans
      (merge_of_not_object fun _ h => by cases h).symm

theorem mergeFields_twice : ∀ patch : Fields Json, patch.Ascending → LiteralFreeFields patch →
    ∀ fields : Fields Json,
      mergeFields (mergeFields fields patch) patch = mergeFields fields patch
  | [], _, _, _ => by rw [mergeFields, mergeFields]
  | (key, value) :: rest, hascending, hp, fields => by
    rw [mergeFields_cons fields hp.1]
    generalize hmerged : merge ((fields.get? key).getD .null) value = merged
    -- The rest of the patch leaves this field as it was merged.
    have hget : Fields.get? (mergeFields (Fields.insert fields key merged) rest) key =
        some merged := by
      rw [get?_mergeFields hascending.tail, hascending.get?_tail, Fields.get?_insert_self]
    have hagain : merge merged value = merged := by
      rw [← hmerged]
      exact merge_merge value hp.1 _
    have hother : ∀ change ∈ rest, key ≠ change.1 := fun change hchange heq =>
      String.lt_irrefl key ((List.pairwise_cons.mp hascending).1 _ (heq ▸ List.mem_map_of_mem hchange))
    rw [mergeFields_cons _ hp.1, hget, Option.getD_some, hagain,
      insert_mergeFields _ hp.2 hother, Fields.insert_insert]
    exact mergeFields_twice rest hascending.tail hp.2 _

end

/-! ### Matching -/

mutual

/-- What a patch does not change matches the patch. -/
theorem matchesPattern_of_merge : ∀ p : Json, p.LiteralFree → ∀ a : Json, merge a p = a →
    matchesPattern a p = true
  | .object patch, hp, a, h => by
    by_cases htag : Fields.has patch tagKey = true
    · rw [merge_tagged a htag hp] at h
      rw [← h, matchesPattern, isPattern, htag]
      exact equals_self _
    · obtain ⟨fields, rfl⟩ : ∃ fields, a = .object fields := by
        rcases merge_object a hp with hmerge | ⟨-, hobject⟩
        · exact ⟨patch, h.symm.trans hmerge⟩
        · exact hobject
      rw [merge_untagged fields htag, Json.object.injEq] at h
      rw [matchesPattern, isPattern, if_pos (by simpa using htag)]
      refine matchesFields_of_merge patch hp.2.2 fields fun change hchange => ?_
      have hstay : change.2.isRemoval = false := (hp.2.2.of_mem change hchange).isRemoval
      have hget := get?_mergeFields hp.2.1 fields change.1
      rw [h, hp.2.1.get?_of_mem hchange] at hget
      simpa [hstay] using hget
  | .null, _, _, h | .bool _, _, _, h | .number _, _, _, h | .string _, _, _, h
  | .array _, _, _, h => by
    rw [merge_of_not_object fun _ h => by cases h] at h
    rw [← h]
    exact equals_self _

theorem matchesFields_of_merge : ∀ patch : Fields Json, LiteralFreeFields patch →
    ∀ fields : Fields Json, (∀ change ∈ patch, Fields.get? fields change.1 =
      some (merge ((Fields.get? fields change.1).getD .null) change.2)) →
    matchesFields fields patch = true
  | [], _, _, _ => rfl
  | (key, value) :: rest, hp, fields, h => by
    have hrest : matchesFields fields rest = true :=
      matchesFields_of_merge rest hp.2 fields fun other ho => h other (List.mem_cons_of_mem _ ho)
    have hget := h _ List.mem_cons_self
    obtain ⟨found, hfound⟩ := Option.isSome_iff_exists.mp (hget ▸ Option.isSome_some)
    rw [hfound, Option.getD_some, Option.some.injEq] at hget
    have hmatch : matchesPattern found value = true :=
      matchesPattern_of_merge value hp.1 found hget.symm
    rw [matchesFields, hfound]
    exact Bool.and_eq_true_iff.mpr ⟨hmatch, hrest⟩

end

/-- A merge matches the patch that was merged. -/
theorem matchesPattern_merge {p : Json} (hp : p.LiteralFree) (a : Json) :
    matchesPattern (merge a p) p = true :=
  matchesPattern_of_merge p hp _ (merge_merge p hp a)

end Json

end DocQuery
