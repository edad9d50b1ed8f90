import DocQuery.Proofs.Value.Patch

/-! Literals in patches.

A literal in a patch stands for what it holds, and no merge should leave one behind. A merge meets
the literals that are fields of the objects that it works off, and it works off an object of the
patch only where the base has an object as well. Everything else in the patch is taken as it is,
with the literals in it (`Reaches`). So a merge is free of literals exactly if it reaches them all
(`literalFree_merge_iff`). -/
namespace DocQuery.Json

/-! ### Patches with literals -/

mutual

/-- Literals stand in the value as fields of untagged objects only, and hold no literals. The
fields of objects stand in order. -/
def Marked : Json → Prop
  | .array items => MarkedItems items
  | .object fields =>
    (Json.object fields).isLiteral = false ∧ Fields.Ascending fields ∧
      MarkedFields (Fields.has fields tagKey) fields
  | _ => True

def MarkedItems : List Json → Prop
  | [] => True
  | item :: rest => Marked item ∧ MarkedItems rest

def MarkedFields (tagged : Bool) : List (String × Json) → Prop
  | [] => True
  | (_, value) :: rest =>
    (tagged = false ∧ value.isLiteral = true ∧
        (∀ held, value.field? "value" = some held → held.LiteralFree) ∨ Marked value) ∧
      MarkedFields tagged rest

end

mutual

/-- A merge of the patch into the base reaches all literals of the patch: of an untagged object
it reaches the fields if the base is an object, and it takes anything else as it is. -/
def Reaches (base : Json) : Json → Prop
  | .object patch =>
    match base with
    | .object fields =>
      if Fields.has patch tagKey then (Json.object patch).LiteralFree
      else ReachesFields fields patch
    | _ => (Json.object patch).LiteralFree
  | patch => patch.LiteralFree

def ReachesFields (fields : Fields Json) : List (String × Json) → Prop
  | [] => True
  | (key, value) :: rest =>
    (value.isLiteral = true ∨ Reaches ((Fields.get? fields key).getD .null) value) ∧
      ReachesFields fields rest

end

theorem Marked.isLiteral {p : Json} (h : p.Marked) : p.isLiteral = false := by
  cases p with
  | object fields => exact h.1
  | _ => rfl

/-! ### Fields of objects without literals -/

theorem literalFreeFields_iff {fields : Fields Json} :
    LiteralFreeFields fields ↔ ∀ field ∈ fields, field.2.LiteralFree := by
  refine ⟨fun h => h.of_mem, fun h => ?_⟩
  induction fields with
  | nil => trivial
  | cons field rest ih =>
    obtain ⟨hfield, hrest⟩ := List.forall_mem_cons.mp h
    exact ⟨hfield, ih hrest⟩

/-- An object in order is free of literals if it is none and holds none under a key. -/
theorem literalFree_object_iff {fields : Fields Json} (hasc : fields.Ascending)
    (hliteral : (Json.object fields).isLiteral = false) :
    (Json.object fields).LiteralFree ↔
      ∀ key value, Fields.get? fields key = some value → value.LiteralFree := by
  refine ⟨fun h key value hget => h.2.2.of_mem _ (Fields.mem_of_get? hget), fun h => ?_⟩
  exact ⟨hliteral, hasc, literalFreeFields_iff.mpr fun field hfield =>
    h _ _ (hasc.get?_of_mem hfield)⟩

theorem LiteralFree.get? {fields : Fields Json} (h : (Json.object fields).LiteralFree)
    {key : String} {value : Json} (hget : Fields.get? fields key = some value) :
    value.LiteralFree :=
  h.2.2.of_mem _ (Fields.mem_of_get? hget)

theorem LiteralFree.getD {fields : Fields Json} (h : (Json.object fields).LiteralFree)
    (key : String) : ((Fields.get? fields key).getD .null).LiteralFree := by
  cases hget : Fields.get? fields key with
  | none => trivial
  | some value => exact h.get? hget

theorem ascending_mergeFields (patch : Fields Json) {fields : Fields Json}
    (h : fields.Ascending) : Fields.Ascending (mergeFields fields patch) := by
  induction patch generalizing fields with
  | nil => rwa [mergeFields]
  | cons change rest ih =>
    obtain ⟨key, value⟩ := change
    rw [mergeFields]
    refine ih ?_
    split
    · exact List.Pairwise.sublist (List.filter_sublist.map Prod.fst) h
    · exact h.insert key _

/-! ### Merges -/

/-- A literal is replaced by what it holds, whatever it is merged into. -/
theorem merge_of_isLiteral (base : Json) {value : Json} (h : value.isLiteral = true) :
    merge base value = value.replacement := by
  cases value with
  | object patch =>
    have htag : Fields.has patch tagKey = true := by
      by_contra huntagged
      rw [isLiteral_of_untagged (by simpa using huntagged)] at h
      cases h
    cases base with
    | object fields => rw [merge, if_pos htag]
    | _ =>
      rw [merge]
      exact fun _ h => by cases h
  | _ => cases h

/-- A merge of fields is free of literals if the merge of each field of the patch is. -/
theorem literalFree_mergeFields_iff {fields patch : Fields Json}
    (ha : (Json.object fields).LiteralFree) (hasc : patch.Ascending)
    (htag : Fields.has patch tagKey = false) :
    (Json.object (mergeFields fields patch)).LiteralFree ↔
      ∀ change ∈ patch, change.2.isRemoval = false →
        (merge ((Fields.get? fields change.1).getD .null) change.2).LiteralFree := by
  have hliteral : (Json.object (mergeFields fields patch)).isLiteral = false := by
    have huntagged : Fields.get? patch tagKey = none := by simpa [Fields.has] using htag
    have hsame : Fields.get? (mergeFields fields patch) tagKey = Fields.get? fields tagKey := by
      rw [get?_mergeFields hasc, huntagged]
    have hbase := ha.1
    unfold isLiteral tag? at hbase ⊢
    rwa [field?_object, hsame]
  rw [literalFree_object_iff (ascending_mergeFields patch ha.2.1) hliteral]
  constructor
  · intro h change hchange hstay
    refine h change.1 _ ?_
    simp only [get?_mergeFields hasc, hasc.get?_of_mem hchange, hstay, Bool.false_eq_true, if_false]
  · intro h key value hget
    rw [get?_mergeFields hasc] at hget
    split at hget
    · exact ha.get? hget
    · next change hchange =>
      split at hget
      · cases hget
      · next hstay =>
        cases hget
        exact h _ (Fields.mem_of_get? hchange) (by simpa using hstay)

mutual

/-- A merge of a marked patch is free of literals exactly if it reaches all of them. -/
theorem literalFree_merge_iff : ∀ p : Json, p.Marked → ∀ a : Json, a.LiteralFree →
    ((merge a p).LiteralFree ↔ Reaches a p)
  | .object patch, hp, a, ha => by
    have hstays : replacement (.object patch) = .object patch := by
      rw [replacement, hp.1, if_neg Bool.false_ne_true]
    cases a with
    | object fields =>
      rw [merge, Reaches]
      by_cases htag : Fields.has patch tagKey = true
      · rw [if_pos htag, if_pos htag, hstays]
      · rw [if_neg htag, if_neg htag]
        have htag : Fields.has patch tagKey = false := by simpa using htag
        rw [literalFree_mergeFields_iff ha hp.2.1 htag]
        exact literalFree_mergeEach_iff patch (htag ▸ hp.2.2) fields ha
    | _ =>
      rw [merge, hstays]
      · exact Iff.rfl
      · exact fun _ h => by cases h
  | .null, _, _, _ | .bool _, _, _, _ | .number _, _, _, _ | .string _, _, _, _
  | .array _, _, _, _ => by
    rw [merge_of_not_object fun _ h => by cases h]
    exact Iff.rfl

theorem literalFree_mergeEach_iff : ∀ patch : Fields Json, MarkedFields false patch →
    ∀ fields : Fields Json, (Json.object fields).LiteralFree →
      ((∀ change ∈ patch, change.2.isRemoval = false →
        (merge ((Fields.get? fields change.1).getD .null) change.2).LiteralFree) ↔
          ReachesFields fields patch)
  | [], _, _, _ => iff_of_true nofun trivial
  | (key, value) :: rest, hp, fields, ha => by
    rw [List.forall_mem_cons, ReachesFields]
    refine and_congr ?_ (literalFree_mergeEach_iff rest hp.2 fields ha)
    rcases hp.1 with ⟨-, hliteral, hheld⟩ | hmarked
    · -- A literal goes wherever it is met, and what it holds has none.
      refine iff_of_true (fun _ => ?_) (.inl hliteral)
      rw [merge_of_isLiteral _ hliteral, replacement, if_pos hliteral]
      cases hvalue : value.field? "value" with
      | none => trivial
      | some held => exact hheld held hvalue
    · have hliteral : value.isLiteral = false := hmarked.isLiteral
      have hstay : value.isRemoval = false := by rw [isRemoval, hliteral, Bool.false_and]
      simp only [hstay, hliteral, Bool.false_eq_true, false_or, forall_const]
      exact literalFree_merge_iff value hmarked _ (ha.getD key)

end

/-- A literal below an object is left behind where the base has no object for it to be merged
into. -/
theorem merge_literal_missing :
    let literal := Json.object [(tagKey, .string "LITERAL"), ("value", .ofNat 1)]
    let p := Json.object [("x", .object [("y", literal)])]
    p.Marked ∧ (Json.object []).LiteralFree ∧ ¬ ((Json.object []).merge p).LiteralFree := by
  intro literal p
  have hmerge : (Json.object []).merge p = p := by decide +kernel
  refine ⟨?_, ⟨rfl, List.Pairwise.nil, trivial⟩, fun hfree => ?_⟩
  · simp [p, literal, Marked, MarkedFields, isLiteral, tag?, Fields.get?_cons, Fields.get?_nil,
      Fields.Ascending, tagKey, ofNat, Fields.has, string?, LiteralFree]
  · rw [hmerge] at hfree
    exact absurd hfree.2.2.1.2.2.1.1 (by decide)

end DocQuery.Json
