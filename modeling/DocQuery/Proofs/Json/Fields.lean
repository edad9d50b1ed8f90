import DocQuery.Json.Value
import Mathlib.Data.List.Induction

/-! Reading what JSON values hold.

A field is looked up by its key. Where the fields are in no order, the first one of a key
counts. -/
namespace DocQuery

namespace Fields
variable {α β : Type}

theorem get?_nil (key : String) : get? ([] : Fields α) key = none := rfl

theorem get?_cons (name : String) (value : α) (rest : Fields α) (key : String) :
    get? ((name, value) :: rest) key = if key = name then some value else get? rest key := by
  unfold get?
  rw [List.lookup_cons]
  by_cases h : key = name
  · rw [if_pos h, beq_iff_eq.mpr h]
  · rw [if_neg h, beq_false_of_ne h]

theorem get?_insert (fields : Fields α) (key : String) (value : α) (other : String) :
    (fields.insert key value).get? other = if other = key then some value else fields.get? other := by
  induction fields with
  | nil => exact get?_cons key value [] other
  | cons field rest ih =>
    obtain ⟨name, old⟩ := field
    unfold insert
    split
    · exact get?_cons key value _ other
    · split
      · next heq =>
        subst heq
        rw [get?_cons, get?_cons]
        by_cases h : other = key
        · rw [if_pos h, if_pos h]
        · rw [if_neg h, if_neg h, if_neg h]
      · next hne =>
        rw [get?_cons, get?_cons, ih]
        by_cases h : other = name
        · rw [if_pos h, if_pos h, if_neg fun heq => hne (heq.symm.trans h)]
        · rw [if_neg h, if_neg h]

theorem get?_insert_self (fields : Fields α) (key : String) (value : α) :
    (fields.insert key value).get? key = some value := by
  rw [get?_insert, if_pos rfl]

theorem get?_insert_of_ne (fields : Fields α) {key other : String} (value : α) (h : other ≠ key) :
    (fields.insert key value).get? other = fields.get? other := by
  rw [get?_insert, if_neg h]

theorem get?_filter (fields : Fields α) (keeps : String → Bool) (key : String) :
    get? (fields.filter fun field => keeps field.1) key =
      if keeps key then get? fields key else none := by
  induction fields with
  | nil => exact (ite_self none).symm
  | cons field rest ih =>
    obtain ⟨name, value⟩ := field
    rw [List.filter_cons, get?_cons]
    by_cases heq : key = name
    · subst heq
      cases hkeeps : keeps key with
      | true => simp [get?_cons]
      | false => simpa [hkeeps] using ih
    · cases hname : keeps name with
      | true => simpa [get?_cons, heq] using ih
      | false => simpa [heq] using ih

theorem get?_remove (fields : Fields α) (key other : String) :
    (fields.remove key).get? other = if other = key then none else fields.get? other := by
  refine (get?_filter fields (· != key) other).trans ?_
  by_cases h : other = key <;> simp [h]

/-! ### Fields in order -/

/-- The keys go upward. -/
def Ascending (fields : Fields α) : Prop := (fields.map Prod.fst).Pairwise (· < ·)

theorem get?_eq_none {fields : Fields α} {key : String} (h : ∀ field ∈ fields, field.1 ≠ key) :
    fields.get? key = none := by
  induction fields with
  | nil => rfl
  | cons field rest ih =>
    obtain ⟨name, value⟩ := field
    have hname : key ≠ name := (h _ List.mem_cons_self).symm
    rw [get?_cons, if_neg hname]
    exact ih fun other ho => h other (List.mem_cons_of_mem _ ho)

theorem mem_of_get? {fields : Fields α} {key : String} {value : α}
    (h : fields.get? key = some value) : (key, value) ∈ fields := by
  induction fields with
  | nil => cases h
  | cons field rest ih =>
    obtain ⟨name, first⟩ := field
    rw [get?_cons] at h
    split at h
    · next heq =>
      cases h
      rw [heq]
      exact List.mem_cons_self
    · exact List.mem_cons_of_mem _ (ih h)

theorem has_eq (fields : Fields α) (key : String) :
    fields.has key = decide (key ∈ fields.map Prod.fst) := by
  unfold has
  induction fields with
  | nil => rfl
  | cons field rest ih =>
    obtain ⟨name, value⟩ := field
    rw [get?_cons, List.map_cons]
    by_cases h : key = name
    · simp [h]
    · rw [if_neg h, ih]
      simp [h]

theorem Ascending.get?_tail {name : String} {value : α} {rest : Fields α}
    (h : Ascending ((name, value) :: rest)) : get? rest name = none := by
  refine get?_eq_none fun field hfield heq => ?_
  have hlt : name < field.1 := (List.pairwise_cons.mp h).1 _ (List.mem_map_of_mem hfield)
  rw [heq] at hlt
  exact String.lt_irrefl name hlt

theorem Ascending.tail {field : String × α} {rest : Fields α} (h : Ascending (field :: rest)) :
    Ascending rest :=
  (List.pairwise_cons.mp h).2

theorem Ascending.get?_of_mem {fields : Fields α} (h : fields.Ascending) {field : String × α}
    (hfield : field ∈ fields) : get? fields field.1 = some field.2 := by
  induction fields with
  | nil => cases hfield
  | cons first rest ih =>
    obtain ⟨name, value⟩ := first
    rw [get?_cons]
    rcases List.mem_cons.mp hfield with rfl | hrest
    · exact if_pos rfl
    · have hlt : name < field.1 := (List.pairwise_cons.mp h).1 _ (List.mem_map_of_mem hrest)
      have hne : field.1 ≠ name := fun heq => String.lt_irrefl name (heq ▸ hlt)
      rw [if_neg hne, ih h.tail hrest]

theorem Ascending.get?_of_lt {name key : String} {value : α} {rest : Fields α}
    (h : Ascending ((name, value) :: rest)) (hlt : key < name) :
    get? ((name, value) :: rest) key = none := by
  refine get?_eq_none fun field hfield heq => ?_
  rcases List.mem_cons.mp hfield with rfl | hrest
  · exact String.lt_irrefl _ (heq ▸ hlt)
  · have hname : name < field.1 := (List.pairwise_cons.mp h).1 _ (List.mem_map_of_mem hrest)
    exact String.lt_irrefl _ (String.lt_trans (heq ▸ hlt) hname)

/-- Fields in order are known by what is found under each key. -/
theorem Ascending.ext {as bs : Fields α} (ha : as.Ascending) (hb : bs.Ascending)
    (h : ∀ key, as.get? key = bs.get? key) : as = bs := by
  induction as generalizing bs with
  | nil =>
    cases bs with
    | nil => rfl
    | cons b bs =>
      have hget := h b.1
      rw [get?_nil, get?_cons, if_pos rfl] at hget
      cases hget
  | cons a as ih =>
    obtain ⟨j, x⟩ := a
    cases bs with
    | nil =>
      have hget := h j
      rw [get?_nil, get?_cons, if_pos rfl] at hget
      cases hget
    | cons b bs =>
      obtain ⟨k, y⟩ := b
      have hj := h j
      have hk := (h k).symm
      rw [get?_cons, if_pos rfl] at hj hk
      rcases Std.lt_trichotomy j k with hlt | rfl | hgt
      · rw [hb.get?_of_lt hlt] at hj
        cases hj
      · rw [get?_cons, if_pos rfl] at hj
        cases hj
        refine congrArg _ (ih ha.tail hb.tail fun key => ?_)
        by_cases heq : key = j
        · rw [heq, ha.get?_tail, hb.get?_tail]
        · have hkey := h key
          rwa [get?_cons, get?_cons, if_neg heq, if_neg heq] at hkey
      · rw [ha.get?_of_lt hgt] at hk
        cases hk

theorem mem_keys_insert {fields : Fields α} {key name : String} {value : α}
    (h : name ∈ (fields.insert key value).map Prod.fst) :
    name = key ∨ name ∈ fields.map Prod.fst := by
  induction fields with
  | nil => exact .inl (List.mem_singleton.mp h)
  | cons field rest ih =>
    obtain ⟨first, old⟩ := field
    unfold insert at h
    split at h
    · exact List.mem_cons.mp h
    · split at h
      · next heq =>
        rcases List.mem_cons.mp h with h | h
        · exact .inl h
        · exact .inr (List.mem_cons_of_mem _ h)
      · rcases List.mem_cons.mp h with h | h
        · exact .inr (h ▸ List.mem_cons_self)
        · exact (ih h).imp_right (List.mem_cons_of_mem _)

theorem Ascending.insert {fields : Fields α} (h : fields.Ascending) (key : String) (value : α) :
    Ascending (fields.insert key value) := by
  induction fields with
  | nil => exact List.pairwise_singleton _ _
  | cons field rest ih =>
    obtain ⟨first, old⟩ := field
    have hfirst : ∀ name ∈ rest.map Prod.fst, first < name := (List.pairwise_cons.mp h).1
    unfold Fields.insert
    split
    · next hlt =>
      refine List.pairwise_cons.mpr ⟨fun name hname => ?_, h⟩
      rcases List.mem_cons.mp hname with rfl | hname
      · exact hlt
      · exact String.lt_trans hlt (hfirst name hname)
    · next hnlt =>
      split
      · next heq => exact List.pairwise_cons.mpr ⟨fun name hname => heq ▸ hfirst name hname, h.tail⟩
      · next hne =>
        refine List.pairwise_cons.mpr ⟨fun name hname => ?_, ih h.tail⟩
        rcases mem_keys_insert hname with rfl | hname
        · rcases Std.lt_trichotomy first name with hlt | heq | hgt
          · exact hlt
          · exact absurd heq.symm hne
          · exact absurd hgt hnlt
        · exact hfirst name hname

section Middle
variable {before after : Fields α} {key : String}

/-- A field whose key is there is replaced where it stands. -/
theorem insert_middle (h : ∀ field ∈ before, field.1 < key) (old new : α) :
    insert (before ++ (key, old) :: after) key new = before ++ (key, new) :: after := by
  induction before with
  | nil => rw [List.nil_append, List.nil_append, insert, if_neg (String.lt_irrefl key), if_pos rfl]
  | cons field rest ih =>
    obtain ⟨name, value⟩ := field
    have hlt : name < key := h _ List.mem_cons_self
    have hne : key ≠ name := fun heq => String.lt_irrefl name (heq ▸ hlt)
    have hnot : ¬ key < name := fun hgt => String.lt_irrefl key (String.lt_trans hgt hlt)
    rw [List.cons_append, insert, if_neg hnot, if_neg hne,
      ih fun other ho => h other (List.mem_cons_of_mem _ ho), List.cons_append]

theorem get?_middle (h : ∀ field ∈ before, field.1 < key) (value : α) :
    get? (before ++ (key, value) :: after) key = some value := by
  induction before with
  | nil => rw [List.nil_append, get?_cons, if_pos rfl]
  | cons field rest ih =>
    obtain ⟨name, other⟩ := field
    have hlt : name < key := h _ List.mem_cons_self
    have hne : key ≠ name := fun heq => String.lt_irrefl name (heq ▸ hlt)
    rw [List.cons_append, get?_cons, if_neg hne]
    exact ih fun other ho => h other (List.mem_cons_of_mem _ ho)

end Middle

/-! ### Fields in any order -/

/-- Of several fields of one key, the last one stays. -/
theorem get?_ofList (entries : List (String × α)) (key : String) :
    get? (ofList entries) key = get? entries.reverse key := by
  induction entries using List.reverseRecOn with
  | nil => rfl
  | append_singleton entries last ih =>
    have hlast : ofList (entries ++ [last]) = (ofList entries).insert last.1 last.2 := by
      unfold ofList
      rw [List.foldl_append, List.foldl_cons, List.foldl_nil]
    rw [hlast, get?_insert, ih, List.reverse_append, List.reverse_singleton, List.singleton_append,
      get?_cons]

theorem ascending_ofList (entries : List (String × α)) : Ascending (ofList entries) := by
  induction entries using List.reverseRecOn with
  | nil => exact List.Pairwise.nil
  | append_singleton entries last ih =>
    unfold ofList at ih ⊢
    rw [List.foldl_append]
    exact ih.insert last.1 last.2

/-! ### Lists that are joined -/

theorem get?_append (fields more : Fields α) (key : String) :
    get? (fields ++ more) key = (get? fields key).or (get? more key) := by
  induction fields with
  | nil => rfl
  | cons field rest ih =>
    obtain ⟨name, value⟩ := field
    rw [List.cons_append, get?_cons, get?_cons, ih]
    split <;> rfl

/-- A field that may be left out. -/
theorem get?_toList (name : String) (value : β → α) (part : Option β) (key : String) :
    get? (part.map fun b => (name, value b)).toList key =
      if key = name then part.map value else none := by
  cases part with
  | none => exact (ite_self none).symm
  | some b => exact get?_cons name (value b) [] key

end Fields

@[simp] theorem Json.field?_object (fields : Fields Json) (key : String) :
    (Json.object fields).field? key = Fields.get? fields key := rfl

theorem Json.ofNat_inj {m n : Nat} : Json.ofNat m = .ofNat n ↔ m = n := by
  simp only [Json.ofNat, Json.number.injEq, Number.integer.injEq, Int.natCast_inj]

theorem Json.natural?_ofNat {n : Nat} (h : n < 2 ^ 64) : (Json.ofNat n).natural? = some n := by
  unfold Json.ofNat Json.natural? Number.natural?
  dsimp only
  rw [if_pos (by omega), Int.toNat_natCast]

end DocQuery
