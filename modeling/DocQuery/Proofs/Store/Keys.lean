import DocQuery.Proofs.Value.Order
import DocQuery.Proofs.Store.Lookup
import Mathlib.Data.List.Pairwise

/-! Documents and their keys.

A write finds the document that it replaces or removes by the key, and leaves all others
where they are. The lemmas below split the documents at the one that is found. If keys are
proper, having equal keys is an equivalence, and writes keep the keys of a table pairwise
different. -/
namespace DocQuery
namespace Table
variable {table : Table}

/-! ### Finding a document -/

theorem keyOf?_congr {other : Table} (h : other.primaryKey = table.primaryKey) :
    other.keyOf? = table.keyOf? := by
  unfold keyOf?
  rw [h]

theorem keyOf_congr {other : Table} (h : other.primaryKey = table.primaryKey) :
    other.keyOf = table.keyOf := by
  unfold keyOf
  rw [keyOf?_congr h]

theorem hasKey_congr {other : Table} (h : other.primaryKey = table.primaryKey) :
    other.hasKey = table.hasKey := by
  unfold hasKey
  rw [keyOf?_congr h]

theorem keyOf_eq {document key : Json} (h : table.keyOf? document = some key) :
    table.keyOf document = key := by
  unfold keyOf
  rw [h, Option.getD_some]

theorem hasKey_eq_true {key document : Json} :
    table.hasKey key document = true ↔
      ∃ found, table.keyOf? document = some found ∧ Json.equals found key = true := by
  unfold hasKey
  cases table.keyOf? document <;> simp

theorem hasKey_self {document key : Json} (h : table.keyOf? document = some key) :
    table.hasKey key document = true :=
  hasKey_eq_true.mpr ⟨key, h, Json.equals_self key⟩

theorem hasKey_eq_false {key document : Json} :
    table.hasKey key document = false ↔
      ∀ found, table.keyOf? document = some found → Json.equals found key = false := by
  unfold hasKey
  cases table.keyOf? document <;> simp

/-- Where the first item stands that passes a test, the list is split. -/
theorem split_of_findIdx? {α : Type} {p : α → Bool} {xs : List α} {i : Nat}
    (h : xs.findIdx? p = some i) : ∃ before x after, xs = before ++ x :: after ∧
      before.length = i ∧ p x = true ∧ ∀ y ∈ before, p y = false := by
  obtain ⟨hi, hp, hbefore⟩ := List.findIdx?_eq_some_iff_getElem.mp h
  refine ⟨xs.take i, xs[i], xs.drop (i + 1), ?_, ?_, hp, fun y hy => ?_⟩
  · rw [List.getElem_cons_drop, List.take_append_drop]
  · rw [List.length_take]
    omega
  · obtain ⟨j, hj, rfl⟩ := List.mem_iff_getElem.mp hy
    rw [List.length_take] at hj
    rw [List.getElem_take]
    simpa using hbefore j (by omega)

/-- What stands beside an item stands in the whole list. -/
theorem others_subset {α : Type} (before after : List α) (x : α) :
    before ++ after ⊆ before ++ x :: after :=
  ((List.sublist_cons_self x after).append_left before).subset

theorem mem_others {α : Type} {before after : List α} {x y : α} (h : y ∈ before ++ x :: after)
    (hne : y ≠ x) : y ∈ before ++ after := by
  simpa [hne] using h

/-- The document that a key finds, between those before it, which do not have the key, and
those after it. -/
theorem split_of_position {key : Json} {i : Nat} (h : table.position key = some i) :
    ∃ before found after, table.documents = before ++ found :: after ∧ before.length = i ∧
      table.hasKey key found = true ∧ ∀ other ∈ before, table.hasKey key other = false :=
  split_of_findIdx? h

theorem position_eq_none {key : Json} :
    table.position key = none ↔ ∀ document ∈ table.documents, table.hasKey key document = false := by
  unfold position
  rw [List.findIdx?_eq_none_iff]

theorem get_eq_none {key : Json} :
    table.get key = none ↔ ∀ document ∈ table.documents, table.hasKey key document = false := by
  unfold get
  rw [List.find?_eq_none]
  simp only [Bool.not_eq_true]

theorem setAt_split {before after : List Json} {old : Json} {i : Nat}
    (h : table.documents = before ++ old :: after) (hi : before.length = i) (document : Json) :
    table.setAt i document = { table with documents := before ++ document :: after } := by
  unfold setAt
  rw [h, ← hi, List.set_append_right _ _ (Nat.le_refl _), Nat.sub_self, List.set_cons_zero]

/-! ### Writes -/

/-- A document is put in the place of the first one that has its key, or at the end. -/
theorem put_cases (table : Table) (document : Json) :
    (∃ before old after, table.documents = before ++ old :: after ∧
      table.hasKey (table.keyOf document) old = true ∧
      (∀ other ∈ before, table.hasKey (table.keyOf document) other = false) ∧
      table.put document = { table with documents := before ++ document :: after }) ∨
    ((∀ other ∈ table.documents, table.hasKey (table.keyOf document) other = false) ∧
      table.put document = { table with documents := table.documents ++ [document] }) := by
  unfold put
  split
  · next i hi =>
    obtain ⟨before, old, after, hsplit, hlen, hold, hbefore⟩ := split_of_position hi
    exact .inl ⟨before, old, after, hsplit, hold, hbefore, setAt_split hsplit hlen document⟩
  · next hnone => exact .inr ⟨position_eq_none.mp hnone, rfl⟩

/-- The first document that has the key is taken out, if there is one. -/
theorem remove_cases (table : Table) (key : Json) :
    (∃ before old after, table.documents = before ++ old :: after ∧
      table.hasKey key old = true ∧ (∀ other ∈ before, table.hasKey key other = false) ∧
      table.remove key = { table with documents := before ++ after }) ∨
    ((∀ other ∈ table.documents, table.hasKey key other = false) ∧ table.remove key = table) := by
  unfold remove
  split
  · next i hi =>
    obtain ⟨before, old, after, hsplit, hlen, hold, hbefore⟩ := split_of_position hi
    refine .inl ⟨before, old, after, hsplit, hold, hbefore, ?_⟩
    unfold eraseAt
    rw [hsplit, ← hlen, List.eraseIdx_append_of_length_le (Nat.le_refl _), Nat.sub_self,
      List.eraseIdx_cons_zero]
  · next hnone => exact .inr ⟨position_eq_none.mp hnone, rfl⟩

/-- What holds of all documents, and of those that are put, holds of all documents afterwards. -/
theorem forall_documents_apply {P : Json → Prop} {table : Table} {writes : List Write}
    (hputs : ∀ document, .put document ∈ writes → P document)
    (h : ∀ document ∈ table.documents, P document) :
    ∀ document ∈ (table.apply writes).documents, P document := by
  induction writes generalizing table with
  | nil => exact h
  | cons write rest ih =>
    refine ih (fun document hput => hputs document (List.mem_cons_of_mem _ hput)) ?_
    cases write with
    | put document =>
      have hdocument : P document := hputs document List.mem_cons_self
      show ∀ other ∈ (table.put document).documents, P other
      obtain ⟨before, old, after, hsplit, -, -, hput⟩ | ⟨-, hput⟩ := put_cases table document
      · rw [hsplit] at h
        rw [hput]
        simp only [List.forall_mem_append, List.forall_mem_cons] at h ⊢
        exact ⟨h.1, hdocument, h.2.2⟩
      · rw [hput]
        simp only [List.forall_mem_append, List.forall_mem_singleton]
        exact ⟨h, hdocument⟩
    | remove key =>
      show ∀ other ∈ (table.remove key).documents, P other
      obtain ⟨before, old, after, hsplit, -, -, hremove⟩ | ⟨-, hremove⟩ := remove_cases table key
      · rw [hsplit] at h
        rw [hremove]
        simp only [List.forall_mem_append, List.forall_mem_cons] at h ⊢
        exact ⟨h.1, h.2.2⟩
      · rw [hremove]
        exact h

@[simp] theorem put_primaryKey (table : Table) (document : Json) :
    (table.put document).primaryKey = table.primaryKey := by
  obtain ⟨before, old, after, -, -, -, h⟩ | ⟨-, h⟩ := put_cases table document <;> rw [h]

@[simp] theorem remove_primaryKey (table : Table) (key : Json) :
    (table.remove key).primaryKey = table.primaryKey := by
  obtain ⟨before, old, after, -, -, -, h⟩ | ⟨-, h⟩ := remove_cases table key <;> rw [h]

@[simp] theorem write_primaryKey (table : Table) (write : Write) :
    (table.write write).primaryKey = table.primaryKey := by
  cases write with
  | put document => exact put_primaryKey table document
  | remove key => exact remove_primaryKey table key

@[simp] theorem apply_primaryKey (table : Table) (writes : List Write) :
    (table.apply writes).primaryKey = table.primaryKey := by
  induction writes generalizing table with
  | nil => rfl
  | cons write rest ih => exact (ih (table.write write)).trans (write_primaryKey table write)

/-! ### Pairwise different keys -/

/-- Two documents do not have equal keys. A document that has no key differs from all. -/
def KeysDiffer (table : Table) (a b : Json) : Prop :=
  ∀ ka kb, table.keyOf? a = some ka → table.keyOf? b = some kb → Json.equals ka kb = false

/-- No two documents have equal keys. -/
def KeysDistinct (table : Table) : Prop := table.documents.Pairwise table.KeysDiffer

/-- The keys of all documents are proper. -/
def KeysProper (table : Table) : Prop :=
  ∀ document ∈ table.documents, ∀ key, table.keyOf? document = some key → key.Proper

/-- All documents have keys, and no two have equal ones. -/
structure Keyed (table : Table) : Prop where
  keyed : ∀ document ∈ table.documents, ∃ key, table.keyOf? document = some key
  distinct : table.KeysDistinct

/-- The documents have keys that can be written out and are pairwise different. -/
theorem Keyed.of_keys {keys : List Json}
    (hkeys : table.documents.map table.keyOf? = keys.map some)
    (hdistinct : keys.Pairwise fun a b => Json.equals a b = false) : table.Keyed where
  keyed document hdocument := by
    have hmem : table.keyOf? document ∈ keys.map some := hkeys ▸ List.mem_map_of_mem hdocument
    obtain ⟨key, -, hkey⟩ := List.mem_map.mp hmem
    exact ⟨key, hkey.symm⟩
  distinct := by
    have hsome : (keys.map some).Pairwise fun a b =>
        ∀ ka kb, a = some ka → b = some kb → Json.equals ka kb = false := by
      refine List.pairwise_map.mpr (hdistinct.imp fun {a b} h ka kb ha hb => ?_)
      cases ha
      cases hb
      exact h
    rw [← hkeys, List.pairwise_map] at hsome
    exact hsome

theorem Keyed.single {document key : Json} (hdocuments : table.documents = [document])
    (hkey : table.keyOf? document = some key) : table.Keyed := by
  have hkeys : table.documents.map table.keyOf? = [key].map some := by
    rw [hdocuments, List.map_singleton, hkey, List.map_singleton]
  exact .of_keys hkeys (List.pairwise_singleton _ _)

theorem KeysDiffer.symm {a b : Json} (h : table.KeysDiffer a b) : table.KeysDiffer b a :=
  fun kb ka hb ha => Json.equals_comm kb ka ▸ h ka kb ha hb

theorem keysDiffer_of_hasKey {document other : Json}
    (h : table.hasKey (table.keyOf document) other = false) : table.KeysDiffer other document := by
  intro ka kb ha hb
  rw [keyOf_eq hb] at h
  exact hasKey_eq_false.mp h ka ha

/-- Documents with equal keys are one document. -/
theorem KeysDistinct.eq_of_equals (h : table.KeysDistinct) {a b ka kb : Json}
    (ha : a ∈ table.documents) (hb : b ∈ table.documents) (hka : table.keyOf? a = some ka)
    (hkb : table.keyOf? b = some kb) (hequals : Json.equals ka kb = true) : a = b := by
  refine Decidable.byContradiction fun hne => ?_
  have hsymm : Std.Symm table.KeysDiffer := ⟨fun _ _ => KeysDiffer.symm⟩
  have hdiffer : table.KeysDiffer a b := List.Pairwise.forall h ha hb hne
  rw [hdiffer ka kb hka hkb] at hequals
  cases hequals

/-- The keys are pairwise different if those of one document and the others are. -/
theorem pairwise_split {before after : List Json} {document : Json} :
    (before ++ document :: after).Pairwise table.KeysDiffer ↔
      (∀ other ∈ before ++ after, table.KeysDiffer document other) ∧
        (before ++ after).Pairwise table.KeysDiffer := by
  rw [List.pairwise_middle KeysDiffer.symm, List.pairwise_cons]

/-- Both documents have keys, and these compare alike with every other key. -/
def SameKeys (table : Table) (a b : Json) : Prop :=
  ∃ ka kb, table.keyOf? a = some ka ∧ table.keyOf? b = some kb ∧
    ∀ c, Json.equals c ka = Json.equals c kb

theorem SameKeys.self {a ka : Json} (h : table.keyOf? a = some ka) : table.SameKeys a a :=
  ⟨ka, ka, h, h, fun _ => rfl⟩

theorem SameKeys.trans {a b c : Json} (h : table.SameKeys a b) (h' : table.SameKeys b c) :
    table.SameKeys a c := by
  obtain ⟨ka, kb, hka, hkb, hab⟩ := h
  obtain ⟨kb', kc, hkb', hkc, hbc⟩ := h'
  cases hkb.symm.trans hkb'
  exact ⟨ka, kc, hka, hkc, fun c => (hab c).trans (hbc c)⟩

/-- Documents whose keys compare alike have the same keys. -/
theorem SameKeys.hasKey_eq {a b : Json} (h : table.SameKeys a b) (key : Json) :
    table.hasKey key a = table.hasKey key b := by
  obtain ⟨ka, kb, hka, hkb, hab⟩ := h
  unfold hasKey
  rw [hka, hkb]
  show Json.equals ka key = Json.equals kb key
  rw [Json.equals_comm ka, Json.equals_comm kb, hab]

theorem SameKeys.keysDiffer {old new other : Json} (h : table.SameKeys old new)
    (hdiffer : table.KeysDiffer old other) : table.KeysDiffer new other := by
  obtain ⟨ko, kn, hko, hkn, hsame⟩ := h
  intro k k' hk hk'
  cases hkn.symm.trans hk
  rw [Json.equals_comm, ← hsame k', Json.equals_comm]
  exact hdiffer ko k' hko hk'

/-- A document differs from all but the one that has its key. -/
theorem keysDiffer_of_taken {old other document : Json}
    (hold : ∀ k, table.keyOf? old = some k → k.Proper)
    (hother : ∀ k, table.keyOf? other = some k → k.Proper)
    (hdocument : ∀ k, table.keyOf? document = some k → k.Proper)
    (htaken : table.hasKey (table.keyOf document) old = true)
    (hdiffer : table.KeysDiffer old other) :
    table.KeysDiffer document other := by
  intro kd ko hd ho
  obtain ⟨k, hk, hequals⟩ := hasKey_eq_true.mp htaken
  rw [keyOf_eq hd] at hequals
  refine Bool.eq_false_iff.mpr fun h => ?_
  have hne : Json.equals k ko = false := hdiffer k ko hk ho
  rw [Json.equals_trans (hold k hk) (hdocument kd hd) (hother ko ho) hequals h] at hne
  cases hne

/-! ### Keys through writes -/

namespace KeysDistinct

/-- Documents in the same order, or fewer of them. -/
theorem sublist (h : table.KeysDistinct) {documents : List Json}
    (hsub : documents.Sublist table.documents) : KeysDistinct { table with documents } :=
  List.Pairwise.sublist hsub h

variable {document : Json}

theorem append (h : table.KeysDistinct)
    (hfree : ∀ other ∈ table.documents, table.hasKey (table.keyOf document) other = false) :
    KeysDistinct { table with documents := table.documents ++ [document] } := by
  refine List.pairwise_append.mpr ⟨h, List.pairwise_singleton _ _, ?_⟩
  intro other ho last hlast
  rw [List.mem_singleton.mp hlast]
  exact keysDiffer_of_hasKey (hfree other ho)

/-- A document may be replaced by one that differs from the others as it does. -/
theorem replace (h : table.KeysDistinct) {before after : List Json} {old : Json}
    (hsplit : table.documents = before ++ old :: after)
    (hothers : ∀ other ∈ before ++ after, table.KeysDiffer old other →
      table.KeysDiffer document other) :
    KeysDistinct { table with documents := before ++ document :: after } := by
  unfold KeysDistinct at h
  rw [hsplit, pairwise_split] at h
  exact pairwise_split.mpr ⟨fun other ho => hothers other ho (h.1 other ho), h.2⟩

/-- A document may be put if, where it takes the place of another, it differs from the others
as that one does. -/
theorem put (h : table.KeysDistinct)
    (hothers : ∀ old ∈ table.documents, table.hasKey (table.keyOf document) old = true →
      ∀ other ∈ table.documents, table.KeysDiffer old other → table.KeysDiffer document other) :
    (table.put document).KeysDistinct := by
  obtain ⟨before, old, after, hsplit, hold, -, hput⟩ | ⟨hfree, hput⟩ := put_cases table document
  · have hin : old ∈ table.documents := hsplit ▸ List.mem_append_right _ List.mem_cons_self
    rw [hput]
    refine h.replace hsplit fun other ho => hothers old hin hold other ?_
    exact hsplit ▸ others_subset before after old ho
  · rw [hput]
    exact h.append hfree

/-- A document takes the place of the one whose key it has. -/
theorem put_middle (h : table.KeysDistinct) {before after : List Json}
    {row new : Json} (hdocuments : table.documents = before ++ row :: after)
    (hsame : table.SameKeys row new) :
    table.put new = { table with documents := before ++ new :: after } := by
  obtain ⟨ka, kb, hrow, hnew, hkeys⟩ := hsame
  have hfound : table.hasKey (table.keyOf new) row = true := by
    rw [keyOf_eq hnew, hasKey_eq_true]
    exact ⟨ka, hrow, by rw [Json.equals_comm, hkeys, Json.equals_self]⟩
  have hbefore : ∀ other ∈ before, table.hasKey (table.keyOf new) other = false := by
    intro other hother
    have hdiffer : table.KeysDiffer other row := by
      unfold KeysDistinct at h
      rw [hdocuments] at h
      exact (List.pairwise_append.mp h).2.2 other hother row List.mem_cons_self
    rw [keyOf_eq hnew, hasKey_eq_false]
    intro found hkey
    rw [← hkeys, hdiffer found ka hkey hrow]
  have hposition : table.position (table.keyOf new) = some before.length := by
    unfold position
    rw [hdocuments, List.findIdx?_append, List.findIdx?_eq_none_iff.mpr hbefore,
      List.findIdx?_cons, hfound]
    simp
  unfold Table.put
  rw [hposition]
  exact setAt_split hdocuments rfl new

theorem remove (h : table.KeysDistinct) (key : Json) : (table.remove key).KeysDistinct := by
  obtain ⟨before, old, after, hsplit, -, -, hremove⟩ | ⟨-, hremove⟩ := remove_cases table key
  · rw [hremove]
    exact h.sublist (hsplit ▸ (List.sublist_cons_self old after).append_left before)
  · rw [hremove]
    exact h

end KeysDistinct

/-- The keys of a table are proper and pairwise different. -/
structure WellKeyed (table : Table) : Prop where
  distinct : table.KeysDistinct
  proper : table.KeysProper

namespace WellKeyed

theorem empty (primaryKey : String) : WellKeyed { primaryKey } :=
  ⟨List.Pairwise.nil, fun _ h => by cases h⟩

/-- Documents in another order or fewer of them. -/
theorem sublist (h : table.WellKeyed) {documents : List Json}
    (hsub : documents.Sublist table.documents) : WellKeyed { table with documents } :=
  ⟨h.distinct.sublist hsub, fun document hd => h.proper document (hsub.subset hd)⟩

variable {document : Json}

theorem append (h : table.WellKeyed)
    (hdocument : ∀ key, table.keyOf? document = some key → key.Proper)
    (hfree : ∀ other ∈ table.documents, table.hasKey (table.keyOf document) other = false) :
    WellKeyed { table with documents := table.documents ++ [document] } := by
  refine ⟨h.distinct.append hfree, fun other ho => ?_⟩
  rcases List.mem_append.mp ho with ho | ho
  · exact h.proper other ho
  · rw [List.mem_singleton.mp ho]
    exact hdocument

theorem replace (h : table.WellKeyed)
    (hdocument : ∀ key, table.keyOf? document = some key → key.Proper)
    {before after : List Json} {old : Json} (hsplit : table.documents = before ++ old :: after)
    (hold : table.hasKey (table.keyOf document) old = true) :
    WellKeyed { table with documents := before ++ document :: after } := by
  have hothers : ∀ other ∈ before ++ after, other ∈ table.documents := fun other ho =>
    hsplit ▸ others_subset before after old ho
  have hin : old ∈ table.documents := hsplit ▸ List.mem_append_right _ List.mem_cons_self
  refine ⟨h.distinct.replace hsplit fun other ho hdiffer => ?_, fun other ho => ?_⟩
  · exact keysDiffer_of_taken (h.proper old hin) (h.proper other (hothers other ho)) hdocument hold
      hdiffer
  · rcases List.mem_append.mp ho with ho | ho
    · exact h.proper other (hothers other (List.mem_append_left _ ho))
    · rcases List.mem_cons.mp ho with rfl | ho
      · exact hdocument
      · exact h.proper other (hothers other (List.mem_append_right _ ho))

theorem put (h : table.WellKeyed)
    (hdocument : ∀ key, table.keyOf? document = some key → key.Proper) :
    (table.put document).WellKeyed := by
  obtain ⟨before, old, after, hsplit, hold, -, hput⟩ | ⟨hfree, hput⟩ := put_cases table document
  · rw [hput]
    exact h.replace hdocument hsplit hold
  · rw [hput]
    exact h.append hdocument hfree

theorem remove (h : table.WellKeyed) (key : Json) : (table.remove key).WellKeyed := by
  obtain ⟨before, old, after, hsplit, -, -, hremove⟩ | ⟨-, hremove⟩ := remove_cases table key
  · rw [hremove]
    exact h.sublist (hsplit ▸ (List.sublist_cons_self old after).append_left before)
  · rw [hremove]
    exact h

end WellKeyed

/-- The document that a write puts has a proper key, if it has one. -/
def PutsProper (table : Table) (write : Write) : Prop :=
  ∀ document, write = .put document → ∀ key, table.keyOf? document = some key → key.Proper

theorem WellKeyed.apply (h : table.WellKeyed) {writes : List Write}
    (hwrites : ∀ write ∈ writes, table.PutsProper write) : (table.apply writes).WellKeyed := by
  induction writes generalizing table with
  | nil => exact h
  | cons write rest ih =>
    have hnext : (table.write write).WellKeyed := by
      have hwrite := hwrites write List.mem_cons_self
      cases write with
      | put document => exact h.put (hwrite document rfl)
      | remove key => exact h.remove key
    refine ih hnext fun other ho document hput key hkey => ?_
    rw [keyOf?_congr (write_primaryKey table write)] at hkey
    exact hwrites other (List.mem_cons_of_mem _ ho) document hput key hkey

/-! ### Keys through insertions -/

theorem insertKeyed_primaryKey (conflict : Conflict) (table : Table) (document : Json) :
    (insertKeyed conflict table document).2.primaryKey = table.primaryKey := by
  unfold insertKeyed
  split
  · rfl
  · split <;> rfl

/-- Without merging, a document that replaces another is the one that was given. -/
theorem collision_replaced {conflict : Conflict} (hconflict : conflict ≠ .update)
    {old document old' new : Json}
    (h : collision conflict table old document = .replaced old' new) : new = document := by
  unfold collision at h
  cases conflict with
  | error => cases h
  | replace =>
    dsimp only at h
    split at h
    · cases h
    · exact (Effect.replaced.inj h).2.symm
  | update => exact absurd rfl hconflict

/-- An insertion that does not merge documents keeps the keys. -/
theorem WellKeyed.insertKeyed (h : table.WellKeyed) {conflict : Conflict}
    (hconflict : conflict ≠ .update) {document : Json}
    (hdocument : ∀ key, table.keyOf? document = some key → key.Proper) :
    (insertKeyed conflict table document).2.WellKeyed := by
  unfold Table.insertKeyed
  split
  · next hnone => exact h.append hdocument (position_eq_none.mp hnone)
  · next i hi =>
    split
    · next old new heffect =>
      obtain ⟨before, found, after, hsplit, hlen, hfound, -⟩ := split_of_position hi
      rw [collision_replaced hconflict heffect, setAt_split hsplit hlen]
      exact h.replace hdocument hsplit hfound
    · exact h

/-- A key that is written into a document is its key. -/
theorem keyOf?_insert (table : Table) (fields : Fields Json) (key : Json) :
    table.keyOf? (.object (Fields.insert fields table.primaryKey key)) = some key :=
  Fields.get?_insert_self fields table.primaryKey key

/-- What one document does to the table of an insertion: nothing, or it is inserted with
its key or with a fresh one. -/
theorem step_table (conflict : Conflict) (fresh : Nat → String) (i : Insertion) (document : Json) :
    (i.step conflict fresh document).table = i.table ∨
      ((∃ key, i.table.keyOf? document = some key) ∧
        (i.step conflict fresh document).table = (Table.insertKeyed conflict i.table document).2) ∨
      ∃ fields index, document = .object fields ∧
        (i.step conflict fresh document).table = (Table.insertKeyed conflict i.table
          (.object (Fields.insert fields i.table.primaryKey (.string (fresh index))))).2 := by
  unfold Insertion.step
  split
  · next fields =>
    split
    · next hhas => exact .inr (.inl ⟨Option.isSome_iff_exists.mp hhas, rfl⟩)
    · exact .inr (.inr ⟨fields, i.drawn, rfl, rfl⟩)
  · exact .inl rfl

theorem step_primaryKey (conflict : Conflict) (fresh : Nat → String) (i : Insertion)
    (document : Json) :
    (i.step conflict fresh document).table.primaryKey = i.table.primaryKey := by
  obtain h | ⟨-, h⟩ | ⟨fields, index, -, h⟩ := step_table conflict fresh i document
  · rw [h]
  · rw [h, insertKeyed_primaryKey]
  · rw [h, insertKeyed_primaryKey]

theorem WellKeyed.step {conflict : Conflict} (hconflict : conflict ≠ .update)
    (fresh : Nat → String) {i : Insertion} (h : i.table.WellKeyed) {document : Json}
    (hdocument : ∀ key, i.table.keyOf? document = some key → key.Proper) :
    (i.step conflict fresh document).table.WellKeyed := by
  obtain hstep | ⟨-, hstep⟩ | ⟨fields, index, -, hstep⟩ := step_table conflict fresh i document
  · rw [hstep]
    exact h
  · rw [hstep]
    exact h.insertKeyed hconflict hdocument
  · rw [hstep]
    refine h.insertKeyed hconflict fun other hother => ?_
    rw [keyOf?_insert] at hother
    cases hother
    trivial

theorem WellKeyed.insert (h : table.WellKeyed) {documents : List Json} {conflict : Conflict}
    (hconflict : conflict ≠ .update)
    (hdocuments : ∀ document ∈ documents, ∀ key, table.keyOf? document = some key → key.Proper)
    (logged : Bool) (fresh : Nat → String) :
    (table.insert documents conflict logged fresh).table.WellKeyed := by
  have hrun : ∀ i : Insertion, i.table.WellKeyed → i.table.primaryKey = table.primaryKey →
      (documents.foldl (Insertion.step conflict fresh) i).table.WellKeyed := by
    induction documents with
    | nil => exact fun i hi _ => hi
    | cons document rest ih =>
      intro i hi hpk
      refine ih (fun other ho => hdocuments other (List.mem_cons_of_mem _ ho)) _
        (hi.step hconflict fresh fun key hkey => ?_)
        ((step_primaryKey conflict fresh i document).trans hpk)
      rw [keyOf?_congr hpk] at hkey
      exact hdocuments document List.mem_cons_self key hkey
  exact hrun _ h rfl

end Table
end DocQuery
