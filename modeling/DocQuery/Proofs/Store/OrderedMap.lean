import DocQuery.Proofs.Store.Keys
import DocQuery.Proofs.Value.Untagged

/-! Tables as ordered maps.

A table whose documents have keys of their own is a map from keys to documents that keeps
its documents in order. One write changes the document of one key: in its place if there is
one, else at the end. Over a list of writes the last one that names a key decides what is
found there, and a document whose key is never removed keeps its place among those.

Keys may be equal and not the same, as an integer and a real of one value are. That a key
finds what an equal key finds rests on the keys of the writes having no tags; the key that
is looked up may be anything. -/
namespace DocQuery

/-! ### Writes and keys -/

namespace Write

/-- The key that a write is about: that of the document to put, or the one to remove. -/
def key (table : Table) : Write → Json
  | .put document => table.keyOf document
  | .remove key => key

/-- What is found under the key after the write. -/
def document? : Write → Option Json
  | .put document => some document
  | .remove _ => none

/-- The key of the write has no tags, and a document to put has one. -/
def Fits (table : Table) : Write → Prop
  | .put document => ∃ key, table.keyOf? document = some key ∧ key.Untagged
  | .remove key => key.Untagged

/-- The key of the write equals another key. -/
def names (table : Table) (key : Json) (write : Write) : Bool :=
  Json.equals (write.key table) key

/-- The last write of a list that names a key. -/
def last? (table : Table) (key : Json) (writes : List Write) : Option Write :=
  writes.reverse.find? (names table key)

/-- A document with this key is taken out by the write. -/
def removes (table : Table) (document : Json) : Write → Bool
  | .put _ => false
  | .remove key => table.hasKey key document

variable {table other : Table} {w : Write}

theorem Fits.key_untagged (h : w.Fits table) : (w.key table).Untagged := by
  cases w with
  | put document =>
    obtain ⟨key, hkey, huntagged⟩ := h
    show (table.keyOf document).Untagged
    rw [Table.keyOf_eq hkey]
    exact huntagged
  | remove key => exact h

/-- A document that is put has the key of its write. -/
theorem Fits.hasKey_put {document : Json} (h : (Write.put document).Fits table) :
    table.hasKey (table.keyOf document) document = true := by
  obtain ⟨key, hkey, -⟩ := h
  rw [Table.keyOf_eq hkey]
  exact Table.hasKey_self hkey

theorem last?_cons (key : Json) (rest : List Write) :
    last? table key (w :: rest) =
      (last? table key rest).or (if w.names table key then some w else none) := by
  unfold last?
  rw [List.reverse_cons, List.find?_append, List.find?_singleton]

/-! Of a table they read the name of its primary key alone. -/

theorem key_congr (h : other.primaryKey = table.primaryKey) : w.key other = w.key table := by
  cases w with
  | put document => exact congrFun (Table.keyOf_congr h) document
  | remove key => rfl

theorem Fits.congr (hfits : w.Fits table) (h : other.primaryKey = table.primaryKey) :
    w.Fits other := by
  cases w with
  | put document =>
    obtain ⟨key, hkey, huntagged⟩ := hfits
    exact ⟨key, by rw [Table.keyOf?_congr h, hkey], huntagged⟩
  | remove key => exact hfits

theorem last?_congr (h : other.primaryKey = table.primaryKey) (key : Json)
    (writes : List Write) : last? other key writes = last? table key writes := by
  have hnames : names other key = names table key := by
    funext w
    unfold names
    rw [key_congr h]
  unfold last?
  rw [hnames]

end Write

namespace Table
variable {table : Table}

/-! ### Equal keys -/

section Keys
variable {key k document : Json}

/-- A key is had by the same documents as a key that equals it. -/
theorem hasKey_of_equals (hkey : key.Untagged) (h : Json.equals key k = true) (document : Json) :
    table.hasKey k document = table.hasKey key document := by
  unfold hasKey
  cases table.keyOf? document with
  | none => rfl
  | some found => exact hkey.equals_congr h found

/-- A document that has one key has no other. -/
theorem hasKey_eq_false_of_ne (hkey : key.Untagged) (hhas : table.hasKey key document = true)
    (hne : Json.equals key k = false) : table.hasKey k document = false := by
  obtain ⟨found, hfound, hequals⟩ := hasKey_eq_true.mp hhas
  refine hasKey_eq_false.mpr fun again hagain => ?_
  cases hfound.symm.trans hagain
  rw [Json.equals_comm, hkey.equals_congr (Json.equals_comm found key ▸ hequals), Json.equals_comm]
  exact hne

/-- Beside the document that has a key, none has it. -/
theorem hasKey_others (hkeyed : table.Keyed) {before after : List Json} {old : Json}
    (hsplit : table.documents = before ++ old :: after) (hkey : key.Untagged)
    (hold : table.hasKey key old = true) :
    ∀ other ∈ before ++ after, table.hasKey key other = false := by
  intro other hother
  have hdistinct := hkeyed.distinct
  unfold KeysDistinct at hdistinct
  rw [hsplit, pairwise_split] at hdistinct
  obtain ⟨ko, hko, hequals⟩ := hasKey_eq_true.mp hold
  refine hasKey_eq_false.mpr fun k hk => ?_
  rw [← hkey.equals_congr (Json.equals_comm ko key ▸ hequals) k, Json.equals_comm]
  exact hdistinct.1 other hother ko k hko hk

end Keys

/-! ### One write -/

/-- How a write changes the documents of a table: a document is put in the place of the one
that has its key, or at the end if its key is free; a key is taken out with its document,
or nothing happens if it is free. -/
inductive Rewrites (table : Table) : Write → List Json → Prop
  | replaced {before after : List Json} {old document : Json}
    (split : table.documents = before ++ old :: after)
    (taken : table.hasKey (table.keyOf document) old = true) :
    Rewrites table (.put document) (before ++ document :: after)
  | appended {document : Json}
    (free : ∀ other ∈ table.documents, table.hasKey (table.keyOf document) other = false) :
    Rewrites table (.put document) (table.documents ++ [document])
  | removed {before after : List Json} {old key : Json}
    (split : table.documents = before ++ old :: after) (taken : table.hasKey key old = true) :
    Rewrites table (.remove key) (before ++ after)
  | missed {key : Json} (free : ∀ other ∈ table.documents, table.hasKey key other = false) :
    Rewrites table (.remove key) table.documents

theorem rewrites (table : Table) (write : Write) :
    table.Rewrites write (table.write write).documents := by
  cases write with
  | put document =>
    obtain ⟨before, old, after, hsplit, hold, -, hput⟩ | ⟨hfree, hput⟩ := put_cases table document
    · rw [Table.write, hput]
      exact .replaced hsplit hold
    · rw [Table.write, hput]
      exact .appended hfree
  | remove key =>
    obtain ⟨before, old, after, hsplit, hold, -, hremove⟩ | ⟨hfree, hremove⟩ :=
      remove_cases table key
    · rw [Table.write, hremove]
      exact .removed hsplit hold
    · rw [Table.write, hremove]
      exact .missed hfree

/-- The documents of a class stand in the same order, and those that are new to the class
after them. One that is replaced stands where the one with its key stood. -/
def KeepsPlaces (table : Table) (p : Json → Bool) (documents later : List Json) : Prop :=
  ∀ (i : Nat) (document : Json), (documents.filter p)[i]? = some document →
    ∃ standing, (later.filter p)[i]? = some standing ∧ table.SameKeys document standing

theorem KeepsPlaces.trans {p : Json → Bool} {documents later last : List Json}
    (h : table.KeepsPlaces p documents later) (h' : table.KeepsPlaces p later last) :
    table.KeepsPlaces p documents last := by
  intro i document hdocument
  obtain ⟨standing, hstanding, hsame⟩ := h i document hdocument
  obtain ⟨found, hfound, hsame'⟩ := h' i standing hstanding
  exact ⟨found, hfound, hsame.trans hsame'⟩

namespace Rewrites
variable {w : Write} {documents : List Json}

/-- Only what is put is new. -/
theorem mem (h : table.Rewrites w documents) :
    ∀ document ∈ documents, document ∈ table.documents ∨ w = .put document := by
  intro document hdocument
  cases h with
  | @replaced before after old new hsplit _ =>
    by_cases hnew : document = new
    · exact .inr (hnew ▸ rfl)
    · exact .inl (hsplit ▸ others_subset before after old (mem_others hdocument hnew))
  | appended _ =>
    rcases List.mem_append.mp hdocument with h | h
    · exact .inl h
    · exact .inr (List.mem_singleton.mp h ▸ rfl)
  | @removed before after old key hsplit _ =>
    exact .inl (hsplit ▸ others_subset before after old hdocument)
  | missed _ => exact .inl hdocument

/-- Documents that do not have the key of the write stay in their order. -/
theorem filter_eq (h : table.Rewrites w documents) (hfits : w.Fits table) {p : Json → Bool}
    (hp : ∀ document, table.hasKey (w.key table) document = true → p document = false) :
    documents.filter p = table.documents.filter p := by
  cases h with
  | @replaced before after old document hsplit htaken =>
    have hput : p document = false := hp document hfits.hasKey_put
    rw [hsplit]
    simp [hput, hp _ htaken]
  | @appended document _ =>
    have hput : p document = false := hp document hfits.hasKey_put
    simp [hput]
  | removed hsplit htaken =>
    rw [hsplit]
    simp [hp _ htaken]
  | missed _ => rfl

end Rewrites

theorem getElem?_replaced {α : Type} {before after : List α} {old new x : α} {i : Nat}
    (h : (before ++ old :: after)[i]? = some x) :
    (before ++ new :: after)[i]? = some x ∨ x = old ∧ (before ++ new :: after)[i]? = some new := by
  by_cases hi : i < before.length
  · rw [List.getElem?_append_left hi] at h ⊢
    exact .inl h
  · rw [List.getElem?_append_right (Nat.le_of_not_lt hi)] at h ⊢
    cases hj : i - before.length with
    | zero =>
      rw [hj] at h
      exact .inr ⟨(Option.some.inj h).symm, rfl⟩
    | succ j =>
      rw [hj] at h
      exact .inl h

/-- A document that gives way to another has the same key. -/
theorem sameKeys_of_taken {document old : Json} (hfits : (Write.put document).Fits table)
    (htaken : table.hasKey (table.keyOf document) old = true) : table.SameKeys old document := by
  obtain ⟨key, hkey, huntagged⟩ := hfits
  obtain ⟨ko, hko, hequals⟩ := hasKey_eq_true.mp htaken
  rw [keyOf_eq hkey, Json.equals_comm] at hequals
  exact ⟨ko, key, hko, hkey, huntagged.equals_congr hequals⟩

namespace Keyed
variable {w : Write}

theorem write (h : table.Keyed) (hfits : w.Fits table) : (table.write w).Keyed := by
  refine ⟨fun document hdocument => ?_, ?_⟩
  · rw [keyOf?_congr (write_primaryKey table w)]
    rcases (table.rewrites w).mem document hdocument with hold | rfl
    · exact h.keyed document hold
    · obtain ⟨key, hkey, -⟩ := hfits
      exact ⟨key, hkey⟩
  · cases w with
    | put document =>
      exact h.distinct.put fun old _ htaken other _ hdiffer =>
        (sameKeys_of_taken hfits htaken).keysDiffer hdiffer
    | remove key => exact h.distinct.remove key

/-- A write decides what is found under the keys that it names, and no other key finds
anything else than before. -/
theorem get_write (h : table.Keyed) (hfits : w.Fits table) (k : Json) :
    (table.write w).get k = if w.names table k then w.document? else table.get k := by
  have hkey := hfits.key_untagged
  have hrewrites := table.rewrites w
  unfold get
  rw [hasKey_congr (write_primaryKey table w)]
  generalize (table.write w).documents = documents at hrewrites
  by_cases hnames : w.names table k
  · -- The key that is looked up finds what the key of the write does.
    have hmissed : ∀ others : List Json,
        (∀ other ∈ others, table.hasKey (w.key table) other = false) →
          others.find? (table.hasKey k) = none := by
      intro others hfree
      refine List.find?_eq_none.mpr fun other hother => ?_
      rw [hasKey_of_equals hkey hnames, hfree other hother]
      exact Bool.false_ne_true
    rw [if_pos hnames]
    cases hrewrites with
    | @replaced before after old document hsplit htaken =>
      have hothers := hasKey_others h hsplit hkey htaken
      have hput : table.hasKey k document = true :=
        (hasKey_of_equals hkey hnames document).trans hfits.hasKey_put
      rw [List.find?_append, List.find?_cons_of_pos hput, hmissed before fun other hother =>
        hothers other (List.mem_append_left _ hother)]
      rfl
    | @appended document hfree =>
      have hput : table.hasKey k document = true :=
        (hasKey_of_equals hkey hnames document).trans hfits.hasKey_put
      rw [List.find?_append, List.find?_cons_of_pos hput, hmissed _ hfree]
      rfl
    | removed hsplit htaken => exact hmissed _ (hasKey_others h hsplit hkey htaken)
    | missed hfree => exact hmissed _ hfree
  · -- Neither the document that is put nor the one that gives way has the key.
    have hother : ∀ document, table.hasKey (w.key table) document = true →
        ¬ table.hasKey k document = true := fun document hhas =>
      Bool.eq_false_iff.mp (hasKey_eq_false_of_ne hkey hhas (Bool.eq_false_iff.mpr hnames))
    rw [if_neg hnames]
    cases hrewrites with
    | replaced hsplit htaken =>
      rw [hsplit, List.find?_append, List.find?_append,
        List.find?_cons_of_neg (hother _ hfits.hasKey_put),
        List.find?_cons_of_neg (hother _ htaken)]
    | appended hfree =>
      rw [List.find?_append, List.find?_cons_of_neg (hother _ hfits.hasKey_put), List.find?_nil,
        Option.or_none]
    | removed hsplit htaken =>
      rw [hsplit, List.find?_append, List.find?_append, List.find?_cons_of_neg (hother _ htaken)]
    | missed hfree => rfl

/-- Among documents that the write does not remove, all keep their places. -/
theorem keepsPlaces_write (h : table.Keyed) (hfits : w.Fits table) {p : Json → Bool}
    (hsame : ∀ a b, table.SameKeys a b → p a = p b)
    (hp : ∀ document, w.removes table document = true → p document = false) :
    table.KeepsPlaces p table.documents (table.write w).documents := by
  have hself : ∀ document ∈ table.documents, table.SameKeys document document :=
    fun document hdocument => (h.keyed document hdocument).elim fun _ => SameKeys.self
  have hrewrites := table.rewrites w
  generalize (table.write w).documents = documents at hrewrites
  intro i document hdocument
  have hin : document ∈ table.documents := (List.mem_filter.mp (List.mem_of_getElem? hdocument)).1
  cases hrewrites with
  | @replaced before after old new hsplit htaken =>
    have hkeys := sameKeys_of_taken hfits htaken
    rw [hsplit, List.filter_append, List.filter_cons] at hdocument
    rw [List.filter_append, List.filter_cons, ← hsame old new hkeys]
    split at hdocument
    · next hold =>
      rw [if_pos hold]
      obtain hstays | ⟨rfl, hnew⟩ := getElem?_replaced hdocument
      · exact ⟨document, hstays, hself document hin⟩
      · exact ⟨new, hnew, hkeys⟩
    · next hold =>
      rw [if_neg hold]
      exact ⟨document, hdocument, hself document hin⟩
  | appended _ =>
    have hlt : i < (table.documents.filter p).length := (List.getElem?_eq_some_iff.mp hdocument).1
    rw [List.filter_append, List.getElem?_append_left hlt]
    exact ⟨document, hdocument, hself document hin⟩
  | @removed before after old key hsplit htaken =>
    rw [hsplit, List.filter_append, List.filter_cons_of_neg (by rw [hp old htaken]; decide),
      ← List.filter_append] at hdocument
    exact ⟨document, hdocument, hself document hin⟩
  | missed _ => exact ⟨document, hdocument, hself document hin⟩

end Keyed

/-! ### Lists of writes -/

/-- No write of the list names the key of the document. -/
def untouched (table : Table) (writes : List Write) (document : Json) : Bool :=
  writes.all fun w => !table.hasKey (w.key table) document

/-- No write of the list takes out a document with the key of this one. -/
def stays (table : Table) (writes : List Write) (document : Json) : Bool :=
  writes.all fun w => !w.removes table document

variable {writes : List Write}

theorem stays_congr {a b : Json} (h : table.SameKeys a b) :
    table.stays writes a = table.stays writes b := by
  have hremoves : ∀ w : Write, w.removes table a = w.removes table b := by
    intro w
    cases w with
    | put document => rfl
    | remove key => exact h.hasKey_eq key
  unfold stays
  simp only [hremoves]

theorem removes_congr {other : Table} (h : other.primaryKey = table.primaryKey) (document : Json)
    (w : Write) : w.removes other document = w.removes table document := by
  unfold Write.removes
  rw [hasKey_congr h]

namespace Keyed

theorem apply (h : table.Keyed) (hfits : ∀ w ∈ writes, w.Fits table) :
    (table.apply writes).Keyed := by
  induction writes generalizing table with
  | nil => exact h
  | cons w rest ih =>
    refine ih (h.write (hfits w List.mem_cons_self)) fun later hlater => ?_
    exact (hfits later (List.mem_cons_of_mem w hlater)).congr (write_primaryKey table w)

/-- The last write that names a key decides what is found there. -/
theorem get_apply (h : table.Keyed) (hfits : ∀ w ∈ writes, w.Fits table) (k : Json) :
    (table.apply writes).get k =
      match Write.last? table k writes with
      | some w => w.document?
      | none => table.get k := by
  induction writes generalizing table with
  | nil => rfl
  | cons w rest ih =>
    have hw : w.Fits table := hfits w List.mem_cons_self
    have hpk : (table.write w).primaryKey = table.primaryKey := write_primaryKey table w
    have hrest := ih (h.write hw) fun later hlater =>
      (hfits later (List.mem_cons_of_mem w hlater)).congr hpk
    rw [Write.last?_congr hpk, h.get_write hw] at hrest
    rw [Write.last?_cons]
    refine hrest.trans ?_
    cases Write.last? table k rest with
    | some later => rfl
    | none => by_cases hnames : w.names table k <;> simp [hnames]

/-- Documents whose keys no write names stay in their order. -/
theorem filter_apply (hfits : ∀ w ∈ writes, w.Fits table) {p : Json → Bool}
    (hp : ∀ w ∈ writes, ∀ document, table.hasKey (w.key table) document = true →
      p document = false) :
    (table.apply writes).documents.filter p = table.documents.filter p := by
  induction writes generalizing table with
  | nil => rfl
  | cons w rest ih =>
    have hpk : (table.write w).primaryKey = table.primaryKey := write_primaryKey table w
    have hstep : (table.write w).documents.filter p = table.documents.filter p :=
      (table.rewrites w).filter_eq (hfits w List.mem_cons_self) (hp w List.mem_cons_self)
    refine (ih (fun later hlater => ?_) fun later hlater document => ?_).trans hstep
    · exact (hfits later (List.mem_cons_of_mem w hlater)).congr hpk
    · rw [hasKey_congr hpk, Write.key_congr hpk]
      exact hp later (List.mem_cons_of_mem w hlater) document

/-- Documents whose keys are never removed keep their places among those. -/
theorem keepsPlaces_apply (h : table.Keyed) (hfits : ∀ w ∈ writes, w.Fits table)
    {p : Json → Bool} (hsame : ∀ a b, table.SameKeys a b → p a = p b)
    (hp : ∀ w ∈ writes, ∀ document, w.removes table document = true → p document = false) :
    table.KeepsPlaces p table.documents (table.apply writes).documents := by
  induction writes generalizing table with
  | nil =>
    intro i document hdocument
    have hin := (List.mem_filter.mp (List.mem_of_getElem? hdocument)).1
    exact ⟨document, hdocument, (h.keyed document hin).elim fun _ => SameKeys.self⟩
  | cons w rest ih =>
    have hw : w.Fits table := hfits w List.mem_cons_self
    have hpk : (table.write w).primaryKey = table.primaryKey := write_primaryKey table w
    have hkeys : (table.write w).SameKeys = table.SameKeys := by
      unfold SameKeys
      rw [keyOf?_congr hpk]
    have hrest := ih (h.write hw) (fun later hlater => ?_) (by rwa [hkeys]) fun later hlater d => ?_
    · unfold KeepsPlaces at hrest
      rw [hkeys] at hrest
      exact (h.keepsPlaces_write hw hsame (hp w List.mem_cons_self)).trans hrest
    · exact (hfits later (List.mem_cons_of_mem w hlater)).congr hpk
    · rw [removes_congr hpk]
      exact hp later (List.mem_cons_of_mem w hlater) d

end Keyed

/-- What becomes of a table of keyed documents when writes are made to it in order. -/
structure Maps (table : Table) (writes : List Write) (after : Table) : Prop where
  primaryKey : after.primaryKey = table.primaryKey
  keyed : after.Keyed
  /-- The last write that names a key decides what is found there. -/
  get : ∀ k, after.get k =
    match Write.last? table k writes with
    | some w => w.document?
    | none => table.get k
  /-- Every write puts a document in the place of the one with its key, or at the end, or
  takes one out, of what the writes before it have made of the table. -/
  step : ∀ earlier w later, writes = earlier ++ w :: later →
    (table.apply earlier).Rewrites w (table.apply (earlier ++ [w])).documents
  whole : after = table.apply writes
  /-- A document whose key is never removed keeps its place among those. -/
  places : table.KeepsPlaces (table.stays writes) table.documents after.documents
  /-- Documents whose keys no write names are the same, in the same order. -/
  others : after.documents.filter (table.untouched writes) =
    table.documents.filter (table.untouched writes)

theorem Keyed.maps (h : table.Keyed) (hfits : ∀ w ∈ writes, w.Fits table) :
    table.Maps writes (table.apply writes) where
  primaryKey := apply_primaryKey table writes
  keyed := h.apply hfits
  get := h.get_apply hfits
  step earlier w later _ := by
    have hstep : table.apply (earlier ++ [w]) = (table.apply earlier).write w := by
      unfold Table.apply
      rw [List.foldl_append, List.foldl_cons, List.foldl_nil]
    rw [hstep]
    exact rewrites _ w
  whole := rfl
  places := h.keepsPlaces_apply hfits (fun _ _ => stays_congr) fun w hw document hremoves =>
    List.all_eq_false.mpr ⟨w, hw, by rw [hremoves]; decide⟩
  others := Keyed.filter_apply hfits fun w hw document hhas =>
    List.all_eq_false.mpr ⟨w, hw, by rw [hhas]; decide⟩

end Table

/-! ### Stores -/

namespace Store

/-- Writes to a table of keyed documents make of it what they make of a map from keys to
documents in order, and leave all other tables as they are. -/
theorem apply_maps {store : Store} {name : TableName} {table : Table} {writes : List Write}
    (htable : store.table? name = some table) (hkeyed : table.Keyed)
    (hfits : ∀ w ∈ writes, w.Fits table) :
    ∃ after written, store.apply name writes = .ok after ∧ after.table? name = some written ∧
      table.Maps writes written ∧
      ∀ other, other ≠ name → after.table? other = store.table? other := by
  refine ⟨store.setTable name (table.apply writes), table.apply writes, ?_, ?_,
    hkeyed.maps hfits, fun other hother => ?_⟩
  · unfold Store.apply
    rw [target_eq_ok.mpr htable]
    rfl
  · rw [table?_setTable, if_pos rfl]
  · rw [table?_setTable, if_neg hother]

/-- A real key takes the place of the integer of its value, and is found by it. -/
theorem apply_maps_across_numbers :
    let name : TableName := ⟨"test", "t"⟩
    let one := Json.object [("id", .ofNat 1)]
    let two := Json.object [("id", .ofNat 2)]
    let real := Json.object [("id", .number (.real (.ofInt 1)))]
    let three := Json.object [("id", .ofNat 3)]
    let table : Table := ⟨"id", [one, two]⟩
    let store := Store.empty.setTable name table
    let writes := [Write.put real, .remove (.ofNat 2), .put three]
    ∃ after written, store.apply name writes = .ok after ∧ after.table? name = some written ∧
      written.documents = [real, three] ∧ written.get (.ofNat 1) = some real ∧
      written.get (.ofNat 2) = none := by
  intro name one two real three table store writes
  have htable : store.table? name = some table := by
    rw [table?_setTable, if_pos rfl]
  have hkeyed : table.Keyed := by
    refine ⟨fun document hdocument => ?_, ?_⟩
    · simp only [table, List.mem_cons, List.not_mem_nil, or_false] at hdocument
      rcases hdocument with rfl | rfl
      · exact ⟨.ofNat 1, rfl⟩
      · exact ⟨.ofNat 2, rfl⟩
    · refine List.pairwise_pair.mpr fun ka kb ha hb => ?_
      cases ha
      cases hb
      decide +kernel
  have hfits : ∀ w ∈ writes, w.Fits table := by
    intro w hw
    simp only [writes, List.mem_cons, List.not_mem_nil, or_false] at hw
    rcases hw with rfl | rfl | rfl
    · exact ⟨_, rfl, trivial⟩
    · trivial
    · exact ⟨_, rfl, trivial⟩
  obtain ⟨after, written, happly, hwritten, hmaps, -⟩ := apply_maps htable hkeyed hfits
  refine ⟨after, written, happly, hwritten, ?_, ?_, ?_⟩
  · rw [hmaps.whole]
    decide +kernel
  · rw [hmaps.get]
    decide +kernel
  · rw [hmaps.get]
    decide +kernel

end Store

end DocQuery
