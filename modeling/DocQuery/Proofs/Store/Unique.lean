import DocQuery.Proofs.Fault
import DocQuery.Proofs.Store.Keys

/-! Primary keys stay unique.

A store is reached from the empty one by making tables, writing to them and inserting into
them. As long as the keys of the documents that are written have no tags, in every table
of a store that is reached the keys are pairwise different. -/
namespace DocQuery
namespace Store

/-- The document has no key in the table, or one without tags. -/
def KeyUntagged (table : Table) (document : Json) : Prop :=
  ∀ key, table.keyOf? document = some key → key.Untagged

/-- The stores that writes lead to. A table that is made anew is empty, and a write that
fails leads nowhere. -/
inductive Reached : Store → Prop
  | empty : Reached Store.empty
  | createTable {store : Store} (h : Reached store) (name : TableName) (primaryKey : String) :
    Reached (store.createTable name primaryKey)
  | apply {store after : Store} {name : TableName} {writes : List Write} (h : Reached store)
    (hkeys : ∀ table, store.target name = .ok table → ∀ document, .put document ∈ writes →
      KeyUntagged table document)
    (happly : store.apply name writes = .ok after) : Reached after
  | insert {store after : Store} {name : TableName} {documents : List Json} {conflict : Conflict}
    {logged : Bool} {fresh : Nat → String} {done : Table.Insertion} (h : Reached store)
    (hconflict : conflict ≠ .update)
    (hkeys : ∀ table, store.target name = .ok table → ∀ document ∈ documents,
      KeyUntagged table document)
    (hinsert : store.insert name documents conflict logged fresh = .ok (done, after)) :
    Reached after

/-- All tables of the store have proper and pairwise different keys. -/
def WellKeyed (store : Store) : Prop :=
  ∀ name table, store.table? name = some table → table.WellKeyed

theorem WellKeyed.setTable {store : Store} (h : store.WellKeyed) (name : TableName)
    {table : Table} (htable : table.WellKeyed) : (store.setTable name table).WellKeyed := by
  intro other found hfound
  rw [table?_setTable] at hfound
  split at hfound
  · cases hfound
    exact htable
  · exact h other found hfound

theorem Reached.wellKeyed {store : Store} (h : Reached store) : store.WellKeyed := by
  induction h with
  | empty => exact fun name table htable => by cases htable
  | createTable h name primaryKey ih => exact ih.setTable name (.empty primaryKey)
  | apply h hkeys happly ih =>
    obtain ⟨table, htable, happly⟩ := bind_eq_ok happly
    cases happly
    refine ih.setTable _ ((ih _ _ (target_eq_ok.mp htable)).apply fun write hwrite => ?_)
    rintro document rfl key hkey
    exact (hkeys table htable document hwrite key hkey).proper
  | insert h hconflict hkeys hinsert ih =>
    obtain ⟨table, htable, hinsert⟩ := bind_eq_ok hinsert
    cases hinsert
    refine ih.setTable _ ((ih _ _ (target_eq_ok.mp htable)).insert hconflict ?_ _ _)
    exact fun document hd key hkey => (hkeys table htable document hd key hkey).proper

theorem keysDiffer_of_lt {table : Table} (h : table.KeysDistinct) {i j : Nat} {a b : Json}
    (hij : i < j) (ha : table.documents[i]? = some a) (hb : table.documents[j]? = some b) :
    table.KeysDiffer a b := by
  obtain ⟨hi, rfl⟩ := List.getElem?_eq_some_iff.mp ha
  obtain ⟨hj, rfl⟩ := List.getElem?_eq_some_iff.mp hb
  exact List.pairwise_iff_getElem.mp h i j hi hj hij

/-- In every table of a store that is reached, no two documents have equal keys. -/
theorem keys_unique {store : Store} (h : Reached store) {name : TableName} {table : Table}
    (htable : store.table? name = some table) {i j : Nat} {a b ka kb : Json} (hij : i ≠ j)
    (ha : table.documents[i]? = some a) (hb : table.documents[j]? = some b)
    (hka : table.keyOf? a = some ka) (hkb : table.keyOf? b = some kb) :
    Json.equals ka kb = false := by
  have hdistinct : table.KeysDistinct := (h.wellKeyed name table htable).distinct
  rcases Nat.lt_or_gt_of_ne hij with hlt | hlt
  · exact keysDiffer_of_lt hdistinct hlt ha hb ka kb hka hkb
  · rw [Json.equals_comm]
    exact keysDiffer_of_lt hdistinct hlt hb ha kb ka hkb hka

/-- A real key takes the place of an integer of the same value, and both differ from the
next integer. -/
theorem keys_unique_across_numbers :
    let name : TableName := ⟨"test", "t"⟩
    let one := Json.object [("id", .ofNat 1)]
    let real := Json.object [("id", .number (.real (.ofInt 1)))]
    let two := Json.object [("id", .ofNat 2)]
    let table := Table.apply { primaryKey := "id" } [.put one, .put two, .put real]
    Reached ((Store.empty.createTable name "id").setTable name table) ∧
      table.documents = [real, two] ∧
      Json.equals (.number (.real (.ofInt 1))) (.ofNat 2) = false := by
  intro name one real two table
  have htarget : (Store.empty.createTable name "id").target name = .ok { primaryKey := "id" } :=
    target_eq_ok.mpr (by rw [createTable, table?_setTable, if_pos rfl])
  have hkeys : ∀ found, (Store.empty.createTable name "id").target name = .ok found →
      ∀ document, .put document ∈ [Write.put one, .put two, .put real] →
        KeyUntagged found document := by
    intro found hfound document hd key hkey
    cases htarget.symm.trans hfound
    simp only [List.mem_cons, Write.put.injEq, List.not_mem_nil, or_false] at hd
    rcases hd with rfl | rfl | rfl <;> cases hkey <;> trivial
  have happly : (Store.empty.createTable name "id").apply name [.put one, .put two, .put real] =
      .ok ((Store.empty.createTable name "id").setTable name table) := by
    unfold Store.apply
    rw [htarget]
    rfl
  have hreached := Reached.apply (.createTable .empty name "id") hkeys happly
  have htable : ((Store.empty.createTable name "id").setTable name table).table? name =
      some table := by
    rw [table?_setTable, if_pos rfl]
  have hdocuments : table.documents = [real, two] := by decide +kernel
  have hreal : table.documents[0]? = some real := by rw [hdocuments]; rfl
  have htwo : table.documents[1]? = some two := by rw [hdocuments]; rfl
  have hid : table.primaryKey = "id" := by decide +kernel
  refine ⟨hreached, hdocuments, ?_⟩
  refine keys_unique hreached htable Nat.zero_ne_one hreal htwo ?_ ?_
  · unfold Table.keyOf?
    rw [hid]
    rfl
  · unfold Table.keyOf?
    rw [hid]
    rfl

end Store

end DocQuery
