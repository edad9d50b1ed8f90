import DocQuery.Proofs.Json.Fields
import DocQuery.Store.Basic

/-! Looking up in a store that a table was put into. -/
namespace DocQuery

namespace Store

theorem get?_setTable (store : Store) (name : TableName) (table : Table) {db : String}
    (h : db ≠ name.db) :
    (store.setTable name table).databases.get? db = store.databases.get? db :=
  Fields.get?_insert_of_ne _ _ h

theorem hasDatabase_setTable (store : Store) (name : TableName) (table : Table) :
    (store.setTable name table).hasDatabase name.db = true := by
  unfold setTable hasDatabase Fields.has
  rw [Fields.get?_insert_self]
  rfl

theorem table?_setTable (store : Store) (name : TableName) (table : Table) (other : TableName) :
    (store.setTable name table).table? other =
      if other = name then some table else store.table? other := by
  obtain ⟨otherDb, otherTable⟩ := other
  obtain ⟨db, tableName⟩ := name
  unfold table? setTable
  by_cases hdb : otherDb = db
  · subst hdb
    simp only [Fields.get?_insert_self]
    show (Fields.insert _ tableName table).get? otherTable = _
    rw [Fields.get?_insert]
    by_cases htable : otherTable = tableName
    · simp [htable]
    · simp only [htable, if_false, TableName.mk.injEq, and_false]
      cases store.databases.get? otherDb <;> rfl
  · simp [Fields.get?_insert_of_ne _ _ hdb, hdb]

theorem table_eq_ok {store : Store} {name : TableName} {table : Table} :
    store.table name = .ok table ↔ store.table? name = some table := by
  unfold Store.table table?
  cases h : store.databases.get? name.db with
  | none => simp
  | some tables => cases h' : tables.get? name.table <;> simp [h']

theorem target_eq_ok {store : Store} {name : TableName} {table : Table} :
    store.target name = .ok table ↔ store.table? name = some table := by
  unfold target
  cases store.table? name <;> simp

theorem hasDatabase_of_table {store : Store} {name : TableName} {table : Table}
    (h : store.table? name = some table) : store.hasDatabase name.db = true := by
  unfold table? at h
  unfold hasDatabase Fields.has
  cases hdb : store.databases.get? name.db with
  | none =>
    rw [hdb] at h
    cases h
  | some tables => rfl

/-- To put a table in the place of another brings no new database. -/
theorem hasDatabase_setTable_of_found {store : Store} {name : TableName} {table : Table}
    (h : store.table? name = some table) (new : Table) (db : String) :
    (store.setTable name new).hasDatabase db = store.hasDatabase db := by
  by_cases hdb : db = name.db
  · rw [hdb, hasDatabase_setTable, hasDatabase_of_table h]
  · unfold hasDatabase Fields.has
    rw [get?_setTable store name new hdb]

/-- A table is read by what its database holds. -/
theorem table_eq (store : Store) (name : TableName) :
    store.table name =
      if store.hasDatabase name.db then
        match store.table? name with
        | some table => .ok table
        | none => .error name.missing
      else .error (.noDatabase name.db) := by
  unfold Store.table hasDatabase Fields.has table?
  cases h : store.databases.get? name.db with
  | none => rfl
  | some tables => cases h' : tables.get? name.table <;> simp [h']

end Store

end DocQuery
