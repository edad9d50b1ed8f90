import DocQuery.Proofs.Write.Single
import Mathlib.Data.List.Nodup
import Mathlib.Data.List.Perm.Subperm

/-! Documents that are removed.

In a table whose documents have keys of their own, the removal of a document by its key takes
out this document and no other (`Keyed.documents_remove`). So documents that are removed one
after another, in whatever order, leave those that were not among them, where they stood
(`Keyed.documents_removals`). -/
namespace DocQuery.Table
variable {table : Table}

/-- The removals of rows by their keys. -/
def removals (table : Table) (rows : List Json) : List Write :=
  rows.map fun row => .remove (table.keyOf row)

theorem Keyed.remove (h : table.Keyed) (key : Json) : (table.remove key).Keyed where
  keyed := by
    rw [keyOf?_congr (remove_primaryKey table key)]
    obtain ⟨before, old, after, hsplit, -, -, hremove⟩ | ⟨-, hremove⟩ := remove_cases table key
    · rw [hremove]
      exact fun document hd => h.keyed document (hsplit ▸ others_subset before after old hd)
    · rw [hremove]
      exact h.keyed
  distinct := h.distinct.remove key

theorem Keyed.documents_remove (h : table.Keyed) {row : Json} (hrow : row ∈ table.documents) :
    (table.remove (table.keyOf row)).documents = table.documents.erase row := by
  obtain ⟨key, hkey⟩ := h.keyed row hrow
  obtain ⟨before, found, after, hsplit, hfound, hbefore, hremove⟩ | ⟨hfree, -⟩ :=
    remove_cases table (table.keyOf row)
  · have hin : found ∈ table.documents := hsplit ▸ List.mem_append_right _ List.mem_cons_self
    obtain rfl : found = row := h.distinct.eq_of_hasKey hin hrow (.self hkey) hfound
    have hnot : found ∉ before := fun hmem => by
      rw [hbefore found hmem] at hfound
      cases hfound
    rw [hremove, hsplit, List.erase_append_right _ hnot, List.erase_cons_head]
  · have hself := hfree row hrow
    rw [keyOf_eq hkey, hasKey_self hkey] at hself
    cases hself

/-- The induction is on the rows: when one of them has been removed, the others are still
stored, and under the keys that they had. -/
theorem Keyed.documents_removals (h : table.Keyed) {rows : List Json}
    (hrows : List.Subperm rows table.documents) :
    (table.apply (table.removals rows)).documents = table.documents.diff rows := by
  induction rows generalizing table with
  | nil => rfl
  | cons row rest ih =>
    have hrow : row ∈ table.documents := hrows.subset List.mem_cons_self
    have hremove := h.documents_remove hrow
    have hrest : List.Subperm rest (table.remove (table.keyOf row)).documents := by
      rw [hremove]
      simpa using hrows.erase row
    have hlater := ih (h.remove (table.keyOf row)) hrest
    unfold removals at hlater
    rw [keyOf_congr (remove_primaryKey table _), hremove] at hlater
    rw [List.diff_cons]
    exact hlater

/-- Rows of a table that are removed leave the documents that are not among them. -/
theorem Keyed.documents_removals_eq_filter (h : table.Keyed) {rows : List Json}
    (hrows : List.Subperm rows table.documents) :
    (table.apply (table.removals rows)).documents = table.documents.filter (· ∉ rows) := by
  rw [h.documents_removals hrows, h.nodup.sdiff_eq_filter]

/-- Every row that is removed is a document less. -/
theorem Keyed.length_removals (h : table.Keyed) {rows : List Json}
    (hrows : List.Subperm rows table.documents) :
    rows.length + (table.apply (table.removals rows)).documents.length =
      table.documents.length := by
  rw [h.documents_removals hrows, ← List.length_append]
  exact (List.subperm_append_diff_self_of_count_le (List.subperm_ext_iff.mp hrows)).length_eq

end DocQuery.Table
