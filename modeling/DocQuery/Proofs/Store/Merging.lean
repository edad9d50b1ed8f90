import DocQuery.Proofs.Store.Keys
import DocQuery.Proofs.Value.Merge

/-! Insertions that merge.

A document whose key is taken is written over the one that has the key. What stands there
afterwards has a key again, and the same one, as long as no literal is among the documents:
a literal does not merge but leaves what it holds, which may be no document at all, or one of
another key (`insert_literal_destroys`). -/
namespace DocQuery
namespace Table
variable {table : Table}

/-! ### Keys of merged documents -/

/-- What can be merged into a table: it is no literal, names each of its fields once, and its
key is plain, if it has one. -/
structure Mergeable (table : Table) (document : Json) : Prop where
  literal : document.isLiteral = false
  ascending : ∀ fields, document = .object fields → Fields.Ascending fields
  key : ∀ key, table.keyOf? document = some key → key.Plain

theorem exists_fields {document key : Json} (h : table.keyOf? document = some key) :
    ∃ fields, document = .object fields ∧ Fields.get? fields table.primaryKey = some key := by
  cases document with
  | object fields => exact ⟨fields, rfl, h⟩
  | _ => cases h

/-- A document that is merged into the one that has its key keeps the key: it is plain and
equal to the old one. -/
theorem Mergeable.merged {old document kold key : Json} (h : table.Mergeable document)
    (hold : table.keyOf? old = some kold) (hkey : table.keyOf? document = some key)
    (hplain : kold.Plain) (hequals : Json.equals kold key = true) :
    ∃ merged, table.keyOf? (old.merge document) = some merged ∧ merged.Plain ∧
      Json.equals kold merged = true := by
  obtain ⟨fields, rfl, hfields⟩ := exists_fields hold
  obtain ⟨patch, rfl, hpatch⟩ := exists_fields hkey
  have hkeyplain : key.Plain := h.key key hkey
  by_cases htag : Fields.has patch tagKey = true
  · -- A tagged document that is no literal takes the place of the old one as it is.
    have hmerge : (Json.object fields).merge (.object patch) = .object patch := by
      rw [Json.merge, if_pos htag, Json.replacement, h.literal, if_neg Bool.false_ne_true]
    rw [hmerge]
    exact ⟨key, hkey, hkeyplain, hequals⟩
  · have hmerge : (Json.object fields).merge (.object patch) =
        .object (Json.mergeFields fields patch) := by
      rw [Json.merge, if_neg htag]
    have hget : Fields.get? (Json.mergeFields fields patch) table.primaryKey =
        some (kold.merge key) := by
      rw [Json.get?_mergeFields (h.ascending patch rfl), hpatch, hfields]
      simp [Json.isRemoval_of_plain hkeyplain]
    have horder : Json.order kold key = .eq :=
      Json.equals_iff.mp hequals
    obtain ⟨hmerged, hsame⟩ := Json.merge_equal kold key horder hplain hkeyplain
    rw [hmerge]
    refine ⟨kold.merge key, hget, hmerged, ?_⟩
    refine Json.equals_trans hplain.proper hkeyplain.proper hmerged.proper hequals ?_
    rw [Json.equals_comm, Json.equals_iff]
    exact hsame

/-- A document that is given a fresh key can be merged if it could be without one. -/
theorem Mergeable.withKey {fields : Fields Json} {fresh : String}
    (h : table.Mergeable (.object fields)) (hfresh : fresh ≠ "LITERAL") :
    table.Mergeable (.object (Fields.insert fields table.primaryKey (.string fresh))) where
  literal := by
    have hliteral := h.literal
    unfold Json.isLiteral Json.tag? at hliteral ⊢
    rw [Json.field?_object] at hliteral ⊢
    rw [Fields.get?_insert]
    split
    · simpa [Json.string?] using hfresh
    · exact hliteral
  ascending inserted heq := by
    cases heq
    exact (h.ascending fields rfl).insert _ _
  key key hkey := by
    rw [keyOf?_insert] at hkey
    cases hkey
    trivial

/-- Only the name of the primary key matters. -/
theorem Mergeable.of_primaryKey {other : Table} {document : Json} (h : table.Mergeable document)
    (hpk : other.primaryKey = table.primaryKey) : other.Mergeable document where
  literal := h.literal
  ascending := h.ascending
  key key hkey := by
    rw [keyOf?_congr hpk] at hkey
    exact h.key key hkey

/-- What a merge puts in the place of a document. -/
theorem collision_update {old document old' new : Json}
    (h : collision .update table old document = .replaced old' new) : new = old.merge document := by
  unfold collision at h
  dsimp only at h
  split at h
  · cases h
  · exact (Effect.replaced.inj h).2.symm

/-! ### Tables of plain keys -/

/-- All documents have plain keys, and no two have equal ones. -/
structure PlainlyKeyed (table : Table) : Prop where
  plain : ∀ document ∈ table.documents, ∃ key, table.keyOf? document = some key ∧ key.Plain
  distinct : table.KeysDistinct

namespace PlainlyKeyed

theorem keyed (h : table.PlainlyKeyed) : table.Keyed where
  keyed document hd := by
    obtain ⟨key, hkey, -⟩ := h.plain document hd
    exact ⟨key, hkey⟩
  distinct := h.distinct

theorem of_keyed (h : table.Keyed)
    (hplain : ∀ document ∈ table.documents, ∀ key, table.keyOf? document = some key → key.Plain) :
    table.PlainlyKeyed where
  plain document hd := by
    obtain ⟨key, hkey⟩ := h.keyed document hd
    exact ⟨key, hkey, hplain document hd key hkey⟩
  distinct := h.distinct

theorem wellKeyed (h : table.PlainlyKeyed) : table.WellKeyed where
  distinct := h.distinct
  proper document hd key hkey := by
    obtain ⟨found, hfound, hplain⟩ := h.plain document hd
    cases hkey.symm.trans hfound
    exact hplain.proper

variable {document key : Json}

theorem append (h : table.PlainlyKeyed) (hkey : table.keyOf? document = some key)
    (hplain : key.Plain)
    (hfree : ∀ other ∈ table.documents, table.hasKey (table.keyOf document) other = false) :
    (table.append document).PlainlyKeyed where
  plain other ho := by
    rcases List.mem_append.mp ho with ho | ho
    · exact h.plain other ho
    · rw [List.mem_singleton.mp ho]
      exact ⟨key, hkey, hplain⟩
  distinct := by
    refine (h.wellKeyed.append (fun found hfound => ?_) hfree).distinct
    cases hkey.symm.trans hfound
    exact hplain.proper

theorem replace (h : table.PlainlyKeyed) (hkey : table.keyOf? document = some key)
    (hplain : key.Plain) {before after : List Json} {old : Json}
    (hsplit : table.documents = before ++ old :: after)
    (hold : table.hasKey (table.keyOf document) old = true) :
    PlainlyKeyed { table with documents := before ++ document :: after } where
  plain other ho := by
    rcases List.mem_append.mp ho with ho | ho
    · exact h.plain other (hsplit ▸ List.mem_append_left _ ho)
    · rcases List.mem_cons.mp ho with rfl | ho
      · exact ⟨key, hkey, hplain⟩
      · exact h.plain other (hsplit ▸ List.mem_append_right _ (List.mem_cons_of_mem _ ho))
  distinct := by
    refine (h.wellKeyed.replace (fun found hfound => ?_) hsplit hold).distinct
    cases hkey.symm.trans hfound
    exact hplain.proper

theorem insertKeyed (h : table.PlainlyKeyed) (hdocument : table.Mergeable document)
    (hkey : table.keyOf? document = some key) :
    (Table.insertKeyed .update table document).2.PlainlyKeyed := by
  unfold Table.insertKeyed
  split
  · next hnone => exact h.append hkey (hdocument.key key hkey) (position_eq_none.mp hnone)
  · next i hi =>
    split
    · next heffect =>
      obtain ⟨before, old, after, hsplit, hlen, hold, -⟩ := split_of_position hi
      have hat : (table.documents[i]?).getD .null = old := by
        rw [hsplit, ← hlen, List.getElem?_append_right (Nat.le_refl _), Nat.sub_self]
        rfl
      rw [hat] at heffect
      have hin : old ∈ table.documents := hsplit ▸ List.mem_append_right _ List.mem_cons_self
      obtain ⟨kold, hkold, hplain⟩ := h.plain old hin
      have hequals : Json.equals kold key = true := by
        obtain ⟨found, hfound, hequals⟩ := hasKey_eq_true.mp hold
        cases hkold.symm.trans hfound
        rwa [keyOf_eq hkey] at hequals
      obtain ⟨merged, hmerged, hmergedplain, hsame⟩ :=
        hdocument.merged hkold hkey hplain hequals
      rw [collision_update heffect, setAt_split hsplit hlen]
      refine h.replace hmerged hmergedplain hsplit (hasKey_eq_true.mpr ⟨kold, hkold, ?_⟩)
      rw [keyOf_eq hmerged]
      exact hsame
    · exact h

/-- One document that is inserted, with its own key or with a fresh one. -/
theorem step (fresh : Nat → String) (hfresh : ∀ index, fresh index ≠ "LITERAL") {i : Insertion}
    (h : i.table.PlainlyKeyed) (hdocument : i.table.Mergeable document) :
    (i.step .update fresh document).table.PlainlyKeyed := by
  obtain hstep | ⟨⟨key, hkey⟩, hstep⟩ | ⟨fields, index, rfl, hstep⟩ :=
    step_table .update fresh i document
  · rw [hstep]
    exact h
  · rw [hstep]
    exact h.insertKeyed hdocument hkey
  · rw [hstep]
    exact h.insertKeyed (hdocument.withKey (hfresh index)) (keyOf?_insert i.table fields _)

/-- Insertions that merge keep a table of plain keys, whatever else the documents hold. -/
theorem insert (h : table.PlainlyKeyed) {documents : List Json}
    (hdocuments : ∀ document ∈ documents, table.Mergeable document) {fresh : Nat → String}
    (hfresh : ∀ index, fresh index ≠ "LITERAL") (logged : Bool) :
    (table.insert documents .update logged fresh).table.PlainlyKeyed := by
  have hrun : ∀ i : Insertion, i.table.PlainlyKeyed → i.table.primaryKey = table.primaryKey →
      (documents.foldl (Insertion.step .update fresh) i).table.PlainlyKeyed := by
    induction documents with
    | nil => exact fun i hi _ => hi
    | cons document rest ih =>
      intro i hi hpk
      have hmergeable : i.table.Mergeable document :=
        (hdocuments document List.mem_cons_self).of_primaryKey hpk
      exact ih (fun other ho => hdocuments other (List.mem_cons_of_mem _ ho)) _
        (hi.step fresh hfresh hmergeable) ((step_primaryKey .update fresh i document).trans hpk)
  exact hrun _ h rfl

end PlainlyKeyed

/-- If every document of a table has a plain key, and no two have the same one, an insertion
that merges documents leaves every document a key, and no two the same one, unless a literal
is among them. -/
theorem insert_update_keyed {table : Table} {documents : List Json} {fresh : Nat → String}
    (hkeyed : table.Keyed)
    (hplain : ∀ document ∈ table.documents, ∀ key, table.keyOf? document = some key → key.Plain)
    (hdocuments : ∀ document ∈ documents, table.Mergeable document)
    (hfresh : ∀ index, fresh index ≠ "LITERAL") (logged : Bool) :
    (table.insert documents .update logged fresh).table.Keyed :=
  ((PlainlyKeyed.of_keyed hkeyed hplain).insert hdocuments hfresh logged).keyed

/-- Two documents of one insertion, of which the first is merged into a document with a key
of another kind of number, and the second into the first. -/
theorem insert_update_keyed_twice :
    let table : Table :=
      { primaryKey := "id", documents := [.object [("id", .ofNat 1), ("n", .ofNat 0)]] }
    let documents : List Json :=
      [.object [("a", .ofNat 2), ("id", .number (.real (.ofInt 1)))], .object [("id", .ofNat 1)]]
    let done := (table.insert documents .update false fun _ => "").table
    done.documents = [.object [("a", .ofNat 2), ("id", .ofNat 1), ("n", .ofNat 0)]] ∧
      done.Keyed := by
  intro table documents done
  have hkeyed : table.Keyed := Keyed.single rfl rfl
  have hplain : ∀ document ∈ table.documents, ∀ key, table.keyOf? document = some key →
      key.Plain := by
    intro document hd key hkey
    rw [List.mem_singleton.mp hd] at hkey
    cases hkey
    trivial
  have hdocuments : ∀ document ∈ documents, table.Mergeable document := by
    intro document hd
    simp only [documents, List.mem_cons, List.not_mem_nil, or_false] at hd
    rcases hd with rfl | rfl
    · refine ⟨by decide +kernel, fun fields hfields => ?_, fun key hkey => ?_⟩
      · cases hfields
        exact List.pairwise_cons.mpr ⟨by decide +kernel, List.pairwise_singleton _ _⟩
      · cases hkey
        trivial
    · refine ⟨by decide +kernel, fun fields hfields => ?_, fun key hkey => ?_⟩
      · cases hfields
        exact List.pairwise_singleton _ _
      · cases hkey
        trivial
  exact ⟨by decide +kernel,
    insert_update_keyed hkeyed hplain hdocuments (fun _ => by decide) false⟩

/-- A literal with the key of a document takes the document away and leaves none. -/
theorem insert_literal_destroys :
    let table : Table :=
      { primaryKey := "id", documents := [.object [("id", .ofNat 1), ("name", .string "a")]] }
    let literal := Json.object [("$reql_type$", .string "LITERAL"), ("id", .ofNat 1)]
    let done := (table.insert [literal] .update false fun _ => "").table
    table.Keyed ∧ done.documents = [.null] ∧ ¬ done.Keyed := by
  intro table literal done
  have hkeyed : table.Keyed := Keyed.single rfl rfl
  have hdone : done.documents = [.null] := by decide +kernel
  refine ⟨hkeyed, hdone, fun h => ?_⟩
  obtain ⟨key, hkey⟩ := h.keyed .null (by rw [hdone]; exact List.mem_cons_self)
  cases hkey

end Table

end DocQuery
