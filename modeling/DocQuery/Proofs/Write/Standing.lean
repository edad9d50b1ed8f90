import DocQuery.Proofs.Write.Effects

/-! Rows through writes.

A row stands until it is deleted, and a row that is replaced stands again. This is all that
writes on the rows of a table come to: document by document, the table has the keys of the
rows that stand. Counting the rows is then counting the documents, and the count is off by
one for every effect on a row that does not stand any more. -/
namespace DocQuery
namespace Table
variable {table : Table}

/-! ### Keys that compare alike -/

/-- The key of a document that is as that of a row finds what has the key of the row. -/
theorem SameKeys.hasKey_iff (hkeyed : table.Keyed) {row document old new : Json}
    (hrow : row ∈ table.documents) (hold : old ∈ table.documents)
    (hdocument : table.SameKeys row document) (hnew : table.SameKeys old new) :
    table.hasKey (table.keyOf new) document = true ↔ row = old := by
  obtain ⟨kr, kd, hkr, hkd, hrd⟩ := hdocument
  obtain ⟨ko, kn, hko, hkn, hon⟩ := hnew
  have hequals : Json.equals kd kn = Json.equals kr ko := by
    rw [← hon kd, Json.equals_comm kd ko, ← hrd ko, Json.equals_comm ko kr]
  rw [keyOf_eq hkn, hasKey_eq_true]
  constructor
  · rintro ⟨found, hfound, h⟩
    cases hkd.symm.trans hfound
    exact hkeyed.distinct.eq_of_equals hrow hold hkr hko (hequals ▸ h)
  · rintro rfl
    cases hkr.symm.trans hko
    exact ⟨kd, hkd, hequals.trans (Json.equals_self kr)⟩

/-- A table all of whose documents have keys of their own has no document twice. -/
theorem Keyed.nodup (h : table.Keyed) : table.documents.Nodup := by
  refine List.Pairwise.imp_of_mem (fun {a b} ha _ hdiffer => ?_) h.distinct
  rintro rfl
  obtain ⟨key, hkey⟩ := h.keyed a ha
  have hself : Json.equals key key = false := hdiffer key key hkey hkey
  rw [Json.equals_self] at hself
  cases hself

end Table

/-! ### Rows that stand -/

namespace Effect

/-- The rows that stand after an effect. -/
def stand (rows : List Json) : Effect → List Json
  | .deleted old => rows.erase old
  | .replaced old _ => if old ∈ rows then rows else rows ++ [old]
  | _ => rows

/-- The row that is changed does not stand. -/
def astray (rows : List Json) (e : Effect) : Bool := e.target?.any (· ∉ rows)

def isDeleted : Effect → Bool
  | .deleted _ => true
  | _ => false

def isInserted : Effect → Bool
  | .inserted _ => true
  | _ => false

def isReplaced : Effect → Bool
  | .replaced _ _ => true
  | _ => false

/-- An effect on a row of the table, which leaves the key as it is. -/
def InPlace (table : Table) : Effect → Prop
  | .inserted _ => False
  | .deleted old => old ∈ table.documents
  | .replaced old new => old ∈ table.documents ∧ table.SameKeys old new
  | _ => True

/-- What is deleted by the first effect is not changed by the second. -/
def Spares (e later : Effect) : Prop := ∀ old, e = .deleted old → later.target? ≠ some old

/-- An effect on a stored row that has a key leaves the key as it is. -/
theorem Of.inPlace {op : Operation} {table : Table} {row key : Json} {e : Effect}
    (he : Of op table.primaryKey (some row) e) (hrow : row ∈ table.documents)
    (hkey : table.keyOf? row = some key) : e.InPlace table := by
  cases e with
  | inserted new =>
    have hnull : row = .null := he.inserted
    rw [hnull] at hkey
    cases hkey
  | deleted old =>
    cases he.target rfl
    exact hrow
  | replaced old new =>
    cases he.target rfl
    refine ⟨hrow, ?_⟩
    have hsame := he.replaced
    unfold Call.settle.sameKey at hsame
    unfold Table.keyOf? at hkey
    rw [hkey] at hsame
    cases hnew : new.field? table.primaryKey with
    | none =>
      rw [hnew] at hsame
      cases hsame
    | some k =>
      rw [hnew] at hsame
      exact ⟨key, k, hkey, hnew, Json.equals_of_same hsame⟩
  | _ => trivial

/-- For a row that is missing, nothing is written or a document is put. -/
theorem Of.missing_cases {op : Operation} {primaryKey : String} {e : Effect}
    (he : Of op primaryKey none e) :
    (∃ new, e = .inserted new) ∨
      e.isInserted = false ∧ e.isDeleted = false ∧ ∀ table : Table, table.writeOf? e = none := by
  cases e with
  | inserted new => exact .inl ⟨new, rfl⟩
  | deleted old => cases he.target rfl
  | replaced old new => cases he.target rfl
  | _ => exact .inr ⟨rfl, rfl, fun _ => rfl⟩

variable {rows : List Json} {e : Effect}

theorem astray_eq_false : e.astray rows = false ↔ ∀ old, e.target? = some old → old ∈ rows := by
  unfold astray
  cases e.target? <;> simp

theorem length_stand (rows : List Json) (e : Effect) :
    (e.stand rows).length + e.isDeleted.toNat = rows.length + (e.astray rows).toNat := by
  cases e with
  | deleted old =>
    by_cases hold : old ∈ rows
    · have hpos : 0 < rows.length := List.length_pos_of_mem hold
      simp [stand, isDeleted, astray, target?, hold, List.length_erase_of_mem]
      omega
    · simp [stand, isDeleted, astray, target?, hold, List.erase_of_not_mem]
  | replaced old new =>
    by_cases hold : old ∈ rows <;> simp [stand, isDeleted, astray, target?, hold]
  | _ => rfl

theorem nodup_stand (h : rows.Nodup) (e : Effect) : (e.stand rows).Nodup := by
  cases e with
  | deleted old => exact h.erase old
  | replaced old new =>
    by_cases hold : old ∈ rows
    · rw [stand, if_pos hold]
      exact h
    · rw [stand, if_neg hold]
      exact List.nodup_append.mpr ⟨h, List.pairwise_singleton _ old, fun a ha b hb hab =>
        hold (List.mem_singleton.mp hb ▸ hab ▸ ha)⟩
  | _ => exact h

theorem stand_subset {table : Table} (h : rows ⊆ table.documents) (he : e.InPlace table) :
    e.stand rows ⊆ table.documents := by
  cases e with
  | deleted old => exact List.Subset.trans List.erase_subset h
  | replaced old new =>
    by_cases hold : old ∈ rows
    · rw [stand, if_pos hold]
      exact h
    · rw [stand, if_neg hold]
      exact List.append_subset.mpr ⟨h, List.cons_subset.mpr ⟨he.1, List.nil_subset _⟩⟩
  | _ => exact h

theorem mem_stand (h : rows.Nodup) (hstands : e.astray rows = false) {row : Json} :
    row ∈ e.stand rows ↔ row ∈ rows ∧ e ≠ .deleted row := by
  rw [astray_eq_false] at hstands
  cases e with
  | deleted old =>
    rw [stand, h.mem_erase_iff, and_comm, ne_comm]
    simp
  | replaced old new =>
    rw [stand, if_pos (hstands old rfl)]
    simp
  | _ => simp [stand]

end Effect

/-! ### Counting the rows that stand -/

/-- How many effects find that their row does not stand, one effect after another. -/
def Effect.strays : List Json → List Effect → Nat
  | _, [] => 0
  | rows, e :: rest => (e.astray rows).toNat + strays (e.stand rows) rest

/-- The rows that stand after all effects. -/
def Effect.standing (rows : List Json) (effects : List Effect) : List Json :=
  effects.foldl Effect.stand rows

namespace Effect
variable {rows : List Json} {effects : List Effect}

theorem countP_cons (p : Effect → Bool) (e : Effect) (rest : List Effect) :
    (e :: rest).countP p = rest.countP p + (p e).toNat := by
  rw [List.countP_cons]
  cases p e <;> rfl

theorem length_standing (rows : List Json) (effects : List Effect) :
    (standing rows effects).length + effects.countP isDeleted =
      rows.length + strays rows effects := by
  induction effects generalizing rows with
  | nil => rfl
  | cons e rest ih =>
    have hstep := length_stand rows e
    have hrest := ih (e.stand rows)
    have hfold : standing rows (e :: rest) = standing (e.stand rows) rest := rfl
    rw [countP_cons, hfold, strays]
    omega

/-- No effect strays if all rows stand at first, and nothing is changed once it has been
deleted. -/
theorem strays_eq_zero (h : rows.Nodup) :
    strays rows effects = 0 ↔
      (∀ e ∈ effects, ∀ old, e.target? = some old → old ∈ rows) ∧ effects.Pairwise Spares := by
  induction effects generalizing rows with
  | nil => simp [strays]
  | cons e rest ih =>
    rw [strays, Nat.add_eq_zero_iff, Bool.toNat_eq_zero, ih (nodup_stand h e), List.pairwise_cons,
      List.forall_mem_cons]
    constructor
    · rintro ⟨hstands, hrest, hpairs⟩
      have hmem := fun later hlater old ht => (mem_stand h hstands).mp (hrest later hlater old ht)
      refine ⟨⟨astray_eq_false.mp hstands, fun later hl old ht => (hmem later hl old ht).1⟩, ?_, hpairs⟩
      exact fun later hl old he ht => (hmem later hl old ht).2 he
    · rintro ⟨⟨hstands, hrest⟩, hspares, hpairs⟩
      have hstands := astray_eq_false.mpr hstands
      refine ⟨hstands, fun later hl old ht => ?_, hpairs⟩
      exact (mem_stand h hstands).mpr ⟨hrest later hl old ht, fun he => hspares later hl old he ht⟩

end Effect

/-! ### Tables that follow the rows -/

namespace Table
variable {table current : Table} {rows : List Json} {e : Effect}

/-- Document by document, a table has the keys of rows of another. -/
structure Follows (table : Table) (rows : List Json) (current : Table) : Prop where
  primaryKey : current.primaryKey = table.primaryKey
  stored : rows ⊆ table.documents
  nodup : rows.Nodup
  alike : List.Forall₂ table.SameKeys rows current.documents

theorem follows_self (h : table.Keyed) : table.Follows table.documents table where
  primaryKey := rfl
  stored := List.Subset.refl _
  nodup := h.nodup
  alike := List.forall₂_same.mpr fun row hrow => by
    obtain ⟨key, hkey⟩ := h.keyed row hrow
    exact .self hkey

/-- What is beside a document that stands in the middle of others. -/
theorem forall₂_split {α β : Type} {R : α → β → Prop} {xs : List α} {before after : List β} {y : β}
    (h : List.Forall₂ R xs (before ++ y :: after)) :
    ∃ xsBefore x xsAfter, xs = xsBefore ++ x :: xsAfter ∧ List.Forall₂ R xsBefore before ∧
      R x y ∧ List.Forall₂ R xsAfter after := by
  have hbefore := List.forall₂_take_append _ _ _ h
  have hdrop := List.forall₂_drop_append _ _ _ h
  cases hxs : xs.drop before.length with
  | nil =>
    rw [hxs] at hdrop
    cases hdrop
  | cons x xsAfter =>
    rw [hxs] at hdrop
    obtain ⟨hxy, hafter⟩ := List.forall₂_cons.mp hdrop
    exact ⟨_, x, xsAfter, by rw [← hxs, List.take_append_drop], hbefore, hxy, hafter⟩

namespace Follows
variable {old new : Json}

theorem hasKey_eq (h : table.Follows rows current) : current.hasKey = table.hasKey :=
  hasKey_congr h.primaryKey

theorem keyOf_eq (h : table.Follows rows current) : current.keyOf = table.keyOf :=
  keyOf_congr h.primaryKey

/-- Where a document has the key of a row, this row stands. -/
theorem split (hkeyed : table.Keyed) (h : table.Follows rows current)
    (hold : old ∈ table.documents) (hnew : table.SameKeys old new) {before after : List Json}
    {found : Json} (hsplit : current.documents = before ++ found :: after)
    (hfound : current.hasKey (table.keyOf new) found = true) :
    ∃ rowsBefore rowsAfter, rows = rowsBefore ++ old :: rowsAfter ∧
      List.Forall₂ table.SameKeys rowsBefore before ∧
      List.Forall₂ table.SameKeys rowsAfter after := by
  obtain ⟨rowsBefore, row, rowsAfter, rfl, hbefore, hrow, hafter⟩ := forall₂_split (hsplit ▸ h.alike)
  have hin : row ∈ table.documents := h.stored (List.mem_append_right _ List.mem_cons_self)
  rw [h.hasKey_eq, SameKeys.hasKey_iff hkeyed hin hold hrow hnew] at hfound
  subst hfound
  exact ⟨rowsBefore, rowsAfter, rfl, hbefore, hafter⟩

/-- Where no document has the key of a row, this row does not stand. -/
theorem gone (hkeyed : table.Keyed) (h : table.Follows rows current)
    (hold : old ∈ table.documents) (hnew : table.SameKeys old new)
    (hfree : ∀ other ∈ current.documents, current.hasKey (table.keyOf new) other = false) :
    old ∉ rows := by
  intro hin
  obtain ⟨found, hfound, hsame⟩ := exists_of_forall₂ h.alike hin
  have hkey : table.hasKey (table.keyOf new) found = true :=
    (SameKeys.hasKey_iff hkeyed hold hold hsame hnew).mpr rfl
  rw [← h.hasKey_eq, hfree found hfound] at hkey
  cases hkey

/-- A document that has the key of a row is put where the row stands, or at the end. -/
theorem put (hkeyed : table.Keyed) (h : table.Follows rows current)
    (hold : old ∈ table.documents) (hnew : table.SameKeys old new) :
    List.Forall₂ table.SameKeys (Effect.stand rows (.replaced old new))
      (current.put new).documents := by
  obtain ⟨before, found, after, hsplit, hfound, -, hput⟩ | ⟨hfree, hput⟩ := put_cases current new
  · rw [h.keyOf_eq] at hfound
    obtain ⟨rowsBefore, rowsAfter, rfl, hbefore, hafter⟩ := h.split hkeyed hold hnew hsplit hfound
    rw [hput, Effect.stand, if_pos (List.mem_append_right _ List.mem_cons_self)]
    exact List.rel_append hbefore (.cons hnew hafter)
  · rw [h.keyOf_eq] at hfree
    rw [hput, Effect.stand, if_neg (h.gone hkeyed hold hnew hfree)]
    exact List.rel_append h.alike (.cons hnew .nil)

/-- The document that is removed by the key of a row is the one of this row. -/
theorem remove (hkeyed : table.Keyed) (h : table.Follows rows current)
    (hold : old ∈ table.documents) :
    List.Forall₂ table.SameKeys (Effect.stand rows (.deleted old))
      (current.remove (table.keyOf old)).documents := by
  obtain ⟨key, hkey⟩ := hkeyed.keyed old hold
  have hself : table.SameKeys old old := .self hkey
  obtain ⟨before, found, after, hsplit, hfound, -, hremove⟩ | ⟨hfree, hremove⟩ :=
    remove_cases current (table.keyOf old)
  · obtain ⟨rowsBefore, rowsAfter, rfl, hbefore, hafter⟩ := h.split hkeyed hold hself hsplit hfound
    have hnot : old ∉ rowsBefore := fun hin =>
      (List.nodup_append.mp h.nodup).2.2 old hin old List.mem_cons_self rfl
    rw [hremove, Effect.stand, List.erase_append_right _ hnot, List.erase_cons_head]
    exact List.rel_append hbefore hafter
  · rw [hremove, Effect.stand, List.erase_of_not_mem (h.gone hkeyed hold hself hfree)]
    exact h.alike

/-- The write of an effect on a row keeps the table with the rows that stand. -/
theorem effect (hkeyed : table.Keyed) (h : table.Follows rows current) (he : e.InPlace table) :
    table.Follows (e.stand rows) (current.apply (table.writeOf? e).toList) where
  primaryKey := by rw [apply_primaryKey, h.primaryKey]
  stored := Effect.stand_subset h.stored he
  nodup := Effect.nodup_stand h.nodup e
  alike := by
    cases e with
    | inserted new => exact he.elim
    | replaced old new => exact h.put hkeyed he.1 he.2
    | deleted old => exact h.remove hkeyed he
    | _ => exact h.alike

theorem effects (hkeyed : table.Keyed) {effects : List Effect}
    (heffects : ∀ e ∈ effects, e.InPlace table) (h : table.Follows rows current) :
    table.Follows (Effect.standing rows effects)
      (current.apply (effects.filterMap table.writeOf?)) := by
  induction effects generalizing rows current with
  | nil => exact h
  | cons e rest ih =>
    obtain ⟨he, hrest⟩ := List.forall_mem_cons.mp heffects
    have hnext := ih hrest (h.effect hkeyed he)
    rw [List.filterMap_cons]
    cases hwrite : table.writeOf? e <;> rw [hwrite] at hnext <;> exact hnext

end Follows

/-- Effects on the rows of a table change its length by what they delete, and by one more
for each that strays. -/
theorem length_apply (hkeyed : table.Keyed) {effects : List Effect}
    (heffects : ∀ e ∈ effects, e.InPlace table) :
    (table.apply (effects.filterMap table.writeOf?)).documents.length +
        effects.countP Effect.isDeleted =
      table.documents.length + Effect.strays table.documents effects := by
  have hfollows := (follows_self hkeyed).effects hkeyed heffects
  rw [← hfollows.alike.length_eq]
  exact Effect.length_standing table.documents effects

end Table

end DocQuery
