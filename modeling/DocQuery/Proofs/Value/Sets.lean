import DocQuery.Proofs.Value.Sorting
import DocQuery.Value.Index
import Mathlib.Data.List.Perm.Subperm

/-! Lists of values as sets.

Sorting brings equal values together, so that leaving out each that equals its neighbour leaves
out all repeats. What is left rises strictly, and a value equals one of it exactly if it equals
one of the list (`distinct_rises`, `contains_distinct`). Equality has to be transitive for
that, so times have to be proper. -/
namespace DocQuery.Json
open Sorting

/-- Each value is below all those after it. -/
def Rising (values : List Json) : Prop := values.Pairwise fun a b => order a b = .lt

/-! ### Sorted values -/

/-- The order is a preorder among values whose times are proper. -/
theorem isPreorder_proper : IsPreorder fun a b : {v : Json // v.Proper} => order a b where
  swap a b := order_swap a b
  composes a b c := order_composes a b c a.2 b.2 c.2

theorem order_lt_trans {a b c : Json} (ha : a.Proper) (hb : b.Proper) (hc : c.Proper)
    (hab : order a b = .lt) (hbc : order b c = .lt) : order a c = .lt :=
  ((order_composes a b c ha hb hc).2.2 (hab.trans hbc.symm)).trans hab

theorem order_lt_of_not_equals {a b : Json} (hle : order a b ≠ .gt) (hne : equals b a = false) :
    order a b = .lt := by
  cases h : order a b with
  | lt => rfl
  | eq =>
    rw [equals_comm, equals_iff.mpr h] at hne
    cases hne
  | gt => exact absurd h hle

variable {values : List Json}

theorem pairwise_stable (h : ∀ v ∈ values, v.Proper) :
    (stable order values).Pairwise fun a b => order a b ≠ .gt := by
  obtain ⟨entries, -, hfst, hsorted⟩ := stable_entries_of_mem isPreorder_proper h
  rw [← hfst]
  refine List.pairwise_map.mpr (hsorted.imp fun hbefore => ?_)
  rcases hbefore with hlt | ⟨heq, -⟩
  · simp [hlt]
  · simp [heq]

/-! ### Leaving out repeats -/

theorem dropRepeatsAfter_sublist {α : Type} (same : α → α → Bool) (last : α) (xs : List α) :
    (dropRepeatsAfter same last xs).Sublist xs := by
  induction xs generalizing last with
  | nil => exact List.Sublist.refl _
  | cons x rest ih =>
    rw [dropRepeatsAfter]
    split
    · exact (ih last).cons x
    · exact (ih x).cons_cons x

theorem dropRepeats_sublist {α : Type} (same : α → α → Bool) :
    ∀ xs : List α, (dropRepeats same xs).Sublist xs
  | [] => List.Sublist.refl _
  | x :: rest => (dropRepeatsAfter_sublist same x rest).cons_cons x

/-- Nothing is among the distinct values that was not there. -/
theorem distinct_subperm (values : List Json) : List.Subperm (distinct values) values :=
  (dropRepeats_sublist equals _).subperm.trans (stable_perm order values).subperm

theorem rising_dropRepeatsAfter {last : Json} {items : List Json} (hlast : last.Proper)
    (hitems : ∀ v ∈ items, v.Proper)
    (hsorted : (last :: items).Pairwise fun a b => order a b ≠ .gt) :
    Rising (last :: dropRepeatsAfter equals last items) := by
  induction items generalizing last with
  | nil => exact List.pairwise_singleton _ _
  | cons item rest ih =>
    obtain ⟨hitem, hrest⟩ := List.forall_mem_cons.mp hitems
    obtain ⟨habove, hsorted'⟩ := List.pairwise_cons.mp hsorted
    rw [dropRepeatsAfter]
    split
    · exact ih hlast hrest (hsorted.sublist ((List.sublist_cons_self item rest).cons_cons last))
    · next hne =>
      have hrising : Rising (item :: dropRepeatsAfter equals item rest) := ih hitem hrest hsorted'
      have hlt : order last item = .lt :=
        order_lt_of_not_equals (habove item List.mem_cons_self) (by simpa using hne)
      refine List.pairwise_cons.mpr ⟨fun v hv => ?_, hrising⟩
      rcases List.mem_cons.mp hv with rfl | hv
      · exact hlt
      · have hproper : v.Proper := hrest v ((dropRepeatsAfter_sublist equals item rest).subset hv)
        exact order_lt_trans hlast hitem hproper hlt ((List.pairwise_cons.mp hrising).1 v hv)

theorem equals_congr {a b w : Json} (ha : a.Proper) (hb : b.Proper) (hw : w.Proper)
    (h : equals a b = true) : equals a w = equals b w := by
  refine Bool.eq_iff_iff.mpr ⟨fun haw => ?_, equals_trans ha hb hw h⟩
  rw [equals_comm] at h
  exact equals_trans hb ha hw h haw

/-- What is left out equals what is left before it. -/
theorem contains_dropRepeatsAfter {last w : Json} {items : List Json} (hw : w.Proper)
    (hlast : last.Proper) (hitems : ∀ v ∈ items, v.Proper) :
    contains (last :: dropRepeatsAfter equals last items) w = contains (last :: items) w := by
  induction items generalizing last with
  | nil => rfl
  | cons item rest ih =>
    obtain ⟨hitem, hrest⟩ := List.forall_mem_cons.mp hitems
    rw [dropRepeatsAfter]
    split
    · next hsame =>
      rw [ih hlast hrest]
      simp [contains, equals_congr hitem hlast hw hsame]
    · have hmore := ih hitem hrest
      simp only [contains, List.any_cons] at hmore ⊢
      rw [hmore]

/-! ### Distinct values -/

theorem distinct_subset (values : List Json) : distinct values ⊆ values :=
  (distinct_subperm values).subset

theorem proper_stable (h : ∀ v ∈ values, v.Proper) : ∀ v ∈ stable order values, v.Proper :=
  fun v hv => h v ((stable_perm order values).mem_iff.mp hv)

/-- Distinct values rise strictly. -/
theorem rising_distinct (h : ∀ v ∈ values, v.Proper) : Rising (distinct values) := by
  have hproper := proper_stable h
  have hsorted := pairwise_stable h
  unfold distinct
  cases hstable : stable order values with
  | nil => exact List.Pairwise.nil
  | cons first rest =>
    rw [hstable] at hproper hsorted
    obtain ⟨hfirst, hrest⟩ := List.forall_mem_cons.mp hproper
    exact rising_dropRepeatsAfter hfirst hrest hsorted

/-- A value equals one of the distinct values if it equals one of the values. -/
theorem contains_distinct {w : Json} (hw : w.Proper) (h : ∀ v ∈ values, v.Proper) :
    contains (distinct values) w = contains values w := by
  have hproper := proper_stable h
  have hperm : contains (stable order values) w = contains values w :=
    (stable_perm order values).any_eq
  rw [← hperm]
  unfold distinct
  cases hstable : stable order values with
  | nil => rfl
  | cons first rest =>
    rw [hstable] at hproper
    obtain ⟨hfirst, hrest⟩ := List.forall_mem_cons.mp hproper
    exact contains_dropRepeatsAfter hw hfirst hrest

/-! ### Choosing by membership -/

theorem contains_iff {w : Json} : contains values w = true ↔ ∃ v ∈ values, equals v w = true :=
  List.any_eq_true

theorem contains_append (xs ys : List Json) (w : Json) :
    contains (xs ++ ys) w = (contains xs w || contains ys w) :=
  List.any_append

/-- Equal values are in the same lists. -/
theorem contains_congr {a b : Json} (ha : a.Proper) (hb : b.Proper)
    (hvalues : ∀ v ∈ values, v.Proper) (h : equals a b = true) :
    contains values a = contains values b := by
  have hsame : ∀ v ∈ values, equals v a = equals v b := fun v hv => by
    rw [equals_comm v a, equals_comm v b, equals_congr ha hb (hvalues v hv) h]
  rw [Bool.eq_iff_iff, contains_iff, contains_iff]
  exact exists_congr fun v => and_congr_right fun hv => by rw [hsame v hv]

/-- What is kept of a list holds a value if the list does, and if values that equal it are
kept. -/
theorem contains_filter {w : Json} {keep : Json → Bool}
    (hkeep : ∀ v ∈ values, equals v w = true → keep v = keep w) :
    contains (values.filter keep) w = (contains values w && keep w) := by
  rw [Bool.eq_iff_iff, Bool.and_eq_true, contains_iff, contains_iff]
  constructor
  · rintro ⟨v, hv, hequals⟩
    obtain ⟨hin, hkept⟩ := List.mem_filter.mp hv
    exact ⟨⟨v, hin, hequals⟩, hkeep v hin hequals ▸ hkept⟩
  · rintro ⟨⟨v, hin, hequals⟩, hkept⟩
    exact ⟨v, List.mem_filter.mpr ⟨hin, (hkeep v hin hequals).trans hkept⟩, hequals⟩

end DocQuery.Json
