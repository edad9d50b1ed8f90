import DocQuery.Proofs.Value.Sets

/-! The first of the smallest items.

A scan that goes on to a new item only if that is below the one it holds ends with the first of
the smallest items (`IsFirst.concat`). A stable sort puts the same item at the head of the list
(`head?_stable`), so that the two agree on items that are level. -/
namespace DocQuery.Sorting
variable {α : Type} {P : α → Prop} {cmp : α → α → Ordering} {items : List α} {item : α}

/-- The item is below all those before it in a list, and none of those after it is below it. -/
def IsFirst (cmp : α → α → Ordering) (items : List α) (item : α) : Prop :=
  ∃ before after, items = before ++ item :: after ∧
    (∀ other ∈ before, cmp item other = .lt) ∧ ∀ other ∈ after, cmp other item ≠ .lt

namespace IsFirst

theorem mem (h : IsFirst cmp items item) : item ∈ items := by
  obtain ⟨before, after, rfl, -, -⟩ := h
  exact List.mem_append_right before List.mem_cons_self

theorem singleton (item : α) : IsFirst cmp [item] item := ⟨[], [], rfl, nofun, nofun⟩

/-- Nothing in the list is below the first item. -/
theorem not_gt (horder : IsPreorder fun a b : {a // P a} => cmp a b)
    (hitems : ∀ item ∈ items, P item) (h : IsFirst cmp items item) :
    ∀ other ∈ items, cmp item other ≠ .gt := by
  have hitem := hitems item h.mem
  have hswap : ∀ other ∈ items, (cmp other item).swap = cmp item other := fun other hother =>
    horder.swap ⟨other, hitems other hother⟩ ⟨item, hitem⟩
  obtain ⟨before, after, rfl, hbefore, hafter⟩ := h
  intro other hother hgt
  have hlt : cmp other item = .lt := by
    rw [← Ordering.swap_inj, hswap other hother, hgt]
    rfl
  rcases List.mem_append.mp hother with hmem | hmem
  · rw [hbefore other hmem] at hgt
    cases hgt
  · rcases List.mem_cons.mp hmem with rfl | hmem
    · rw [hlt] at hgt
      cases hgt
    · exact hafter other hmem hlt

/-- With one more item at the end the first one stays, unless the new item is below it. -/
theorem concat (horder : IsPreorder fun a b : {a // P a} => cmp a b)
    (hitems : ∀ item ∈ items, P item) {new : α} (hnew : P new) (h : IsFirst cmp items item) :
    IsFirst cmp (items ++ [new]) (if cmp new item = .lt then new else item) := by
  split
  · next hlt =>
    refine ⟨items, [], rfl, fun other hother => ?_, nofun⟩
    obtain ⟨-, hlevel, hboth⟩ :=
      horder.composes ⟨new, hnew⟩ ⟨item, hitems item h.mem⟩ ⟨other, hitems other hother⟩
    cases hcmp : cmp item other with
    | lt => exact (hboth (hlt.trans hcmp.symm)).trans hlt
    | eq => exact (hlevel hcmp).trans hlt
    | gt => exact absurd hcmp (h.not_gt horder hitems other hother)
  · next hnot =>
    obtain ⟨before, after, rfl, hbefore, hafter⟩ := h
    refine ⟨before, after ++ [new], by simp, hbefore, fun other hother => ?_⟩
    rcases List.mem_append.mp hother with hmem | hmem
    · exact hafter other hmem
    · rwa [List.mem_singleton.mp hmem]

end IsFirst

/-! ### Sorted lists -/

theorem Before.asymm (horder : IsPreorder fun a b : {a // P a} => cmp a b) {a b : α × Nat}
    (ha : P a.1) (hb : P b.1) (hab : Before cmp a b) : ¬ Before cmp b a := by
  have hswap : (cmp a.1 b.1).swap = cmp b.1 a.1 := horder.swap ⟨a.1, ha⟩ ⟨b.1, hb⟩
  unfold Before
  rw [← hswap]
  rcases hab with hlt | ⟨heq, hplace⟩
  · simp [hlt]
  · simp [heq, Nat.not_lt_of_lt hplace]

/-- The first of the smallest items, with its place, stands before all others. -/
theorem IsFirst.before (horder : IsPreorder fun a b : {a // P a} => cmp a b)
    (hitems : ∀ item ∈ items, P item) (h : IsFirst cmp items item) :
    ∃ place, (item, place) ∈ items.zipIdx ∧
      ∀ entry ∈ items.zipIdx, entry = (item, place) ∨ Before cmp (item, place) entry := by
  have hitem := hitems item h.mem
  have hnot := h.not_gt horder hitems
  obtain ⟨before, after, rfl, hbefore, hafter⟩ := h
  refine ⟨before.length, ?_, ?_⟩
  · rw [List.mem_zipIdx_iff_getElem?, List.getElem?_append_right (Nat.le_refl _), Nat.sub_self]
    rfl
  · rintro ⟨other, place⟩ hentry
    have hother := hnot other (List.fst_mem_of_mem_zipIdx hentry)
    rw [List.mem_zipIdx_iff_getElem?] at hentry
    rcases Nat.lt_trichotomy place before.length with hplace | hplace | hplace
    · rw [List.getElem?_append_left hplace] at hentry
      exact .inr (.inl (hbefore other (List.mem_of_getElem? hentry)))
    · rw [hplace, List.getElem?_append_right (Nat.le_refl _), Nat.sub_self] at hentry
      rw [hplace, Option.some.inj hentry]
      exact .inl rfl
    · right
      cases hcmp : cmp item other with
      | lt => exact .inl hcmp
      | eq => exact .inr ⟨hcmp, hplace⟩
      | gt => exact absurd hcmp hother

/-- A stable sort puts the first of the smallest items at the head. -/
theorem head?_stable (horder : IsPreorder fun a b : {a // P a} => cmp a b)
    (hitems : ∀ item ∈ items, P item) (h : IsFirst cmp items item) :
    (stable cmp items).head? = some item := by
  obtain ⟨entries, hperm, hfst, hsorted⟩ := stable_entries_of_mem horder hitems
  obtain ⟨place, hmem, hleast⟩ := h.before horder hitems
  rw [← hfst]
  cases entries with
  | nil => cases hperm.mem_iff.mpr hmem
  | cons first rest =>
    have hfirst := hperm.mem_iff.mp (List.mem_cons_self (a := first) (l := rest))
    rcases hleast first hfirst with heq | hbefore
    · rw [heq]
      rfl
    · -- The head of the sorted entries stands before the smallest one as well.
      rcases List.mem_cons.mp (hperm.mem_iff.mpr hmem) with heq | hrest
      · rw [← heq]
        rfl
      · have hback := (List.pairwise_cons.mp hsorted).1 _ hrest
        have hP := hitems first.1 (List.fst_mem_of_mem_zipIdx hfirst)
        exact absurd hback (hbefore.asymm horder (hitems item h.mem) hP)

end DocQuery.Sorting
