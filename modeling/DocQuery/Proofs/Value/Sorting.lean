import DocQuery.Proofs.Value.Order

/-! Sorting is stable.

The places that items come from make a strict order of a preorder (`Before`): of items that
are level, the one from the earlier place stands first. Both ways of sorting put the items in
this order, so that they give the same list whatever its length (`stable_entries`). -/
namespace DocQuery.Sorting
variable {α β : Type}

/-! ### What a sorted list holds -/

theorem place_perm (cmp : α → α → Ordering) (item : α) (sorted : List α) :
    (place cmp item sorted).Perm (item :: sorted) := by
  induction sorted with
  | nil => exact List.Perm.refl _
  | cons last rest ih =>
    rw [place]
    split
    · exact (ih.cons last).trans (List.Perm.swap item last rest)
    · exact List.Perm.refl _

theorem insertion_perm (cmp : α → α → Ordering) (items : List α) :
    (insertion cmp items).Perm items := by
  have hfold : ∀ sorted : List α,
      (items.foldl (fun sorted item => place cmp item sorted) sorted).Perm (items ++ sorted) := by
    induction items with
    | nil => exact fun sorted => List.Perm.refl _
    | cons item rest ih =>
      intro sorted
      exact (ih _).trans (((place_perm cmp item sorted).append_left rest).trans List.perm_middle)
  exact (List.reverse_perm _).trans (by simpa using hfold [])

/-- A sorted list holds what was sorted. -/
theorem stable_perm (cmp : α → α → Ordering) (items : List α) :
    (stable cmp items).Perm items := by
  unfold stable
  split
  · exact insertion_perm cmp items
  · exact List.mergeSort_perm _ _

/-! ### Items with their places -/

/-- A comparison as a preorder has it. -/
structure IsPreorder (cmp : α → α → Ordering) : Prop where
  swap : ∀ a b, (cmp a b).swap = cmp b a
  composes : ∀ a b c, Composes (cmp a b) (cmp b c) (cmp a c)

theorem pairwise_zipIdx (items : List α) : items.zipIdx.Pairwise (·.2 < ·.2) := by
  have hplaces : (items.zipIdx.map Prod.snd).Pairwise (· < ·) := by
    rw [List.zipIdx_map_snd]
    exact List.pairwise_lt_range'
  exact List.pairwise_map.mp hplaces

/-- An item stands before another one if it is below it, or level with it and from an earlier
place. -/
def Before (cmp : α → α → Ordering) (a b : α × Nat) : Prop :=
  cmp a.1 b.1 = .lt ∨ cmp a.1 b.1 = .eq ∧ a.2 < b.2

variable {cmp : α → α → Ordering}

theorem Before.trans (h : IsPreorder cmp) {a b c : α × Nat} (hab : Before cmp a b)
    (hbc : Before cmp b c) : Before cmp a c := by
  obtain ⟨hleft, hright, hboth⟩ := h.composes a.1 b.1 c.1
  rcases hab with hab | ⟨hab, hplace⟩
  · rcases hbc with hbc | ⟨hbc, -⟩
    · exact .inl ((hboth (hab.trans hbc.symm)).trans hab)
    · exact .inl ((hright hbc).trans hab)
  · rw [Before, hleft hab]
    exact hbc.imp_right fun hbc => ⟨hbc.1, Nat.lt_trans hplace hbc.2⟩

/-- What is not above an item from a later place stands before it. -/
theorem Before.of_not_lt (h : IsPreorder cmp) {earlier later : α × Nat}
    (hcmp : cmp later.1 earlier.1 ≠ .lt) (hplace : earlier.2 < later.2) :
    Before cmp earlier later := by
  rw [← h.swap] at hcmp
  cases heq : cmp earlier.1 later.1 with
  | lt => exact .inl heq
  | eq => exact .inr ⟨heq, hplace⟩
  | gt => exact absurd (by rw [heq]; rfl) hcmp

/-! ### Insertion -/

/-- A list of items with their places, the last of them first. -/
def Downward (cmp : α → α → Ordering) (entries : List (α × Nat)) : Prop :=
  entries.Pairwise fun later earlier => Before cmp earlier later

theorem downward_place (h : IsPreorder cmp) {entry : α × Nat} {sorted : List (α × Nat)}
    (hsorted : Downward cmp sorted) (hplaces : ∀ placed ∈ sorted, placed.2 < entry.2) :
    Downward cmp (place (fun a b => cmp a.1 b.1) entry sorted) := by
  induction sorted with
  | nil => exact List.pairwise_singleton _ _
  | cons last rest ih =>
    obtain ⟨hlast, hrest⟩ := List.pairwise_cons.mp hsorted
    have hplace : last.2 < entry.2 := hplaces last List.mem_cons_self
    rw [place]
    split
    · next hlt =>
      refine List.pairwise_cons.mpr ⟨fun placed hplaced => ?_, ?_⟩
      · rcases List.mem_cons.mp ((place_perm _ _ _).mem_iff.mp hplaced) with rfl | hplaced
        · exact .inl (by simpa using hlt)
        · exact hlast placed hplaced
      · exact ih hrest fun placed hplaced => hplaces placed (List.mem_cons_of_mem _ hplaced)
    · next hnot =>
      have hbefore : Before cmp last entry := .of_not_lt h (by simpa using hnot) hplace
      refine List.pairwise_cons.mpr ⟨fun placed hplaced => ?_, hsorted⟩
      rcases List.mem_cons.mp hplaced with rfl | hplaced
      · exact hbefore
      · exact (hlast placed hplaced).trans h hbefore

theorem pairwise_insertion (h : IsPreorder cmp) {entries : List (α × Nat)}
    (hplaces : entries.Pairwise (·.2 < ·.2)) :
    (insertion (fun a b => cmp a.1 b.1) entries).Pairwise (Before cmp) := by
  -- What is sorted so far comes from places before those of the other entries.
  have hfold : ∀ sorted, Downward cmp sorted →
      (∀ placed ∈ sorted, ∀ entry ∈ entries, placed.2 < entry.2) →
      Downward cmp (entries.foldl (fun sorted entry => place (fun a b => cmp a.1 b.1) entry sorted)
        sorted) := by
    induction entries with
    | nil => exact fun sorted hsorted _ => hsorted
    | cons entry rest ih =>
      intro sorted hsorted hbefore
      obtain ⟨hentry, hrest⟩ := List.pairwise_cons.mp hplaces
      refine ih hrest _ (downward_place h hsorted fun placed hplaced =>
        hbefore placed hplaced entry List.mem_cons_self) fun placed hplaced later hlater => ?_
      rcases List.mem_cons.mp ((place_perm _ _ _).mem_iff.mp hplaced) with rfl | hplaced
      · exact hentry later hlater
      · exact hbefore placed hplaced later (List.mem_cons_of_mem _ hlater)
  exact List.pairwise_reverse.mpr (hfold [] List.Pairwise.nil nofun)

theorem place_map (f : β → α) (item : β) (sorted : List β) :
    (place (fun a b => cmp (f a) (f b)) item sorted).map f =
      place cmp (f item) (sorted.map f) := by
  induction sorted with
  | nil => rfl
  | cons last rest ih =>
    rw [place, List.map_cons, place]
    split
    · rw [List.map_cons, ih]
    · rfl

theorem insertion_map (f : β → α) (items : List β) :
    (insertion (fun a b => cmp (f a) (f b)) items).map f = insertion cmp (items.map f) := by
  rw [insertion, insertion, List.map_reverse, List.foldl_map]
  exact congrArg List.reverse
    (List.foldl_hom (List.map f) fun sorted item => (place_map f item sorted).symm).symm

/-! ### Merging -/

open List in
theorem pairwise_mergeSort (h : IsPreorder cmp) (items : List α) :
    (items.zipIdx.mergeSort (zipIdxLE fun a b => cmp a b != .gt)).Pairwise (Before cmp) := by
  have htrans : ∀ a b c, (cmp a b != .gt) = true → (cmp b c != .gt) = true →
      (cmp a c != .gt) = true := by
    simpa using fun a b c => (h.composes a b c).ne_gt
  have htotal : ∀ a b, ((cmp a b != .gt) || (cmp b a != .gt)) = true := by
    intro a b
    rw [← h.swap a b]
    cases cmp a b <;> rfl
  have hsorted := List.pairwise_mergeSort (zipIdxLE_trans htrans) (zipIdxLE_total htotal)
    items.zipIdx
  have hplaces : (items.zipIdx.mergeSort (zipIdxLE fun a b => cmp a b != .gt)).Pairwise
      (·.2 ≠ ·.2) := by
    refine ((List.mergeSort_perm _ _).pairwise_iff Ne.symm).mpr ?_
    exact (pairwise_zipIdx items).imp Nat.ne_of_lt
  refine (hsorted.and hplaces).imp fun {a b} ⟨hle, hne⟩ => ?_
  cases hcmp : cmp a.1 b.1 with
  | lt => exact .inl hcmp
  | eq =>
    have hback : cmp b.1 a.1 = .eq := by rw [← h.swap, hcmp]; rfl
    have hplace : a.2 ≤ b.2 := by simpa [zipIdxLE, hcmp, hback] using hle
    exact .inr ⟨hcmp, Nat.lt_of_le_of_ne hplace hne⟩
  | gt => simp [zipIdxLE, hcmp] at hle

/-! ### Both -/

theorem stable_map (f : β → α) (items : List β) :
    (stable (fun a b => cmp (f a) (f b)) items).map f = stable cmp (items.map f) := by
  unfold stable
  rw [List.length_map]
  split
  · exact insertion_map f items
  · exact List.map_mergeSort fun _ _ _ _ => rfl

/-- The sorted items with the places that they come from. -/
theorem stable_entries (h : IsPreorder cmp) (items : List α) :
    ∃ entries : List (α × Nat), entries.Perm items.zipIdx ∧
      entries.map Prod.fst = stable cmp items ∧ entries.Pairwise (Before cmp) := by
  unfold stable
  split
  · refine ⟨_, insertion_perm _ items.zipIdx, ?_, pairwise_insertion h ?_⟩
    · rw [insertion_map Prod.fst, List.zipIdx_map_fst]
    · exact pairwise_zipIdx items
  · exact ⟨_, List.mergeSort_perm _ _, List.mergeSort_zipIdx, pairwise_mergeSort h items⟩

/-- The same for a comparison that is a preorder among the items. -/
theorem stable_entries_of_mem {P : α → Prop} (h : IsPreorder fun a b : {a // P a} => cmp a b)
    {items : List α} (hitems : ∀ item ∈ items, P item) :
    ∃ entries : List (α × Nat), entries.Perm items.zipIdx ∧
      entries.map Prod.fst = stable cmp items ∧ entries.Pairwise (Before cmp) := by
  obtain ⟨entries, hperm, hfst, hsorted⟩ := stable_entries h (items.attachWith P hitems)
  have hitems : (items.attachWith P hitems).map Subtype.val = items := by simp
  refine ⟨entries.map (Prod.map Subtype.val id), ?_, ?_, ?_⟩
  · rw [← hitems, List.zipIdx_map]
    exact hperm.map _
  · have hmap : (entries.map (Prod.map Subtype.val id)).map Prod.fst =
        (entries.map Prod.fst).map Subtype.val := by simp
    rw [hmap, hfst, stable_map, hitems]
  · exact List.pairwise_map.mpr hsorted

end DocQuery.Sorting
