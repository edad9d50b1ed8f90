import DocQuery.Proofs.Run.Outcome
import DocQuery.Proofs.Value.Sets
import DocQuery.Run.Aggregate
import Mathlib.Algebra.GroupWithZero.Nat
import Mathlib.Data.List.Induction

/-! Groups partition what is grouped.

Items are put one after another into the first group whose key equals their own. At each step the
groups have pairwise different keys, and each holds the items that have its key and no others
(`Grouped`). One more item keeps this up (`Grouped.add`), so it holds of all of them, and sorting
the groups by their keys in the end moves whole groups only. Keys are compared by an equality that
is coarser than identity, so their times have to be proper. -/
namespace DocQuery
open Json

namespace Call

/-! ### One more item -/

/-- An item goes to the first group whose key equals its own, and makes a group where there is
no such one. -/
theorem Groups.add_cases (groups : Groups) (key item : Json) :
    (∃ front group back, groups = front ++ group :: back ∧ group.1.equals key = true ∧
      groups.add key item = front ++ (group.1, item :: group.2) :: back) ∨
    (∀ group ∈ groups, group.1.equals key = false) ∧
      groups.add key item = groups ++ [(key, [item])] := by
  induction groups with
  | nil => exact .inr ⟨nofun, rfl⟩
  | cons group rest ih =>
    obtain ⟨k, items⟩ := group
    rw [Groups.add]
    cases hkey : k.equals key with
    | true => exact .inl ⟨[], (k, items), rest, rfl, hkey, rfl⟩
    | false =>
      rcases ih with ⟨front, group, back, rfl, hequal, hadd⟩ | ⟨hdiffer, hadd⟩
      · refine .inl ⟨(k, items) :: front, group, back, rfl, hequal, ?_⟩
        simp [hadd]
      · refine .inr ⟨List.forall_mem_cons.mpr ⟨hkey, hdiffer⟩, ?_⟩
        simp [hadd]

/-- The items with a key, of a list of keys and items. -/
def itemsOf (entries : List (Json × Json)) (key : Json) : List Json :=
  (entries.filter (·.1.equals key)).map Prod.snd

/-- The groups are those of the items with their keys. -/
structure Grouped (entries : List (Json × Json)) (groups : Groups) : Prop where
  differ : (groups.map Prod.fst).Pairwise fun a b => a.equals b = false
  named : groups.map Prod.fst ⊆ entries.map Prod.fst
  covers : ∀ key ∈ entries.map Prod.fst, ∃ k ∈ groups.map Prod.fst, k.equals key = true
  items : ∀ group ∈ groups, group.2.reverse = itemsOf entries group.1
  sizes : (groups.map fun group => group.2.length).sum = entries.length

theorem itemsOf_concat (entries : List (Json × Json)) (key item wanted : Json) :
    itemsOf (entries ++ [(key, item)]) wanted =
      itemsOf entries wanted ++ if key.equals wanted then [item] else [] := by
  unfold itemsOf
  rw [List.filter_append, List.map_append]
  cases h : key.equals wanted <;> simp [h]

namespace Grouped
variable {entries : List (Json × Json)} {groups : Groups}

theorem nil : Grouped [] [] := ⟨.nil, fun _ h => h, nofun, nofun, rfl⟩

theorem ne_nil (h : Grouped entries groups) : ∀ group ∈ groups, group.2 ≠ [] := by
  intro group hgroup hnil
  obtain ⟨entry, hentry, hkey⟩ := List.mem_map.mp (h.named (List.mem_map_of_mem hgroup))
  have hitem : entry ∈ entries.filter (·.1.equals group.1) :=
    List.mem_filter.mpr ⟨hentry, hkey ▸ equals_self entry.1⟩
  have hitems : itemsOf entries group.1 = [] := by
    rw [← h.items group hgroup, hnil]
    rfl
  rw [itemsOf, List.map_eq_nil_iff] at hitems
  rw [hitems] at hitem
  cases hitem

/-- No item has a key that no group has. -/
theorem itemsOf_eq_nil (h : Grouped entries groups)
    (hproper : ∀ key ∈ entries.map Prod.fst, key.Proper) {key : Json} (hkey : key.Proper)
    (hdiffer : ∀ k ∈ groups.map Prod.fst, k.equals key = false) : itemsOf entries key = [] := by
  rw [itemsOf, List.map_eq_nil_iff, List.filter_eq_nil_iff]
  intro entry hentry hequal
  have hmem := List.mem_map_of_mem (f := Prod.fst) hentry
  obtain ⟨k, hk, hcover⟩ := h.covers entry.1 hmem
  have hsame := equals_trans (hproper k (h.named hk)) (hproper _ hmem) hkey hcover hequal
  rw [hdiffer k hk] at hsame
  cases hsame

/-- An item that goes to its group leaves the other groups as they are: their keys do not equal
that of the item, since they do not equal that of the group. -/
theorem join {front back : Groups} {group : Json × List Json}
    (h : Grouped entries (front ++ group :: back))
    (hproper : ∀ key ∈ entries.map Prod.fst, key.Proper) {key : Json} (hkey : key.Proper)
    (hequal : group.1.equals key = true) (item : Json) :
    Grouped (entries ++ [(key, item)]) (front ++ (group.1, item :: group.2) :: back) := by
  have hkeys : (front ++ (group.1, item :: group.2) :: back).map Prod.fst =
      (front ++ group :: back).map Prod.fst := by simp
  have hentries : (entries ++ [(key, item)]).map Prod.fst = entries.map Prod.fst ++ [key] := by simp
  have hnamed : ∀ other ∈ front ++ group :: back, other.1.Proper := fun other hother =>
    hproper _ (h.named (List.mem_map_of_mem hother))
  have hgroup : group ∈ front ++ group :: back := by simp
  have hdiffer : ∀ other ∈ front ++ back, group.1.equals other.1 = false := by
    have hpairs := List.pairwise_map.mp h.differ
    have hmiddle := List.pairwise_middle (fun hab => equals_comm _ _ ▸ hab) |>.mp hpairs
    exact (List.pairwise_cons.mp hmiddle).1
  have hother : ∀ other ∈ front ++ back, itemsOf (entries ++ [(key, item)]) other.1 =
      itemsOf entries other.1 := by
    intro other hother
    have hmem : other ∈ front ++ group :: back := by
      simp only [List.mem_append, List.mem_cons] at hother ⊢
      tauto
    rw [itemsOf_concat]
    cases hsame : key.equals other.1 with
    | false => simp
    | true =>
      have htrans := equals_trans (hnamed group hgroup) hkey (hnamed other hmem) hequal hsame
      rw [hdiffer other hother] at htrans
      cases htrans
  refine ⟨hkeys ▸ h.differ, ?_, ?_, ?_, ?_⟩
  · rw [hkeys, hentries]
    exact List.subset_append_of_subset_left _ h.named
  · rw [hkeys, hentries]
    refine List.forall_mem_append.mpr ⟨h.covers, List.forall_mem_singleton.mpr ?_⟩
    exact ⟨group.1, List.mem_map_of_mem hgroup, hequal⟩
  · intro other hmem
    rcases List.mem_append.mp hmem with hfront | hmem
    · rw [hother other (List.mem_append_left _ hfront)]
      exact h.items other (List.mem_append_left _ hfront)
    · rcases List.mem_cons.mp hmem with rfl | hback
      · rw [itemsOf_concat, ← h.items group hgroup, equals_comm, hequal]
        simp
      · rw [hother other (List.mem_append_right _ hback)]
        exact h.items other (List.mem_append_right _ (List.mem_cons_of_mem _ hback))
  · have hsizes := h.sizes
    simp only [List.map_append, List.map_cons, List.sum_append, List.sum_cons, List.length_append,
      List.length_cons, List.length_nil] at hsizes ⊢
    omega

/-- An item whose key no group has makes a group of its own. -/
theorem make (h : Grouped entries groups) (hproper : ∀ key ∈ entries.map Prod.fst, key.Proper)
    {key : Json} (hkey : key.Proper) (hdiffer : ∀ group ∈ groups, group.1.equals key = false)
    (item : Json) : Grouped (entries ++ [(key, item)]) (groups ++ [(key, [item])]) := by
  have hnone : ∀ k ∈ groups.map Prod.fst, k.equals key = false := by simpa using hdiffer
  refine ⟨?_, ?_, ?_, ?_, ?_⟩
  · rw [List.map_append]
    refine List.pairwise_append.mpr ⟨h.differ, List.pairwise_singleton _ _, ?_⟩
    exact fun k hk _ hlast => List.mem_singleton.mp hlast ▸ hnone k hk
  · rw [List.map_append, List.map_append]
    exact List.append_subset.mpr ⟨List.subset_append_of_subset_left _ h.named,
      List.subset_append_right _ _⟩
  · rw [List.map_append, List.map_append]
    refine List.forall_mem_append.mpr ⟨fun k hk => ?_, List.forall_mem_singleton.mpr ?_⟩
    · obtain ⟨found, hfound, hcover⟩ := h.covers k hk
      exact ⟨found, List.mem_append_left _ hfound, hcover⟩
    · exact ⟨key, List.mem_append_right _ (List.mem_singleton_self key), equals_self key⟩
  · refine List.forall_mem_append.mpr ⟨fun group hgroup => ?_, List.forall_mem_singleton.mpr ?_⟩
    · rw [itemsOf_concat, h.items group hgroup, equals_comm, hdiffer group hgroup]
      simp
    · rw [itemsOf_concat, h.itemsOf_eq_nil hproper hkey hnone, equals_self]
      rfl
  · simp [h.sizes]

/-- One more item keeps the groups those of the items. -/
theorem add (h : Grouped entries groups) (hproper : ∀ key ∈ entries.map Prod.fst, key.Proper)
    {key : Json} (hkey : key.Proper) (item : Json) :
    Grouped (entries ++ [(key, item)]) (groups.add key item) := by
  rcases groups.add_cases key item with ⟨front, group, back, rfl, hequal, hadd⟩ | ⟨hdiffer, hadd⟩
  · exact hadd ▸ h.join hproper hkey hequal item
  · exact hadd ▸ h.make hproper hkey hdiffer item

end Grouped

/-! ### All items -/

/-- The groups of items with their keys, put in one after another. -/
def collect (entries : List (Json × Json)) : Groups :=
  entries.foldl (fun groups entry => groups.add entry.1 entry.2) []

theorem grouped_collect {entries : List (Json × Json)}
    (hproper : ∀ key ∈ entries.map Prod.fst, key.Proper) : Grouped entries (collect entries) := by
  induction entries using List.reverseRecOn with
  | nil => exact .nil
  | append_singleton rest entry ih =>
    rw [List.map_append, List.forall_mem_append] at hproper
    have hkey : entry.1.Proper := hproper.2 entry.1 (by simp)
    unfold collect at ih ⊢
    rw [List.foldl_append]
    exact (ih hproper.1).add hproper.1 hkey entry.2

/-- Rows with a key each fall into groups: the keys of the groups rise strictly, each group has
exactly the rows with its key, in their order, and no row is in no group or in two of them. -/
structure Partitions (keys rows : List Json) (groups : List (Json × List Json)) : Prop where
  rising : Rising (groups.map Prod.fst)
  ne_nil : ∀ group ∈ groups, group.2 ≠ []
  items : ∀ group ∈ groups, group.2 = itemsOf (keys.zip rows) group.1
  sizes : (groups.map fun group => group.2.length).sum = rows.length

/-- The groups in order of their keys, each with its items from the first to the last. -/
def arranged (groups : Groups) : List (Json × List Json) :=
  (Sorting.stable (fun a b => a.1.order b.1) groups).map fun group => (group.1, group.2.reverse)

theorem rising_arranged {entries : List (Json × Json)} {groups : Groups}
    (h : Grouped entries groups) (hproper : ∀ key ∈ entries.map Prod.fst, key.Proper) :
    Rising ((arranged groups).map Prod.fst) := by
  have hkeys : (arranged groups).map Prod.fst = Sorting.stable order (groups.map Prod.fst) := by
    rw [arranged, List.map_map, ← Sorting.stable_map]
    rfl
  have hsorted : (Sorting.stable order (groups.map Prod.fst)).Pairwise fun a b => order a b ≠ .gt :=
    pairwise_stable fun key hkey => hproper key (h.named hkey)
  have hdiffer : (Sorting.stable order (groups.map Prod.fst)).Pairwise fun a b =>
      equals b a = false := by
    refine ((Sorting.stable_perm _ _).pairwise_iff fun hab => equals_comm _ _ ▸ hab).mpr ?_
    exact h.differ.imp fun hab => equals_comm _ _ ▸ hab
  rw [hkeys]
  exact (hsorted.and hdiffer).imp fun ⟨hle, hne⟩ => order_lt_of_not_equals hle hne

theorem partitions_arranged {keys rows : List Json} (hlength : keys.length = rows.length)
    (hproper : ∀ key ∈ keys, key.Proper) :
    Partitions keys rows (arranged (collect (keys.zip rows))) := by
  have hfst : (keys.zip rows).map Prod.fst = keys := List.map_fst_zip (by omega)
  have hgrouped : Grouped (keys.zip rows) (collect (keys.zip rows)) :=
    grouped_collect (hfst.symm ▸ hproper)
  have hmem : ∀ group ∈ arranged (collect (keys.zip rows)),
      ∃ made ∈ collect (keys.zip rows), group = (made.1, made.2.reverse) := by
    intro group hgroup
    obtain ⟨made, hmade, rfl⟩ := List.mem_map.mp hgroup
    exact ⟨made, (Sorting.stable_perm _ _).mem_iff.mp hmade, rfl⟩
  refine ⟨rising_arranged hgrouped (hfst.symm ▸ hproper), ?_, ?_, ?_⟩
  · intro group hgroup hnil
    obtain ⟨made, hmade, rfl⟩ := hmem group hgroup
    exact hgrouped.ne_nil made hmade (List.reverse_eq_nil_iff.mp hnil)
  · intro group hgroup
    obtain ⟨made, hmade, rfl⟩ := hmem group hgroup
    exact hgrouped.items made hmade
  · have hsizes : (arranged (collect (keys.zip rows))).map (fun group => group.2.length) =
        (Sorting.stable (fun a b => a.1.order b.1) (collect (keys.zip rows))).map
          fun group => group.2.length := by
      simp [arranged]
    rw [hsizes, ((Sorting.stable_perm _ _).map _).sum_nat, hgrouped.sizes, List.length_zip]
    omega

end Call

/-! ### Grouped data -/

namespace Json

/-- Grouped data: the key of each group with its items. -/
def ofGroups (groups : List (Json × List Json)) : Json :=
  .object [(tagKey, .string "GROUPED_DATA"),
    ("data", .array (groups.map fun group => .array [group.1, .array group.2]))]

theorem ofFields_pair {j k : String} (h : j < k) (a b : Json) :
    ofFields [(j, a), (k, b)] = .object [(j, a), (k, b)] := by
  have hnot : ¬ k < j := String.lt_asymm h
  have hne : k ≠ j := by
    rintro rfl
    exact hnot h
  simp [ofFields, Fields.ofList, Fields.insert, hnot, hne]

/-- The groups as objects. -/
def ofPairs (groups : List (Json × List Json)) : Json :=
  .array (groups.map fun group => .object [("group", group.1), ("reduction", .array group.2)])

end Json

namespace Call
variable {call : Call} {rows : List Json} {context : Run.Context} {state after : Run.State}

theorem toJson_eq (groups : Groups) : groups.toJson = ofGroups (arranged groups) := by
  have hkeys : tagKey < "data" := by decide +kernel
  rw [ofGroups, arranged, List.map_map, ← ofFields_pair hkeys]
  rfl

theorem ungroup_ofGroups (groups : List (Json × List Json)) :
    ungroup (ofGroups groups) = .ok (ofPairs groups) := by
  have hkeys : "group" < "reduction" := by decide +kernel
  have hgrouped : (ofGroups groups).isGrouped = true := by
    simp [ofGroups, isGrouped, tag?, Fields.get?_cons, string?]
  have hdata : (ofGroups groups).field? "data" =
      some (.array (groups.map fun group => .array [group.1, .array group.2])) := by
    simp [ofGroups, Fields.get?_cons, tagKey]
  unfold ungroup
  rw [hgrouped, hdata]
  show Except.ok (Json.array (List.filterMap _ (groups.map _))) = _
  rw [List.filterMap_map, ofPairs, ← List.filterMap_eq_map]
  refine congrArg (fun pairs => Except.ok (Json.array pairs)) ?_
  exact List.filterMap_congr fun group _ => congrArg some (ofFields_pair hkeys _ _)

/-- What a call groups by: the field of the index, if there is one, and its arguments. -/
def groupSelectors (call : Call) (index? : Option (String × Bool)) : List Operand :=
  (index?.map fun (field, _) => Operand.ofValue (.string field)).toList ++
    call.rest.map Argument.toOperand

/-- Grouping works out the key of each row in turn, and then collects the rows by them. -/
theorem foldlM_add (selectors : List Operand) (rows : List Json) (groups : Groups) :
    (rows.foldlM (fun (groups : Groups) item => do
      return groups.add (← groupKey selectors item) item) groups : Run Groups) = do
        let keys ← rows.mapM (groupKey selectors)
        return (keys.zip rows).foldl (fun groups entry => groups.add entry.1 entry.2) groups := by
  induction rows generalizing groups with
  | nil => simp
  | cons row rest ih =>
    simp only [List.foldlM_cons, List.mapM_cons, ih, bind_assoc, pure_bind, List.zip_cons_cons,
      List.foldl_cons]

theorem keys_of_outcome_group {result : Json}
    (h : (call.group (.array rows)).outcome context state = (.ok result, after)) :
    ∃ index? keys, call.index? = .ok index? ∧ call.groupSelectors index? ≠ [] ∧
      (rows.mapM (groupKey (call.groupSelectors index?))).outcome context state =
        (.ok keys, after) ∧
      result = ofGroups (arranged (collect (keys.zip rows))) := by
  obtain ⟨index?, between, hindex, h⟩ := Run.outcome_bind_eq_ok h
  rw [Run.outcome_lift] at hindex
  obtain ⟨hread, rfl⟩ := Prod.mk.inj hindex
  change (if (call.groupSelectors index?).isEmpty then throw .selectorMissing >>= _
    else rows.foldlM _ [] >>= fun groups : Groups => pure groups.toJson : Run Json).outcome context
      _ = _ at h
  split at h
  · cases h
  · next hsome =>
    rw [foldlM_add, bind_assoc] at h
    obtain ⟨keys, _, hkeys, h⟩ := Run.outcome_bind_eq_ok h
    cases h
    exact ⟨index?, keys, hread, by simpa using hsome, hkeys, toJson_eq _⟩

end Call

end DocQuery
