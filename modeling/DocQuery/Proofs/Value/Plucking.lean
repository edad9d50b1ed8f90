import DocQuery.Proofs.Value.Requests
import Mathlib.Data.List.Forall2

/-! Plucking again.

What is plucked from an object is a part of it: some of its fields, each as it was or a part of
what it was. A part asks no more of the selectors than the whole, so they fail on it only if they
fail on the whole (`pick_of_partOf`). The second pluck meets other values than the first one, but
where several selectors pick one field it is the last one that counts in both, and what this one
has picked it picks again (`pluck_pluck`). -/
namespace DocQuery.Json

/-! ### What requests take -/

/-- A request takes a field as it is, or what its selector picks of the object in it. -/
inductive Request.Takes (fields : Fields Json) : Request → String → Json → Prop
  | whole {key : String} {found : Json} (h : Fields.get? fields key = some found) :
    Takes fields (.whole key) key found
  | part {key : String} {inner : Json} {nested picked : Fields Json}
    (h : Fields.get? fields key = some (.object nested))
    (hpick : pick nested [] inner = .ok picked) :
    Takes fields (.part key inner) key (.object picked)

section Taking
variable {fields out : Fields Json} {selector : Json} {request : Request} {key : String}
  {value : Json}

theorem Request.takes_of_take? (h : request.take? fields = .ok (some (key, value))) :
    request.Takes fields key value := by
  cases request with
  | whole name =>
    obtain ⟨found, hfound, heq⟩ := Option.map_eq_some_iff.mp (Except.ok.inj h)
    cases heq
    exact .whole hfound
  | part name inner =>
    simp only [take?] at h
    split at h
    · next nested hfound =>
      obtain ⟨picked, hpick, h⟩ := bind_eq_ok h
      cases h
      exact .part hfound hpick
    · cases h
  | invalid selector => cases h

theorem Request.Takes.key?_eq (h : request.Takes fields key value) : request.key? = some key := by
  cases h <;> rfl

/-- Nothing is taken of a field that is not there. -/
theorem Request.take?_of_missing (hkey : request.key? = some key)
    (hmissing : Fields.get? fields key = none) : request.take? fields = .ok none := by
  cases request with
  | whole name =>
    cases hkey
    exact congrArg (fun found? => Except.ok (Option.map (key, ·) found?)) hmissing
  | part name inner =>
    cases hkey
    simp only [take?, hmissing]
  | invalid selector => cases hkey

/-- What is found in a pluck was taken by one of its requests. -/
theorem exists_takes_of_get? (h : pick fields [] selector = .ok out)
    (hfound : Fields.get? out key = some value) :
    ∃ request ∈ requests selector, request.Takes fields key value := by
  obtain ⟨taken, htaken, rfl⟩ := pick_eq_ok.mp h
  rw [Fields.get?_ofList] at hfound
  have hmem : some (key, value) ∈ taken :=
    List.reduceOption_mem_iff.mp (List.mem_reverse.mp (Fields.mem_of_get? hfound))
  obtain ⟨request, hrequest, htake⟩ := mem_of_mapM (mapM_eq_ok_iff.mpr htaken) hmem
  exact ⟨request, hrequest, Request.takes_of_take? htake⟩

/-- A field that a request takes is found in the pluck, as some request has taken it. -/
theorem exists_get?_of_take? (h : pick fields [] selector = .ok out)
    (hrequest : request ∈ requests selector)
    (htake : request.take? fields = .ok (some (key, value))) :
    ∃ found, Fields.get? out key = some found := by
  obtain ⟨taken, htaken, rfl⟩ := pick_eq_ok.mp h
  obtain ⟨part?, hpart, hsame⟩ := exists_of_forall₂ htaken hrequest
  obtain rfl := Except.ok.inj (htake.symm.trans hsame)
  rw [Fields.get?_ofList, ← Option.isSome_iff_exists]
  show Fields.has taken.reduceOption.reverse key = true
  rw [Fields.has_eq, decide_eq_true_iff]
  exact List.mem_map_of_mem (List.mem_reverse.mpr (List.reduceOption_mem_iff.mpr hpart))

end Taking

/-! ### Parts -/

/-- A value or a part of it: an object with some of the fields, or with parts of them. -/
inductive PartOf : Json → Json → Prop
  | refl (a : Json) : PartOf a a
  | object {parts fields : Fields Json}
    (hkeys : ∀ key part, Fields.get? parts key = some part →
      ∃ found, Fields.get? fields key = some found)
    (h : ∀ key part found, Fields.get? parts key = some part →
      Fields.get? fields key = some found → PartOf part found) :
    PartOf (.object parts) (.object fields)

theorem PartOf.get? {parts fields : Fields Json} (h : PartOf (.object parts) (.object fields))
    {key : String} {part : Json} (hpart : Fields.get? parts key = some part) :
    ∃ found, Fields.get? fields key = some found ∧ PartOf part found := by
  cases h with
  | refl => exact ⟨part, hpart, .refl part⟩
  | object hkeys h =>
    obtain ⟨found, hfound⟩ := hkeys key part hpart
    exact ⟨found, hfound, h key part found hpart hfound⟩

/-- What is picked from an object is a part of it. -/
theorem partOf_pick (selector : Json) : ∀ {fields out : Fields Json},
    pick fields [] selector = .ok out → PartOf (.object out) (.object fields) := by
  induction selector using selector_induction with
  | h selector ih =>
    intro fields out h
    have hpart : ∀ key part, Fields.get? out key = some part →
        ∃ found, Fields.get? fields key = some found ∧ PartOf part found := by
      intro key part hpart
      obtain ⟨request, hrequest, htakes⟩ := exists_takes_of_get? h hpart
      cases htakes with
      | whole hfound => exact ⟨part, hfound, .refl part⟩
      | part hfound hpick => exact ⟨_, hfound, ih _ _ hrequest hpick⟩
    refine .object (fun key part hkey => ?_) fun key part found hkey hfound => ?_
    · obtain ⟨found, hfound, -⟩ := hpart key part hkey
      exact ⟨found, hfound⟩
    · obtain ⟨other, hother, hof⟩ := hpart key part hkey
      cases hother.symm.trans hfound
      exact hof

/-- A request that can be made of an object can be made of every part of it. -/
theorem Request.take?_of_partOf {fields parts : Fields Json}
    (hpart : PartOf (.object parts) (.object fields)) {request : Request}
    (hinner : ∀ key inner, request = .part key inner → ∀ {fields parts out : Fields Json},
      PartOf (.object parts) (.object fields) → pick fields [] inner = .ok out →
        ∃ picked, pick parts [] inner = .ok picked)
    {part? : Option (String × Json)} (h : request.take? fields = .ok part?) :
    ∃ again?, request.take? parts = .ok again? := by
  cases request with
  | whole key => exact ⟨_, rfl⟩
  | part key inner =>
    simp only [take?]
    split
    · next nested hnested =>
      obtain ⟨found, hfound, hof⟩ := hpart.get? hnested
      obtain ⟨whole, rfl⟩ : ∃ whole, found = .object whole := by
        cases hof <;> exact ⟨_, rfl⟩
      simp only [take?, hfound] at h
      obtain ⟨out, hout, -⟩ := bind_eq_ok h
      obtain ⟨picked, hpicked⟩ := hinner key inner rfl hof hout
      rw [hpicked]
      exact ⟨_, rfl⟩
    · exact ⟨none, rfl⟩
  | invalid selector => cases h

/-- A selector that picks from an object picks from every part of it. -/
theorem pick_of_partOf (selector : Json) : ∀ {fields parts out : Fields Json},
    PartOf (.object parts) (.object fields) → pick fields [] selector = .ok out →
      ∃ picked, pick parts [] selector = .ok picked := by
  induction selector using selector_induction with
  | h selector ih =>
    intro fields parts out hpart h
    obtain ⟨taken, htaken, -⟩ := pick_eq_ok.mp h
    obtain ⟨again, hagain, -⟩ := forall₂_extend (T := fun _ _ => True) htaken
      fun request hrequest part? htake => by
        obtain ⟨again?, hagain⟩ := Request.take?_of_partOf hpart
          (fun key inner heq => ih key inner (heq ▸ hrequest)) htake
        exact ⟨again?, hagain, trivial⟩
    exact ⟨_, pick_eq_ok.mpr ⟨again, hagain, rfl⟩⟩

/-! ### The second pluck -/

/-- A request that is made again takes the same field, and the same of it if what it took is what
is there. -/
def Refinds (out : Fields Json) (part? again? : Option (String × Json)) : Prop :=
  part?.map Prod.fst = again?.map Prod.fst ∧
    ∀ key value, part? = some (key, value) → Fields.get? out key = some value → again? = part?

theorem Request.take?_again {selector : Json} {fields out : Fields Json}
    (h : pick fields [] selector = .ok out) {request : Request}
    (hrequest : request ∈ requests selector)
    (ih : ∀ key inner, request = .part key inner → ∀ {fields out : Fields Json},
      pick fields [] inner = .ok out → pick out [] inner = .ok out)
    {part? : Option (String × Json)} (htake : request.take? fields = .ok part?) :
    ∃ again?, request.take? out = .ok again? ∧ Refinds out part? again? := by
  cases hkey : request.key? with
  | none =>
    cases request with
    | invalid selector => cases htake
    | _ => cases hkey
  | some key =>
    cases hout : Fields.get? out key with
    | none =>
      refine ⟨none, take?_of_missing hkey hout, ?_⟩
      cases part? with
      | none => exact ⟨rfl, nofun⟩
      | some part =>
        obtain ⟨value, hvalue⟩ := exists_get?_of_take? h hrequest htake
        cases hkey.symm.trans (takes_of_take? htake).key?_eq
        cases hout.symm.trans hvalue
    | some value =>
      obtain ⟨found, hfound, hof⟩ := (partOf_pick selector h).get? hout
      cases request with
      | whole name =>
        cases hkey
        simp only [take?, hfound, Option.map_some] at htake
        obtain rfl := Except.ok.inj htake
        refine ⟨some (key, value), by simp only [take?, hout, Option.map_some], rfl, ?_⟩
        intro name other heq hother
        cases heq
        cases hout.symm.trans hother
        rfl
      | part name inner =>
        cases hkey
        cases hof with
        | refl =>
          simp only [take?, hfound] at htake
          exact ⟨part?, by simp only [take?, hout]; exact htake, rfl, fun _ _ _ _ => rfl⟩
        | @object kept nested hkeys hparts =>
          simp only [take?, hfound] at htake
          obtain ⟨picked, hpicked, htake⟩ := bind_eq_ok htake
          obtain rfl := Except.ok.inj htake
          obtain ⟨again, hagain⟩ := pick_of_partOf inner (.object hkeys hparts) hpicked
          refine ⟨some (key, .object again), by simp only [take?, hout, hagain]; rfl, rfl, ?_⟩
          -- If the request decides what is there, it meets what it has picked.
          intro name other heq hother
          cases heq
          cases hout.symm.trans hother
          cases (ih key inner rfl hpicked).symm.trans hagain
          rfl
      | invalid selector => cases hkey

/-- Where what was taken first decides what is there, what is taken again decides the same. -/
theorem get?_of_refinds {out : Fields Json} {taken again : List (Option (String × Json))}
    (h : List.Forall₂ (Refinds out) taken again) {key : String}
    (hout : Fields.get? taken.reduceOption key = Fields.get? out key) :
    Fields.get? again.reduceOption key = Fields.get? out key := by
  induction h with
  | nil => exact hout
  | @cons part? again? taken again hrefinds _ ih =>
    obtain ⟨hkeys, hsame⟩ := hrefinds
    cases part? with
    | none =>
      obtain rfl : again? = none := Option.map_eq_none_iff.mp hkeys.symm
      exact ih hout
    | some part =>
      obtain ⟨⟨name, value⟩, rfl, rfl⟩ := Option.map_eq_some_iff.mp hkeys.symm
      obtain ⟨name, first⟩ := part
      rw [List.reduceOption_cons_of_some, Fields.get?_cons] at hout ⊢
      by_cases heq : key = name
      · rw [if_pos heq] at hout ⊢
        cases hsame name first rfl (heq ▸ hout.symm)
        exact hout
      · rw [if_neg heq] at hout ⊢
        exact ih hout

/-- Picking from what was picked picks all of it. -/
theorem pick_again (selector : Json) : ∀ {fields out : Fields Json},
    pick fields [] selector = .ok out → pick out [] selector = .ok out := by
  induction selector using selector_induction with
  | h selector ih =>
    intro fields out h
    obtain ⟨taken, htaken, hout⟩ := pick_eq_ok.mp h
    obtain ⟨again, hagain, hsame⟩ := forall₂_extend htaken fun request hrequest part? htake =>
      Request.take?_again h hrequest (fun key inner heq => ih key inner (heq ▸ hrequest)) htake
    refine pick_eq_ok.mpr ⟨again, hagain, ?_⟩
    have hreverse : ∀ parts : List (Option (String × Json)),
        parts.reduceOption.reverse = parts.reverse.reduceOption := fun parts =>
      List.filterMap_reverse.symm
    have hlast : ∀ key, Fields.get? taken.reverse.reduceOption key = Fields.get? out key := by
      intro key
      rw [hout, Fields.get?_ofList, hreverse]
    refine Fields.Ascending.ext (hout ▸ Fields.ascending_ofList _) (Fields.ascending_ofList _) ?_
    intro key
    rw [Fields.get?_ofList, hreverse]
    exact (get?_of_refinds (List.forall₂_reverse_iff.mpr hsame) (hlast key)).symm

/-- Plucking is idempotent: what is plucked from an object can be plucked by the same selectors,
and is what comes out. -/
theorem pluck_pluck {value picked : Json} {selectors : List Json}
    (h : value.pluck selectors = .ok picked) : picked.pluck selectors = .ok picked := by
  obtain ⟨fields, -, h⟩ := bind_eq_ok h
  obtain ⟨out, hout, h⟩ := bind_eq_ok h
  cases h
  rw [pluck_object, pick_again (.array selectors) hout]
  rfl

/-- Two paths lead into one object, and the second one overwrites what the first one has picked. A
name and a path without a goal stand between them. -/
theorem pluck_pluck_overlapping :
    let path (inner : Json) := Json.object [("a", inner)]
    let value := Json.object [("a", .object [("b", .ofNat 1), ("c", .ofNat 2)]), ("d", .ofNat 3)]
    let selectors := [.array [path (.object [("b", .bool true)])], .string "d",
      .object [("d", .ofNat 0)], path (.array [.string "c", .string "x"])]
    let picked := Json.object [("a", .object [("c", .ofNat 2)]), ("d", .ofNat 3)]
    value.pluck selectors = .ok picked ∧ picked.pluck selectors = .ok picked := by
  intro path value selectors picked
  have hpicked : value.pluck selectors = .ok picked := by decide +kernel
  exact ⟨hpicked, pluck_pluck hpicked⟩

end DocQuery.Json
