import DocQuery.Proofs.Value.Plucking

/-! Plucking fields that are there.

Selectors pick without failing from an object that has what they ask for. But where several of
them pick from one field, the last one overwrites what the others have picked, so what is left has
all that was asked for only if the last one asks for it all (`covers`). This is for the selectors
to say: it is the same for every object that has the fields (`hasFields_of_pluck`). -/
namespace DocQuery.Json

/-! ### Fields that are taken -/

section Taking
variable {fields : Fields Json} {request : Request} {key : String} {value : Json}

theorem Request.Takes.take?_eq (h : request.Takes fields key value) :
    request.take? fields = .ok (some (key, value)) := by
  cases h with
  | whole hfound => simp only [take?, hfound, Option.map_some]
  | part hfound hpick =>
    simp only [take?, hfound, hpick]
    rfl

/-- A request that finds what it asks for takes it, if its selector can be worked off. -/
theorem Request.takes_of_holds (h : request.holds fields = true)
    (ih : ∀ key inner, request = .part key inner → ∀ {nested : Fields Json},
      Json.holds nested inner = true → ∃ picked, pick nested [] inner = .ok picked) :
    ∃ entry : String × Json, request.Takes fields entry.1 entry.2 := by
  cases request with
  | whole key =>
    obtain ⟨found, hfound, -⟩ := (Option.any_eq_true _ _).mp h
    exact ⟨(key, found), .whole hfound⟩
  | part key inner =>
    simp only [holds] at h
    split at h
    · next nested hnested =>
      obtain ⟨picked, hpicked⟩ := ih key inner rfl h
      exact ⟨(key, .object picked), .part hnested hpicked⟩
    · cases h
  | invalid selector => cases h

theorem Request.holds_of_mem {selector : Json} (h : Json.holds fields selector = true)
    (hrequest : request ∈ requests selector) : request.holds fields = true := by
  rw [holds_eq] at h
  exact List.all_eq_true.mp h request hrequest

end Taking

/-- From an object that has what is asked for, each request takes a field. -/
theorem pick_of_holds (selector : Json) : ∀ {fields : Fields Json}, holds fields selector = true →
    ∃ entries : Fields Json,
      List.Forall₂ (fun request entry => request.Takes fields entry.1 entry.2)
        (requests selector) entries ∧
      pick fields [] selector = .ok (Fields.ofList entries) := by
  induction selector using selector_induction with
  | h selector ih =>
    intro fields h
    obtain ⟨entries, hentries⟩ := exists_forall₂
      (R := fun (request : Request) (entry : String × Json) =>
        request.Takes fields entry.1 entry.2)
      fun request hrequest => Request.takes_of_holds (Request.holds_of_mem h hrequest)
        fun key inner heq nested hnested => by
          obtain ⟨below, -, hpick⟩ := ih key inner (heq ▸ hrequest) hnested
          exact ⟨_, hpick⟩
    refine ⟨entries, hentries, pick_eq_ok.mpr ⟨entries.map some, ?_, ?_⟩⟩
    · exact List.forall₂_map_right_iff.mpr (hentries.imp fun _ _ htakes => htakes.take?_eq)
    · unfold List.reduceOption
      rw [List.filterMap_map]
      exact congrArg Fields.ofList (List.filterMap_some).symm

/-! ### The last request for a field -/

/-- The last request of a selector for a field. -/
def lastRequest? (selector : Json) (key : String) : Option Request :=
  (requests selector).reverse.find? fun request => request.key? = some key

/-- The first request for a field decides which of the entries is found under its key. -/
theorem get?_of_takes {fields entries : Fields Json} {requests : List Request}
    (h : List.Forall₂ (fun request entry => request.Takes fields entry.1 entry.2)
      requests entries) (key : String) :
    requests.find? (fun request => request.key? = some key) = none ∧
        Fields.get? entries key = none ∨
      ∃ request value, requests.find? (fun request => request.key? = some key) = some request ∧
        Fields.get? entries key = some value ∧ request.Takes fields key value := by
  induction h with
  | nil => exact .inl ⟨rfl, rfl⟩
  | @cons request entry requests entries htakes _ ih =>
    obtain ⟨name, value⟩ := entry
    rw [List.find?_cons, Fields.get?_cons, htakes.key?_eq]
    by_cases heq : key = name
    · subst heq
      refine .inr ⟨request, value, ?_, if_pos rfl, htakes⟩
      simp
    · have hne : ¬ some name = some key := fun hsome => heq (Option.some.inj hsome).symm
      simpa only [hne, heq, decide_false, if_false] using ih

/-- A pluck finds under a key what the last request for it has taken. -/
theorem get?_pick_of_holds {fields out : Fields Json} {selector : Json}
    (h : holds fields selector = true) (hpick : pick fields [] selector = .ok out)
    (key : String) :
    selector.lastRequest? key = none ∧ Fields.get? out key = none ∨
      ∃ request ∈ requests selector, selector.lastRequest? key = some request ∧
        ∃ value, Fields.get? out key = some value ∧ request.Takes fields key value := by
  obtain ⟨entries, hentries, hout⟩ := pick_of_holds selector h
  obtain rfl := Except.ok.inj (hpick.symm.trans hout)
  rw [Fields.get?_ofList]
  rcases get?_of_takes (List.forall₂_reverse_iff.mpr hentries) key with
    hnone | ⟨request, value, hfind, hget, htakes⟩
  · exact .inl hnone
  · exact .inr ⟨request, List.mem_reverse.mp (List.mem_of_find?_eq_some hfind), hfind, value,
      hget, htakes⟩

/-! ### Coverage -/

mutual

/-- Whether one selector, worked off last, leaves what another one asks for: it asks for each
field too, and at last for the whole of it or for a part that leaves what is asked of it. -/
def covers (last : Json) : Json → Bool
  | .string key => (last.lastRequest? key).isSome
  | .array selectors => coversAll last selectors
  | .object paths => coversPaths last paths
  -- No object has what this asks for.
  | _ => true

def coversAll (last : Json) : List Json → Bool
  | [] => true
  | selector :: rest => covers last selector && coversAll last rest

def coversPaths (last : Json) : List (String × Json) → Bool
  | [] => true
  | (key, inner) :: rest =>
    (if inner = .bool true then (last.lastRequest? key).isSome
      else match last.lastRequest? key with
        | some (.whole _) => true
        | some (.part _ lastInner) => covers lastInner inner
        | _ => false) && coversPaths last rest

end

/-- What a request asks for is left by the last selector. -/
def Request.isCovered (last : Json) : Request → Bool
  | whole key => (last.lastRequest? key).isSome
  | part key inner =>
    match last.lastRequest? key with
    | some (.whole _) => true
    | some (.part _ lastInner) => covers lastInner inner
    | _ => false
  | invalid _ => true

mutual

theorem covers_eq (last : Json) : ∀ selector : Json,
    covers last selector = (requests selector).all (·.isCovered last)
  | .string _ => (Bool.and_true _).symm
  | .array selectors => coversAll_eq last selectors
  | .object paths => coversPaths_eq last paths
  | .null | .bool _ | .number _ => rfl

theorem coversAll_eq (last : Json) : ∀ selectors : List Json,
    coversAll last selectors = (requestsOfAll selectors).all (·.isCovered last)
  | [] => rfl
  | selector :: rest => by
    rw [coversAll, covers_eq last selector, coversAll_eq last rest, requestsOfAll,
      List.all_append]

theorem coversPaths_eq (last : Json) : ∀ paths : List (String × Json),
    coversPaths last paths = (paths.map .ofPath).all (Request.isCovered last)
  | [] => rfl
  | (_, inner) :: rest => by
    rw [coversPaths, coversPaths_eq last rest, List.map_cons, List.all_cons, Request.ofPath]
    refine congrArg (· && _) ?_
    split <;> rfl

end

/-- What is there is found again in what was plucked of it, if the last selector covers it. -/
theorem holds_pick (asked : Json) : ∀ {fields out : Fields Json} {last : Json},
    holds fields asked = true → holds fields last = true → pick fields [] last = .ok out →
      holds out asked = covers last asked := by
  induction asked using selector_induction with
  | h asked ih =>
    intro fields out last hasked hlast hpick
    rw [holds_eq, covers_eq, Bool.eq_iff_iff, List.all_eq_true, List.all_eq_true]
    refine forall₂_congr fun request hrequest => Bool.eq_iff_iff.mp ?_
    have hthere : request.holds fields = true := Request.holds_of_mem hasked hrequest
    -- What the pluck has under the key was taken by the last request for it.
    cases request with
    | whole key =>
      obtain ⟨found, hfound, hnull⟩ := (Option.any_eq_true _ _).mp hthere
      rcases get?_pick_of_holds hlast hpick key with
        ⟨hnone, hout⟩ | ⟨last', -, hlast', value, hout, htakes⟩
      · simp only [Request.holds, Request.isCovered, hnone, hout, Option.any_none,
          Option.isSome_none]
      · simp only [Request.holds, Request.isCovered, hlast', hout, Option.any_some,
          Option.isSome_some]
        cases htakes with
        | whole h =>
          cases hfound.symm.trans h
          exact hnull
        | part h hpart => rfl
    | part key inner =>
      simp only [Request.holds] at hthere
      split at hthere
      · next nested hnested =>
        rcases get?_pick_of_holds hlast hpick key with
          ⟨hnone, hout⟩ | ⟨last', hmem, hlast', value, hout, htakes⟩
        · simp only [Request.holds, Request.isCovered, hnone, hout]
        · simp only [Request.holds, Request.isCovered, hlast', hout]
          cases htakes with
          | whole h =>
            cases hnested.symm.trans h
            exact hthere
          | @part key lastInner _ picked h hpart =>
            cases hnested.symm.trans h
            have hnext : holds nested lastInner = true := by
              have hholds := Request.holds_of_mem hlast hmem
              simpa only [Request.holds, hnested] using hholds
            exact ih key inner hrequest hthere hnext hpart
      · cases hthere
    | invalid selector => cases hthere

/-- An object that has the fields is plucked, and the pluck has the fields if the selectors cover
themselves. -/
theorem hasFields_of_pluck {value : Json} {selectors : List Json}
    (h : value.hasFields selectors = true) :
    ∃ picked, value.pluck selectors = .ok picked ∧
      picked.hasFields selectors = coversAll (.array selectors) selectors := by
  cases value with
  | object fields =>
    have hholds : holds fields (.array selectors) = true := h
    obtain ⟨entries, -, hpick⟩ := pick_of_holds _ hholds
    refine ⟨.object (Fields.ofList entries), ?_, holds_pick _ hholds hholds hpick⟩
    rw [pluck_object, hpick]
    rfl
  | _ => cases h

/-- Of two paths into one object the second one overwrites what the first one has picked: the row
has both fields, and the pluck has one of them. -/
theorem hasFields_pluck_overwritten :
    let row := Json.object [("a", .object [("b", .ofNat 1), ("c", .ofNat 2)])]
    let selectors := ["b", "c"].map fun key => Json.object [("a", .object [(key, .bool true)])]
    row.hasFields selectors = true ∧
      ∃ picked, row.pluck selectors = .ok picked ∧ picked.hasFields selectors = false := by
  intro row selectors
  exact ⟨by decide, .object [("a", .object [("c", .ofNat 2)])], by decide, by decide⟩

end DocQuery.Json
