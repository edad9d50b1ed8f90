import DocQuery.Proofs.Value.Requests

/-! Plucking and dropping.

A selector without paths names some fields. A pluck builds an object up from the fields of these
names, and a drop takes the same fields away one after another, from an object that gets smaller.
Whatever the selectors repeat and whichever names are missing, the two results share the fields of
the object between them; and a selector that is none makes both fail (`pluck_without`). -/
namespace DocQuery.Json

/-! ### Names -/

mutual

/-- The names in a selector, in order, if it is a name or a list of such selectors. -/
def names : Json → Except Fault (List String)
  | .string key => .ok [key]
  | .array selectors => namesOfAll selectors
  | other => .error (.notPath other)

def namesOfAll : List Json → Except Fault (List String)
  | [] => .ok []
  | selector :: rest => do return (← names selector) ++ (← namesOfAll rest)

end

mutual

/-- No selector is an object, at any nesting of lists. -/
def PathFree : Json → Prop
  | .array selectors => PathFreeAll selectors
  | .object _ => False
  | _ => True

def PathFreeAll : List Json → Prop
  | [] => True
  | selector :: rest => PathFree selector ∧ PathFreeAll rest

end

/-- The fields of these names, in the order of the names. -/
def named (fields : Fields Json) (names : List String) : Fields Json :=
  names.filterMap fun key => (Fields.get? fields key).map (key, ·)

/-- The other fields, in the order in which they are there. -/
def unnamed (fields : Fields Json) (names : List String) : Fields Json :=
  fields.filter fun field => field.1 ∉ names

theorem get?_named (fields : Fields Json) (names : List String) (key : String) :
    Fields.get? (named fields names) key =
      if key ∈ names then Fields.get? fields key else none := by
  induction names with
  | nil => rfl
  | cons name rest ih =>
    have hcons : named fields (name :: rest) =
        ((Fields.get? fields name).map (name, ·)).toList ++ named fields rest := by
      unfold named
      rw [List.filterMap_cons]
      cases Fields.get? fields name <;> rfl
    rw [hcons, Fields.get?_append, Fields.get?_toList name fun found => found, ih, Option.map_id']
    by_cases heq : key = name
    · subst heq
      cases Fields.get? fields key <;> simp
    · simp [heq]

theorem get?_unnamed (fields : Fields Json) (names : List String) (key : String) :
    Fields.get? (unnamed fields names) key =
      if key ∈ names then none else Fields.get? fields key := by
  refine (Fields.get?_filter fields (· ∉ names) key).trans ?_
  by_cases h : key ∈ names <;> simp [h]

/-! ### Dropping -/

theorem unnamed_append (fields : Fields Json) (front back : List String) :
    unnamed (unnamed fields front) back = unnamed fields (front ++ back) := by
  unfold unnamed
  rw [List.filter_filter]
  refine List.filter_congr fun field _ => ?_
  simp [Bool.and_comm]

mutual

/-- A drop leaves the fields that are not named. -/
theorem drop_eq : ∀ (selector : Json) (fields : Fields Json),
    drop fields selector = (names selector).map (unnamed fields)
  | .string key, fields => by
    refine congrArg Except.ok (List.filter_congr fun field _ => ?_)
    simp [bne, Bool.beq_eq_decide_eq]
  | .array selectors, fields => dropAll_eq selectors fields
  | .object _, _ | .null, _ | .bool _, _ | .number _, _ => rfl

theorem dropAll_eq : ∀ (selectors : List Json) (fields : Fields Json),
    dropAll fields selectors = (namesOfAll selectors).map (unnamed fields)
  | [], fields => congrArg Except.ok (List.filter_eq_self.mpr fun _ _ => rfl).symm
  | selector :: rest, fields => by
    rw [dropAll, drop_eq selector, namesOfAll]
    cases names selector with
    | error fault => rfl
    | ok front =>
      show dropAll (unnamed fields front) rest = _
      rw [dropAll_eq rest]
      cases namesOfAll rest with
      | error fault => rfl
      | ok back => exact congrArg Except.ok (unnamed_append fields front back)

end

/-! ### Picking -/

mutual

/-- A pluck takes the fields that are named. -/
theorem parts_eq : ∀ (selector : Json), PathFree selector → ∀ fields : Fields Json,
    parts fields (requests selector) = (names selector).map (named fields)
  | .string key, _, fields => by
    rw [requests, parts_cons, Request.take?]
    unfold named
    cases h : Fields.get? fields key <;> simp [names, h, parts, Except.map]
  | .array selectors, h, fields => parts_eq_all selectors h fields
  | .null, _, _ | .bool _, _, _ | .number _, _, _ => rfl

theorem parts_eq_all : ∀ (selectors : List Json), PathFreeAll selectors → ∀ fields : Fields Json,
    parts fields (requestsOfAll selectors) = (namesOfAll selectors).map (named fields)
  | [], _, _ => rfl
  | selector :: rest, h, fields => by
    rw [requestsOfAll, parts_append, parts_eq selector h.1, parts_eq_all rest h.2, namesOfAll]
    cases names selector with
    | error fault => rfl
    | ok front =>
      cases namesOfAll rest with
      | error fault => rfl
      | ok back => exact congrArg Except.ok List.filterMap_append.symm

end

/-- What a pluck by names finds under a key. -/
theorem get?_ofList_named (fields : Fields Json) (names : List String) (key : String) :
    Fields.get? (Fields.ofList (named fields names)) key =
      if key ∈ names then Fields.get? fields key else none := by
  have hreverse : (named fields names).reverse = named fields names.reverse :=
    List.filterMap_reverse.symm
  rw [Fields.get?_ofList, hreverse, get?_named]
  simp only [List.mem_reverse]

/-- Of fields in order, a pluck by names keeps the order. -/
theorem ofList_named {fields : Fields Json} (h : fields.Ascending) (names : List String) :
    Fields.ofList (named fields names) = fields.filter fun field => field.1 ∈ names := by
  have hfilter : Fields.Ascending (fields.filter fun field => field.1 ∈ names) :=
    List.Pairwise.sublist (List.filter_sublist.map Prod.fst) h
  refine Fields.Ascending.ext (Fields.ascending_ofList _) hfilter fun key => ?_
  rw [get?_ofList_named, Fields.get?_filter fields (· ∈ names) key]
  simp only [decide_eq_true_eq]

/-! ### The two together -/

/-- By selectors without paths, plucking and dropping are complements. They fail alike, on a
selector that is none, or both have a result: then each key is found in one of the results, with
what the object has under it, and is missing in the other one. So the fields of an object in order
are those of the two results. -/
theorem pluck_without {selectors : List Json} (h : PathFreeAll selectors) (fields : Fields Json) :
    (∃ fault, namesOfAll selectors = .error fault ∧
      pluck (.object fields) selectors = .error fault ∧
      without (.object fields) selectors = .error fault) ∨
    ∃ names picked rest, namesOfAll selectors = .ok names ∧
      pluck (.object fields) selectors = .ok (.object picked) ∧
      without (.object fields) selectors = .ok (.object rest) ∧
      (∀ key,
        key ∈ names ∧ Fields.get? picked key = Fields.get? fields key ∧
          Fields.get? rest key = none ∨
        key ∉ names ∧ Fields.get? picked key = none ∧
          Fields.get? rest key = Fields.get? fields key) ∧
      (fields.Ascending → (picked ++ rest).Perm fields) := by
  have hpluck : pluck (.object fields) selectors =
      (namesOfAll selectors).map fun names => .object (Fields.ofList (named fields names)) := by
    rw [pluck_object, pick_eq, requests, parts_eq_all selectors h]
    cases namesOfAll selectors <;> rfl
  have hwithout : without (.object fields) selectors =
      (namesOfAll selectors).map fun names => .object (unnamed fields names) := by
    show (dropAll fields selectors >>= fun rest => pure (Json.object rest)) = _
    rw [dropAll_eq]
    cases namesOfAll selectors <;> rfl
  rw [hpluck, hwithout]
  cases namesOfAll selectors with
  | error fault => exact .inl ⟨fault, rfl, rfl, rfl⟩
  | ok names =>
    refine .inr ⟨names, _, _, rfl, rfl, rfl, fun key => ?_, fun hasc => ?_⟩
    · rw [get?_ofList_named, get?_unnamed]
      by_cases hkey : key ∈ names
      · exact .inl ⟨hkey, if_pos hkey, if_pos hkey⟩
      · exact .inr ⟨hkey, if_neg hkey, if_neg hkey⟩
    · rw [ofList_named hasc]
      have hunnamed : unnamed fields names =
          fields.filter fun field => !decide (field.1 ∈ names) :=
        List.filter_congr fun field _ => decide_not
      rw [hunnamed]
      exact List.filter_append_perm _ fields

/-- A name is repeated in a list below the selectors, and another one names no field. -/
theorem pluck_without_nested :
    let selectors := [Json.string "b", .array [.string "x", .array [.string "b"]]]
    let fields : Fields Json := [("a", .ofNat 1), ("b", .object [("c", .null)]), ("d", .ofNat 2)]
    ∃ picked rest, pluck (.object fields) selectors = .ok (.object picked) ∧
      without (.object fields) selectors = .ok (.object rest) ∧
      picked = [("b", .object [("c", .null)])] ∧ rest = [("a", .ofNat 1), ("d", .ofNat 2)] ∧
      (picked ++ rest).Perm fields := by
  intro selectors fields
  have hfree : PathFreeAll selectors := ⟨trivial, ⟨trivial, ⟨trivial, trivial⟩, trivial⟩, trivial⟩
  rcases pluck_without hfree fields with ⟨fault, hnames, -⟩ | ⟨_, picked, rest, -, hp, hr, -, hperm⟩
  · cases hnames
  · refine ⟨picked, rest, hp, hr, ?_, ?_, hperm (by unfold Fields.Ascending; decide)⟩
    · cases hp
      rfl
    · cases hr
      rfl

end DocQuery.Json
