import DocQuery.Proofs.Fault
import DocQuery.Proofs.Json.Fields
import DocQuery.Value.Document
import Mathlib.Data.List.ReduceOption

/-! Selectors as requests.

A selector comes down to a list of requests: each asks for a field as a whole, or asks something
of a field by a selector below this one. Lists only group requests, and a path that ends in `true`
is a name. Requests are worked off without looking at each other. They only meet where two of
them pick one field, and there the last one stays (`pick_eq_ok`). -/
namespace DocQuery.Json

/-! ### Requests -/

/-- What a selector asks for: a field as a whole, or what another selector asks of a field. -/
inductive Request where
  | whole (key : String)
  | part (key : String) (inner : Json)
  | invalid (selector : Json)

namespace Request

/-- A step of a path. -/
def ofPath : String × Json → Request
  | (key, inner) => if inner = .bool true then whole key else part key inner

/-- The field that is asked for. -/
def key? : Request → Option String
  | whole key | part key _ => some key
  | invalid _ => none

/-- What a request takes out of an object, if there is anything for it. -/
def take? (fields : Fields Json) : Request → Except Fault (Option (String × Json))
  | whole key => .ok ((fields.get? key).map (key, ·))
  | part key inner =>
    match fields.get? key with
    | some (.object nested) => do return some (key, .object (← pick nested [] inner))
    | _ => .ok none
  | invalid selector => .error (.notPath selector)

/-- What a request asks for is there and not `null`. -/
def holds (fields : Fields Json) : Request → Bool
  | whole key => (fields.get? key).any fun found => !found.isNull
  | part key inner =>
    match fields.get? key with
    | some (.object nested) => Json.holds nested inner
    | _ => false
  | invalid _ => false

end Request

mutual

/-- The requests of a selector, in the order in which they are made. -/
def requests : Json → List Request
  | .string key => [.whole key]
  | .array selectors => requestsOfAll selectors
  | .object paths => paths.map .ofPath
  | other => [.invalid other]

def requestsOfAll : List Json → List Request
  | [] => []
  | selector :: rest => requests selector ++ requestsOfAll rest

end

/-! ### Picking -/

/-- What requests take out of an object, one after another. -/
def parts (fields : Fields Json) (requests : List Request) : Except Fault (Fields Json) := do
  return (← requests.mapM (·.take? fields)).reduceOption

theorem parts_append (fields : Fields Json) (front back : List Request) :
    parts fields (front ++ back) = do return (← parts fields front) ++ (← parts fields back) := by
  unfold parts
  rw [List.mapM_append]
  simp only [bind_assoc, pure_bind, List.reduceOption_append]

theorem parts_cons (fields : Fields Json) (request : Request) (rest : List Request) :
    parts fields (request :: rest) = do
      return (← request.take? fields).toList ++ (← parts fields rest) := by
  unfold parts
  rw [List.mapM_cons]
  simp only [bind_assoc, pure_bind]
  refine congrArg (_ >>= ·) (funext fun part? => congrArg (_ >>= ·) (funext fun rest => ?_))
  cases part? <;> rfl

/-- Fields that are added one after another. -/
def addAll (picked entries : Fields Json) : Fields Json :=
  entries.foldl (fun fields entry => fields.insert entry.1 entry.2) picked

theorem addAll_append (picked front back : Fields Json) :
    addAll picked (front ++ back) = addAll (addAll picked front) back := List.foldl_append

theorem addAll_parts_append (fields picked : Fields Json) (front back : List Request) :
    (parts fields (front ++ back)).map (addAll picked) =
      parts fields front >>= fun taken =>
        (parts fields back).map (addAll (addAll picked taken)) := by
  rw [parts_append]
  cases parts fields front with
  | error fault => rfl
  | ok taken =>
    cases parts fields back with
    | error fault => rfl
    | ok more => exact congrArg _ (addAll_append picked taken more)

theorem addAll_parts_cons (fields picked : Fields Json) (request : Request) (rest : List Request) :
    (parts fields (request :: rest)).map (addAll picked) =
      request.take? fields >>= fun part? =>
        (parts fields rest).map (addAll (addAll picked part?.toList)) := by
  rw [parts_cons]
  cases request.take? fields with
  | error fault => rfl
  | ok part? =>
    cases parts fields rest with
    | error fault => rfl
    | ok more => exact congrArg _ (addAll_append picked part?.toList more)

mutual

/-- A selector picks what its requests take out of the object. -/
theorem pick_eq : ∀ (selector : Json) (fields picked : Fields Json),
    pick fields picked selector = (parts fields (requests selector)).map (addAll picked)
  | .string key, fields, picked => by
    rw [pick, requests, addAll_parts_cons, Request.take?]
    cases Fields.get? fields key <;> rfl
  | .array selectors, fields, picked => pickAll_eq selectors fields picked
  | .object paths, fields, picked => pickPaths_eq paths fields picked
  | .null, _, _ | .bool _, _, _ | .number _, _, _ => rfl

theorem pickAll_eq : ∀ (selectors : List Json) (fields picked : Fields Json),
    pickAll fields picked selectors = (parts fields (requestsOfAll selectors)).map (addAll picked)
  | [], _, _ => rfl
  | selector :: rest, fields, picked => by
    rw [pickAll, pick_eq selector, requestsOfAll, addAll_parts_append]
    cases parts fields (requests selector) with
    | error fault => rfl
    | ok taken => exact pickAll_eq rest fields (addAll picked taken)

theorem pickPaths_eq : ∀ (paths : List (String × Json)) (fields picked : Fields Json),
    pickPaths fields picked paths = (parts fields (paths.map .ofPath)).map (addAll picked)
  | [], _, _ => rfl
  | (key, inner) :: rest, fields, picked => by
    rw [pickPaths, List.map_cons, addAll_parts_cons, Request.ofPath]
    split
    · next found hfound =>
      split
      · simp only [Request.take?, hfound]
        exact pickPaths_eq rest fields _
      · cases found with
        | object nested =>
          simp only [Request.take?, hfound]
          cases pick nested [] inner with
          | error fault => rfl
          | ok taken => exact pickPaths_eq rest fields _
        | _ =>
          simp only [Request.take?, hfound]
          exact pickPaths_eq rest fields picked
    · next hnone =>
      split <;>
      · simp only [Request.take?, hnone]
        exact pickPaths_eq rest fields picked

end

/-- What a selector picks is what its requests take out, a later one replacing an earlier one
for the same field. -/
theorem pick_eq_ok {fields out : Fields Json} {selector : Json} :
    pick fields [] selector = .ok out ↔ ∃ taken,
      List.Forall₂ (fun request part? => request.take? fields = .ok part?)
        (requests selector) taken ∧
        out = Fields.ofList taken.reduceOption := by
  rw [pick_eq, parts]
  simp only [← mapM_eq_ok_iff]
  cases (requests selector).mapM (·.take? fields) with
  | error fault => simp [bind, Except.bind, Except.map]
  | ok taken =>
    refine ⟨fun h => ⟨taken, rfl, (Except.ok.inj h).symm⟩, fun ⟨taken', heq, h⟩ => ?_⟩
    cases heq
    exact congrArg _ h.symm

/-- Objects are plucked by a list of selectors. -/
theorem pluck_object (fields : Fields Json) (selectors : List Json) :
    pluck (.object fields) selectors = (pick fields [] (.array selectors)).map .object := by
  show (pick fields [] (.array selectors) >>= fun picked => pure (Json.object picked)) = _
  cases pick fields [] (.array selectors) <;> rfl

/-! ### Looking -/

mutual

theorem holds_eq (fields : Fields Json) : ∀ selector : Json,
    holds fields selector = (requests selector).all (·.holds fields)
  | .string _ => (Bool.and_true _).symm
  | .array selectors => holdsAll_eq fields selectors
  | .object paths => holdsPaths_eq fields paths
  | .null | .bool _ | .number _ => rfl

theorem holdsAll_eq (fields : Fields Json) : ∀ selectors : List Json,
    holdsAll fields selectors = (requestsOfAll selectors).all (·.holds fields)
  | [] => rfl
  | selector :: rest => by
    rw [holdsAll, holds_eq fields selector, holdsAll_eq fields rest, requestsOfAll, List.all_append]

theorem holdsPaths_eq (fields : Fields Json) : ∀ paths : List (String × Json),
    holdsPaths fields paths = (paths.map .ofPath).all (Request.holds fields)
  | [] => rfl
  | (_, inner) :: rest => by
    rw [holdsPaths, holdsPaths_eq fields rest, List.map_cons, List.all_cons, Request.ofPath]
    refine congrArg (· && _) ?_
    split
    · next found hfound =>
      split
      · simp only [Request.holds, hfound, Option.any_some]
      · cases found <;> simp only [Request.holds, hfound]
    · next hnone => split <;> simp only [Request.holds, hnone, Option.any_none]

end

/-! ### Selectors below selectors -/

mutual

/-- A selector that a request hands on stands below the selector of the request. -/
theorem sizeOf_of_part : ∀ (selector : Json) {key : String} {inner : Json},
    .part key inner ∈ requests selector → sizeOf inner < sizeOf selector
  | .array selectors, key, inner, h => by
    have hlt : sizeOf inner < sizeOf selectors := sizeOf_of_part_all selectors h
    rw [Json.array.sizeOf_spec]
    omega
  | .object paths, key, inner, h => by
    obtain ⟨⟨name, below⟩, hpath, heq⟩ := List.mem_map.mp h
    have hlt : sizeOf (name, below) < sizeOf paths := List.sizeOf_lt_of_mem hpath
    rw [Prod.mk.sizeOf_spec] at hlt
    rw [Json.object.sizeOf_spec]
    simp only [Request.ofPath] at heq
    split at heq
    · cases heq
    · cases heq
      omega
  | .string _, _, _, h | .null, _, _, h | .bool _, _, _, h | .number _, _, _, h => by
    cases List.mem_singleton.mp h

theorem sizeOf_of_part_all : ∀ (selectors : List Json) {key : String} {inner : Json},
    .part key inner ∈ requestsOfAll selectors → sizeOf inner < sizeOf selectors
  | [], _, _, h => by cases h
  | selector :: rest, key, inner, h => by
    rw [List.cons.sizeOf_spec]
    rcases List.mem_append.mp h with h | h
    · have hlt := sizeOf_of_part selector h
      omega
    · have hlt := sizeOf_of_part_all rest h
      omega

end

/-- What holds of a selector if it holds of those that its requests hand on holds of all. -/
theorem selector_induction {P : Json → Prop}
    (h : ∀ selector, (∀ key inner, .part key inner ∈ requests selector → P inner) → P selector)
    (selector : Json) : P selector :=
  h selector fun _ inner hpart =>
    have : sizeOf inner < sizeOf selector := sizeOf_of_part selector hpart
    selector_induction h inner
termination_by sizeOf selector

end DocQuery.Json
