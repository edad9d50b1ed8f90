import DocQuery.Value.Kind

/-! Documents and the selectors of their fields.

A merge writes the fields of a patch over those of a base and goes on inside objects
that both have. A selector is the name of a field, a list of selectors, or an object
that names fields and gives each a selector of its own, `true` standing for the whole
field. -/
namespace DocQuery
namespace Json

/-! ### Merging -/

/-- What a value becomes when it replaces another: a literal becomes what it holds. -/
def replacement (value : Json) : Json :=
  if value.isLiteral then (value.field? "value").getD .null else value

/-- A literal that holds nothing removes the field it is written to. -/
def isRemoval (value : Json) : Bool := value.isLiteral && (value.field? "value").isNone

mutual

/-- The base with a patch written over it. A tagged object is no patch but a value. -/
def merge (base : Json) : Json → Json
  | .object patch =>
    match base with
    | .object fields =>
      if Fields.has patch tagKey then replacement (.object patch)
      else .object (mergeFields fields patch)
    | _ => replacement (.object patch)
  | patch => patch

def mergeFields (fields : Fields Json) : List (String × Json) → Fields Json
  | [] => fields
  | (key, value) :: rest =>
    mergeFields
      (if value.isRemoval then fields.remove key
        else fields.insert key (merge ((fields.get? key).getD .null) value))
      rest

end

/-! ### Picking and dropping fields -/

mutual

/-- Adds to the picked fields those that a selector names. -/
def pick (fields picked : Fields Json) : Json → Except Fault (Fields Json)
  | .string key =>
    match fields.get? key with
    | some found => .ok (picked.insert key found)
    | none => .ok picked
  | .array selectors => pickAll fields picked selectors
  | .object paths => pickPaths fields picked paths
  | other => .error (.notPath other)
termination_by structural selector => selector

def pickAll (fields picked : Fields Json) : List Json → Except Fault (Fields Json)
  | [] => .ok picked
  | selector :: rest => do pickAll fields (← pick fields picked selector) rest
termination_by structural selectors => selectors

/-- A path that leads into an object picks a part of it; one that leads nowhere, or
into something else, picks nothing. -/
def pickPaths (fields picked : Fields Json) :
    List (String × Json) → Except Fault (Fields Json)
  | [] => .ok picked
  | (key, inner) :: rest =>
    match fields.get? key with
    | some found =>
      if inner = .bool true then pickPaths fields (picked.insert key found) rest
      else match found with
        | .object nested => do
          pickPaths fields (picked.insert key (.object (← pick nested [] inner))) rest
        | _ => pickPaths fields picked rest
    | none => pickPaths fields picked rest
termination_by structural paths => paths

end

/-- The object with the selected fields only. -/
def pluck (value : Json) (selectors : List Json) : Except Fault Json := do
  return .object (← pickAll (← value.asObject) [] selectors)

mutual

/-- Removes the fields that a selector names. Paths are no selectors here. -/
def drop (fields : Fields Json) : Json → Except Fault (Fields Json)
  | .string key => .ok (fields.remove key)
  | .array selectors => dropAll fields selectors
  | other => .error (.notPath other)

def dropAll (fields : Fields Json) : List Json → Except Fault (Fields Json)
  | [] => .ok fields
  | selector :: rest => do dropAll (← drop fields selector) rest

end

/-- The object without the selected fields. -/
def without (value : Json) (selectors : List Json) : Except Fault Json := do
  return .object (← dropAll (← value.asObject) selectors)

/-! ### Looking at fields -/

mutual

/-- The selected fields are there and not `null`. -/
def holds (fields : Fields Json) : Json → Bool
  | .string key => (fields.get? key).any fun found => !found.isNull
  | .array selectors => holdsAll fields selectors
  | .object paths => holdsPaths fields paths
  | _ => false

def holdsAll (fields : Fields Json) : List Json → Bool
  | [] => true
  | selector :: rest => holds fields selector && holdsAll fields rest

def holdsPaths (fields : Fields Json) : List (String × Json) → Bool
  | [] => true
  | (key, inner) :: rest =>
    (match fields.get? key with
      | some found =>
        if inner = .bool true then !found.isNull
        else match found with
          | .object nested => holds nested inner
          | _ => false
      | none => false) && holdsPaths fields rest

end

/-- An object that has all selected fields; nothing else has fields. -/
def hasFields (value : Json) (selectors : List Json) : Bool :=
  match value with
  | .object fields => holdsAll fields selectors
  | _ => false

def getField (value : Json) (key : String) : Except Fault Json := do
  match (← value.asObject).get? key with
  | some found => return found
  | none => throw (.noAttribute key)

/-! ### Documents in sequences -/

/-- The value, unless it is `null`. -/
def present (value : Json) : Except Fault Json :=
  if value.isNull then .error .nullDocument else .ok value

/-- The field of a document, or the fields of those documents of a list that have it. -/
def fieldOrFields (value : Json) (key : String) : Except Fault Json := do
  match ← value.present with
  | .array rows => return .array (rows.filterMap (·.field? key))
  | document => document.getField key

end Json

end DocQuery
