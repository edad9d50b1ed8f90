import DocQuery.Proofs.Query.Failing

/-! Values put into terms.

A call gives its parameter a value, and the body could have the value written into it instead.
`Substitution.apply` writes it in the places that evaluation comes to: for the variable, as
long as no function further in binds it again, and for the implicit variable, where no other
function stands around it. Data stays as it is, and so do parameters and options. -/
namespace DocQuery

/-- A value for a variable, and for the implicit variable. -/
structure Substitution where
  id : Nat
  value : Json
  /-- No function around has bound the variable again. -/
  visible : Bool := true
  /-- No function stands around, so that the implicit variable is the same one. -/
  outermost : Bool := true

/-- The ids that a function binds; none if they cannot be read. -/
def boundIds (params : Json) : List Nat := (Evaluation.parameterIds params).toOption.getD []

namespace Substitution

/-- What is left to do inside a function. -/
def under (σ : Substitution) (ids : List Nat) : Substitution :=
  { σ with visible := σ.visible && !ids.contains σ.id, outermost := false }

def valueOf? (σ : Substitution) (id : Nat) : Option Json :=
  if σ.visible && id == σ.id then some σ.value else none

def implicit? (σ : Substitution) : Option Json := if σ.outermost then some σ.value else none

/-- The value that takes the place of a node. -/
def inPlaceOf? (σ : Substitution) (items : List Json) : Option Json :=
  match Operator.ofItems items with
  | .error _ => none
  | .ok operator =>
    match operator.operation with
    | .var => (Evaluation.variableId operator).toOption.bind σ.valueOf?
    | .implicitVar => if operator.payload.terms.isEmpty then σ.implicit? else none
    | _ => none

mutual

/-- The term with the value written into it. -/
def apply (σ : Substitution) : Json → Json
  | .array items =>
    match σ.inPlaceOf? items with
    | some value => value
    | none => .array <|
      match items.head?.bind Operation.ofHead? with
      | some .datum | some .makeArray | some .var | some .implicitVar => items
      | some .makeObject => applyOptions σ items
      | some .func => applyFunction σ items
      | _ => applyArguments σ items
  | value => value

def applyArguments (σ : Substitution) : List Json → List Json
  | head :: .array terms :: rest => head :: .array (applyAll σ terms) :: rest
  | items => items

def applyFunction (σ : Substitution) : List Json → List Json
  | head :: .array (params :: body :: more) :: rest =>
    head :: .array (params :: apply (σ.under (boundIds params)) body :: more) :: rest
  | items => items

def applyOptions (σ : Substitution) : List Json → List Json
  | head :: payload :: .object fields :: rest =>
    head :: payload :: .object (applyFields σ fields) :: rest
  | items => items

def applyAll (σ : Substitution) : List Json → List Json
  | [] => []
  | term :: rest => apply σ term :: applyAll σ rest

def applyFields (σ : Substitution) : List (String × Json) → List (String × Json)
  | [] => []
  | (key, term) :: rest => (key, apply σ term) :: applyFields σ rest

end

end Substitution

/-! ### Nodes that are changed -/

/-- A node with its list of arguments changed. -/
def changeArguments (f : List Json → List Json) : List Json → List Json
  | head :: .array terms :: rest => head :: .array (f terms) :: rest
  | items => items

/-- A node with its options changed. -/
def changeOptions (f : Fields Json → Fields Json) : List Json → List Json
  | head :: payload :: .object fields :: rest => head :: payload :: .object (f fields) :: rest
  | items => items

/-- The arguments of a function term with its body changed. -/
def changeBody (f : Json → Json → Json) : List Json → List Json
  | params :: body :: more => params :: f params body :: more
  | terms => terms

/-- A payload with its list of arguments changed. -/
def Payload.change (f : List Json → List Json) : Payload → Payload
  | .list terms => .list (f terms)
  | .data value => .data value

theorem Payload.count_change {f : List Json → List Json}
    (hlength : ∀ terms, (f terms).length = terms.length) (payload : Payload) :
    (payload.change f).count = payload.count := by
  cases payload with
  | list terms => exact hlength terms
  | data value => rfl

theorem length_changeBody (f : Json → Json → Json) (terms : List Json) :
    (changeBody f terms).length = terms.length := by
  unfold changeBody
  split <;> rfl

/-- What is there after the change was there before, or it is the body that was changed. -/
theorem mem_changeBody {f : Json → Json → Json} {terms : List Json} {term : Json}
    (h : term ∈ changeBody f terms) :
    term ∈ terms ∨ ∃ params body, body ∈ terms ∧ term = f params body := by
  unfold changeBody at h
  split at h
  · next params body more =>
    rcases List.mem_cons.mp h with rfl | h
    · exact .inl List.mem_cons_self
    · rcases List.mem_cons.mp h with rfl | h
      · exact .inr ⟨params, body, List.mem_cons_of_mem _ List.mem_cons_self, rfl⟩
      · exact .inl (List.mem_cons_of_mem _ (List.mem_cons_of_mem _ h))
  · exact .inl h

section Changed
variable {items : List Json} {operator : Operator} {f : List Json → List Json}

theorem ofItems_changeArguments (hlength : ∀ terms, (f terms).length = terms.length)
    (h : Operator.ofItems items = .ok operator) (hkeeps : operator.operation.keepsPayload = false) :
    Operator.ofItems (changeArguments f items) =
      .ok { operator with payload := operator.payload.change f } := by
  have hnil : f [] = [] := List.length_eq_zero_iff.mp (hlength [])
  have hpayload := (ofItems_eq_ok h).2
  -- Only a list of arguments is changed; any other payload is kept with the whole node.
  have hsame : operator.payload.change f = operator.payload → changeArguments f items = items →
      Operator.ofItems (changeArguments f items) =
        .ok { operator with payload := operator.payload.change f } := by
    intro hkept hitems
    rw [hkept, hitems]
    exact h
  match items with
  | [] => cases h
  | [_] => exact hsame (by rw [hpayload]; exact congrArg Payload.list hnil) rfl
  | _ :: .null :: _ | _ :: .bool _ :: _ | _ :: .number _ :: _ | _ :: .string _ :: _
  | _ :: .object _ :: _ => exact hsame (by rw [hpayload]; rfl) rfl
  | head :: .array terms :: rest =>
    obtain ⟨op, payload, options?⟩ := operator
    have hhead : Operation.ofHead? head = some op := (ofItems_eq_ok h).1
    unfold Operator.ofItems at h
    dsimp only at h
    rw [hhead] at h
    obtain ⟨options, hoptions, h⟩ := bind_eq_ok h
    cases h
    have hlist : ∀ terms, Payload.ofElement op (some (.array terms)) = .list terms := by
      intro terms
      simp [Payload.ofElement, show op.keepsPayload = false from hkeeps]
    have hread : Operator.readOptions op rest[0]? = .ok options? := hoptions
    unfold changeArguments Operator.ofItems
    dsimp only
    rw [hhead]
    show (do
      let options ← Operator.readOptions op rest[0]?
      return Operator.mk op (Payload.ofElement op (some (.array (f terms)))) options) = _
    rw [hread, hlist]
    show Except.ok _ = Except.ok _
    have hold : Payload.ofElement op (head :: Json.array terms :: rest)[1]? = .list terms :=
      hlist terms
    rw [hold]
    rfl

theorem argumentTerms_changeArguments (hlength : ∀ terms, (f terms).length = terms.length)
    (hliteral : ∀ value, (∀ items, value ≠ .array items) → f [value] = [value])
    (items : List Json) : argumentTerms (changeArguments f items) = f (argumentTerms items) := by
  have hnil : f [] = [] := List.length_eq_zero_iff.mp (hlength [])
  match items with
  | [] | [_] => exact hnil.symm
  | head :: .array terms :: rest => rfl
  | head :: .null :: rest | head :: .bool _ :: rest | head :: .number _ :: rest
  | head :: .string _ :: rest | head :: .object _ :: rest =>
    exact (hliteral _ fun _ h => by cases h).symm

theorem ofItems_changeOptions (g : Fields Json → Fields Json)
    (h : Operator.ofItems items = .ok operator) :
    ∃ options?, Operator.ofItems (changeOptions g items) = .ok { operator with options? } := by
  match items with
  | head :: payload :: .object fields :: rest =>
    obtain ⟨op, found, options?⟩ := operator
    have hhead : Operation.ofHead? head = some op := (ofItems_eq_ok h).1
    have hfound : found = .ofElement op (some payload) := (ofItems_eq_ok h).2
    refine ⟨some (g fields), ?_⟩
    unfold changeOptions Operator.ofItems
    dsimp only
    rw [hhead, hfound]
    rfl
  | [] | [_] | [_, _] | _ :: _ :: .null :: _ | _ :: _ :: .bool _ :: _ | _ :: _ :: .number _ :: _
  | _ :: _ :: .string _ :: _ | _ :: _ :: .array _ :: _ => exact ⟨operator.options?, h⟩

theorem argumentTerms_changeOptions (g : Fields Json → Fields Json) (items : List Json) :
    argumentTerms (changeOptions g items) = argumentTerms items := by
  match items with
  | head :: payload :: .object fields :: rest => cases payload <;> rfl
  | [] | [_] | [_, _] | _ :: _ :: .null :: _ | _ :: _ :: .bool _ :: _ | _ :: _ :: .number _ :: _
  | _ :: _ :: .string _ :: _ | _ :: _ :: .array _ :: _ => rfl

theorem optionTerms_changeOptions {g : Fields Json → Fields Json} (hnil : g [] = [])
    (items : List Json) : optionTerms (changeOptions g items) = g (optionTerms items) := by
  match items with
  | head :: payload :: .object fields :: rest => rfl
  | [] | [_] | [_, _] | _ :: _ :: .null :: _ | _ :: _ :: .bool _ :: _ | _ :: _ :: .number _ :: _
  | _ :: _ :: .string _ :: _ | _ :: _ :: .array _ :: _ => exact hnil.symm

/-- How many arguments there are and which options decides whether a node is permitted. -/
theorem permitted_payload {payload : Payload} (h : payload.count = operator.payload.count) :
    Operator.permitted { operator with payload } = operator.permitted := by
  unfold Operator.permitted
  dsimp only
  rw [h]
  rfl

theorem permitted_options (h : operator.operation.consumption = .special)
    (options? : Option (Fields Json)) :
    Operator.permitted { operator with options? } = operator.permitted := by
  have htakes : operator.operation.descriptor.takesOptions = true := by
    unfold Descriptor.takesOptions
    rw [show operator.operation.descriptor.consumption = .special from h]
    rfl
  unfold Operator.permitted
  dsimp only
  rw [htakes, Bool.true_or, Bool.true_or]

end Changed

namespace Substitution
variable {σ : Substitution}

/-! ### What a value is written into -/

theorem applyAll_eq (terms : List Json) : σ.applyAll terms = terms.map σ.apply := by
  induction terms with
  | nil => rw [applyAll, List.map_nil]
  | cons term rest ih => rw [applyAll, ih, List.map_cons]

theorem applyFields_eq (fields : Fields Json) :
    σ.applyFields fields = fields.map fun field => (field.1, σ.apply field.2) := by
  induction fields with
  | nil => rw [applyFields, List.map_nil]
  | cons field rest ih => rw [applyFields, ih, List.map_cons]

theorem apply_literal {term : Json} (h : ∀ items, term ≠ .array items) : σ.apply term = term := by
  cases term with
  | array items => exact absurd rfl (h items)
  | _ => rw [apply]; nofun

theorem applyArguments_eq (items : List Json) :
    σ.applyArguments items = changeArguments (List.map σ.apply) items := by
  unfold applyArguments
  split
  · rw [applyAll_eq, changeArguments]
  · next hother => rw [changeArguments]; exact hother

/-- What becomes of the body of a function with such parameters. -/
def inBody (σ : Substitution) (params body : Json) : Json :=
  (σ.under (boundIds params)).apply body

theorem applyFunction_eq (items : List Json) :
    σ.applyFunction items = changeArguments (changeBody σ.inBody) items := by
  unfold applyFunction
  split
  · rw [changeArguments, changeBody, inBody]
  · next hother =>
    unfold changeArguments
    split
    · next head terms rest =>
      rw [changeBody]
      rintro params body more rfl
      exact hother head params body more rest rfl
    · rfl

theorem applyOptions_eq (items : List Json) :
    σ.applyOptions items =
      changeOptions (List.map fun field => (field.1, σ.apply field.2)) items := by
  unfold applyOptions
  split
  · rw [applyFields_eq, changeOptions]
  · next hother => rw [changeOptions]; exact hother

/-- What the value is written into of a node that stays: data is left alone. -/
def below (σ : Substitution) (op : Operation) (items : List Json) : List Json :=
  match op with
  | .datum | .makeArray | .var | .implicitVar => items
  | .makeObject => changeOptions (List.map fun field => (field.1, σ.apply field.2)) items
  | .func => changeArguments (changeBody σ.inBody) items
  | _ => changeArguments (List.map σ.apply) items

theorem apply_node {items : List Json} {operator : Operator}
    (h : Operator.ofItems items = .ok operator) (hplace : σ.inPlaceOf? items = none) :
    σ.apply (.array items) = .array (σ.below operator.operation items) := by
  rw [apply, hplace]
  dsimp only
  rw [(ofItems_eq_ok h).1]
  unfold below
  cases operator.operation <;> simp only [applyArguments_eq, applyFunction_eq, applyOptions_eq]

theorem apply_inPlace {items : List Json} {value : Json}
    (hplace : σ.inPlaceOf? items = some value) :
    σ.apply (.array items) = value := by
  rw [apply, hplace]

/-- Nothing but the value is ever put in the place of a node. -/
theorem eq_value_of_inPlaceOf? {items : List Json} {value : Json}
    (h : σ.inPlaceOf? items = some value) : value = σ.value := by
  unfold inPlaceOf? at h
  split at h
  · cases h
  · split at h
    · obtain ⟨id, -, hid⟩ := Option.bind_eq_some_iff.mp h
      unfold valueOf? at hid
      split at hid
      · exact (Option.some.inj hid).symm
      · cases hid
    · split at h
      · unfold implicit? at h
        split at h
        · exact (Option.some.inj h).symm
        · cases h
      · cases h
    · cases h

theorem map_literal (value : Json) (h : ∀ items, value ≠ .array items) :
    [value].map σ.apply = [value] := by
  rw [List.map_singleton, apply_literal h]

/-! ### Codes -/

section Check
variable {items : List Json} {operator : Operator} {f : List Json → List Json}

theorem check_changeArguments (hlength : ∀ terms, (f terms).length = terms.length)
    (hliteral : ∀ value, (∀ items, value ≠ .array items) → f [value] = [value])
    (h : check (.array items) = .ok ()) (hop : Operator.ofItems items = .ok operator)
    (hkeeps : operator.operation.keepsPayload = false) (hobject : operator.operation ≠ .makeObject)
    (hterms : (∀ term ∈ argumentTerms items, check term = .ok ()) →
      ∀ term ∈ f (argumentTerms items), check term = .ok ()) :
    check (.array (changeArguments f items)) = .ok () := by
  obtain ⟨found, hfound, hlegal, hlist, -⟩ := check_array_eq_ok.mp h
  cases hop.symm.trans hfound
  have hchanged := ofItems_changeArguments hlength hop hkeeps
  refine check_array_eq_ok.mpr ⟨_, hchanged, hlegal, ?_, fun hmade => absurd hmade hobject⟩
  rintro ⟨terms, hpayload⟩
  rw [argumentTerms_changeArguments hlength hliteral]
  refine hterms (hlist ?_)
  cases hold : operator.payload with
  | list terms => exact ⟨terms, rfl⟩
  | data value =>
    dsimp only at hpayload
    rw [hold] at hpayload
    cases hpayload

theorem check_changeOptions {g : Json → Json} (h : check (.array items) = .ok ())
    (hop : Operator.ofItems items = .ok operator)
    (hterms : ∀ field ∈ optionTerms items, check field.2 = .ok () → check (g field.2) = .ok ()) :
    check (.array (changeOptions (List.map fun field => (field.1, g field.2)) items)) = .ok () := by
  obtain ⟨found, hfound, hlegal, hlist, hfields⟩ := check_array_eq_ok.mp h
  cases hop.symm.trans hfound
  obtain ⟨options?, hchanged⟩ :=
    ofItems_changeOptions (List.map fun field => (field.1, g field.2)) hop
  refine check_array_eq_ok.mpr ⟨_, hchanged, hlegal, fun hpayload => ?_, fun hmade => ?_⟩
  · rw [argumentTerms_changeOptions]
    exact hlist hpayload
  · rw [optionTerms_changeOptions List.map_nil]
    intro field hfield
    obtain ⟨option, hoption, rfl⟩ := List.mem_map.mp hfield
    exact hterms option hoption (hfields hmade option hoption)

end Check

/-- Writing a value into a term brings no bad code into it. -/
theorem check_apply (σ : Substitution) (hσ : ∀ items, σ.value ≠ .array items) (term : Json)
    (h : check term = .ok ()) : check (σ.apply term) = .ok () := by
  match term with
  | .null | .bool _ | .number _ | .string _ | .object _ =>
    rw [apply_literal fun _ h => by cases h]
    exact h
  | .array items =>
    obtain ⟨operator, hop, -⟩ := check_array_eq_ok.mp h
    cases hplace : σ.inPlaceOf? items with
    | some value =>
      rw [apply_inPlace hplace, eq_value_of_inPlaceOf? hplace]
      exact check_literal hσ
    | none =>
      rw [apply_node hop hplace]
      unfold below
      split
      · exact h
      · exact h
      · exact h
      · exact h
      · exact check_changeOptions h hop fun field hfield =>
          check_apply σ hσ field.2
      · next hfunc =>
        refine check_changeArguments (length_changeBody _) (fun _ _ => rfl) h hop
          (by rw [hfunc]; rfl) (by rw [hfunc]; nofun) fun hterms term hterm => ?_
        rcases mem_changeBody hterm with hsame | ⟨params, body, hbody, rfl⟩
        · exact hterms term hsame
        · exact check_apply (σ.under (boundIds params)) hσ body (hterms body hbody)
      · refine check_changeArguments (fun _ => List.length_map _) map_literal h hop
          (keepsPayload_eq_false ‹_› ‹_›) ‹_› fun hterms term hterm => ?_
        obtain ⟨below, hbelow, rfl⟩ := List.mem_map.mp hterm
        exact check_apply σ hσ below (hterms below hbelow)
termination_by term.height
decreasing_by
  · exact height_optionTerms hfield
  · exact height_argumentTerms hbody
  · exact height_argumentTerms hbelow

end Substitution

end DocQuery
