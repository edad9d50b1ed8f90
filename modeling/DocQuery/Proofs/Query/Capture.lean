import DocQuery.Proofs.Query.Alike
import DocQuery.Proofs.Query.Checked
import DocQuery.Proofs.Query.Substitution

/-! Arguments in scopes and in bodies.

In the scope of a call, a term reads the argument from the scope; the term with the argument
written into it has no need to. The two are evaluated outside in step: they fail alike, or
give handles that differ in nothing but their functions, of which one has captured the
argument in its scope and the other in its body (`evaluate_apply`). -/
namespace DocQuery

/-! ### Scopes -/

theorem Scope.resolve_cons (frame : Frame) (scope : Scope) (id : Nat) :
    Scope.resolve (frame :: scope) id =
      match frame.lookup id with
      | some value => .ok value
      | none => scope.resolve id := by
  unfold Scope.resolve
  rw [List.findSome?_cons]
  cases frame.lookup id <;> rfl

/-- A call binds its parameters and nothing else. -/
theorem lookup_zip_eq_none {ids : List Nat} {args : List Json} (h : ids.length = args.length)
    (id : Nat) : (ids.zip args).lookup id = none ↔ id ∉ ids := by
  induction ids generalizing args with
  | nil => simp
  | cons first rest ih =>
    cases args with
    | nil => cases h
    | cons value more =>
      rw [List.zip_cons_cons, List.lookup_cons]
      by_cases hid : id = first
      · simp [hid]
      · rw [beq_false_of_ne hid]
        simp [hid, ih (Nat.succ.inj h)]

namespace Substitution
variable {σ : Substitution}

/-- A scope binds what the substitution writes, and is otherwise as the one outside. -/
structure Binds (σ : Substitution) (scope outer : Scope) : Prop where
  found : ∀ id value, σ.valueOf? id = some value → scope.resolve id = .ok value
  other : ∀ id, σ.valueOf? id = none → scope.resolve id = outer.resolve id
  row : ∀ value, σ.implicit? = some value → scope.implicit = .ok value
  otherRow : σ.implicit? = none → scope.implicit = outer.implicit

/-- Calling a function further in leaves less to be written. -/
theorem Binds.under {scope outer : Scope} (h : σ.Binds scope outer) {ids : List Nat}
    {args : List Json} (hlength : ids.length = args.length) :
    (σ.under ids).Binds (ids.zip args :: scope) (ids.zip args :: outer) where
  found id value hid := by
    unfold valueOf? Substitution.under at hid
    dsimp only at hid
    split at hid
    · next hvisible =>
      simp only [Bool.and_eq_true, Bool.not_eq_true', beq_iff_eq] at hvisible
      obtain ⟨⟨hvisible, hfree⟩, rfl⟩ := hvisible
      have hnone : (ids.zip args).lookup σ.id = none :=
        (lookup_zip_eq_none hlength _).mpr (by simpa using hfree)
      rw [Scope.resolve_cons, hnone]
      exact h.found σ.id value (by simpa [valueOf?, hvisible] using hid)
    · cases hid
  other id hid := by
    rw [Scope.resolve_cons, Scope.resolve_cons]
    cases hlookup : (ids.zip args).lookup id with
    | some value => rfl
    | none =>
      have hfree : id ∉ ids := (lookup_zip_eq_none hlength id).mp hlookup
      refine h.other id ?_
      unfold valueOf? Substitution.under at hid
      unfold valueOf?
      dsimp only at hid
      split at hid
      · cases hid
      · next hnot =>
        refine if_neg fun hvisible => hnot ?_
        simp only [Bool.and_eq_true, beq_iff_eq] at hvisible ⊢
        obtain ⟨hvisible, rfl⟩ := hvisible
        simpa [hvisible] using hfree
  row value hrow := by cases hrow
  otherRow _ := by
    rcases ids.zip args with _ | ⟨_, _ | ⟨_, _⟩⟩ <;> rfl

/-- The scope of a call that binds one parameter. -/
theorem binds_call (id : Nat) (value : Json) :
    Binds { id, value } [[(id, value)]] Scope.root where
  found found other h := by
    unfold valueOf? at h
    split at h
    · next hsame =>
      have hid : found = id := by simpa using hsame
      rw [Scope.resolve_cons, hid, List.lookup_cons, beq_self_eq_true]
      exact congrArg Except.ok (Option.some.inj h)
    · cases h
  other found h := by
    unfold valueOf? at h
    split at h
    · cases h
    · next hne =>
      have hid : found ≠ id := by simpa using hne
      rw [Scope.resolve_cons, List.lookup_cons, beq_false_of_ne hid]
      rfl
  row found h := congrArg Except.ok (Option.some.inj h)
  otherRow h := by cases h

end Substitution

/-! ### Functions that captured an argument -/

/-- Two functions of which one has an argument in its scope and the other in its body. -/
inductive Captured : Function → Function → Prop
  | mk {σ : Substitution} (hvalue : ∀ items, σ.value ≠ .array items) {scope outer : Scope}
    (hbinds : σ.Binds scope outer) (ids : List Nat) {body : Json} (hcheck : check body = .ok ())
    (settings : Settings) :
    Captured ⟨ids, body, scope, settings⟩ ⟨ids, (σ.under ids).apply body, outer, settings⟩

/-- Such functions, with bodies below a height. -/
def CapturedBelow (bound : Nat) (f g : Function) : Prop := Captured f g ∧ f.body.height < bound

/-! ### Evaluation -/

namespace Handle
variable {R : Function → Function → Prop}

theorem alikeAll_of_forall₂ {as bs : List Handle} (h : List.Forall₂ (Alike R) as bs) :
    AlikeAll R as bs := by
  induction h with
  | nil => exact .nil
  | cons hab _ ih => exact .cons hab ih

/-- Calls of related arguments are related, whatever they are calls of. -/
structure Congruence (S : Handle → Handle → Prop) : Prop where
  datum : ∀ value, S (.datum value) (.datum value)
  call : ∀ {args args' : List Handle}, List.Forall₂ S args args' →
    ∀ op options, S (.call op args options) (.call op args' options)

theorem congruence_alike : Congruence (Alike R) where
  datum := .datum
  call h op options := .call op options (alikeAll_of_forall₂ h)

end Handle

namespace Evaluation
open Handle

/-! #### Arguments that are related -/

section Congruence
variable {S : Handle → Handle → Prop} {scope outer : Scope} {arguments arguments' : List Meaning}
  {args args' : List Handle}

theorem evaluateAll_congr
    (h : List.Forall₂ (fun m m' => Agree S (m scope) (m' outer)) arguments arguments') :
    Agree (List.Forall₂ S) (evaluateAll arguments scope) (evaluateAll arguments' outer) := by
  unfold evaluateAll
  induction h with
  | nil => exact List.Forall₂.nil
  | cons hfirst _ ih =>
    rw [List.mapM_cons, List.mapM_cons]
    exact hfirst.bind fun _ _ hhandle => ih.bind fun _ _ hmore => List.Forall₂.cons hhandle hmore

theorem isEmpty_congr (h : List.Forall₂ S args args') : args.isEmpty = args'.isEmpty := by
  cases h <;> rfl

theorem constructed_congr (hS : Congruence S) (h : List.Forall₂ S args args') (op : Operation)
    (options : Fields Json) : S (constructed op args options) (constructed op args' options) := by
  unfold constructed
  rw [isEmpty_congr h]
  exact hS.call h op _

theorem method_congr (hS : Congruence S)
    (h : List.Forall₂ (fun m m' => Agree S (m scope) (m' outer)) arguments arguments')
    (op : Operation) (options : Fields Json) :
    Agree S (method op arguments options scope) (method op arguments' options outer) := by
  refine (evaluateAll_congr h).bind fun args args' hargs => ?_
  dsimp only
  rw [isEmpty_congr hargs]
  split
  · exact .error _
  · exact hS.call hargs op options

theorem database_congr (hS : Congruence S)
    (h : List.Forall₂ (fun m m' => Agree S (m scope) (m' outer)) arguments arguments')
    (settings : Settings) :
    Agree S (database settings arguments scope) (database settings arguments' outer) := by
  unfold database
  split
  · exact hS.call (.cons (hS.datum _) .nil) .db []
  · exact (evaluateAll_congr h).bind fun args args' hargs => hS.call hargs .db []

theorem table_congr (hS : Congruence S)
    (h : List.Forall₂ (fun m m' => Agree S (m scope) (m' outer)) arguments arguments')
    (settings : Settings) (options : Fields Json) :
    Agree S (table settings arguments options scope)
      (table settings arguments' options outer) := by
  match arguments, arguments', h with
  | [], [], .nil => exact .error _
  | [name], [name'], .cons hname .nil =>
    refine hname.bind fun handle handle' hname => ?_
    have hdb : S (Handle.database settings.database) (Handle.database settings.database) :=
      hS.call (.cons (hS.datum _) .nil) .db []
    exact hS.call (.cons hdb (.cons hname .nil)) .table options
  | [db, name], [db', name'], .cons hdb (.cons hname .nil) =>
    refine hdb.bind fun handle handle' hdb => ?_
    refine hname.bind fun _ _ hname => ?_
    exact hS.call (.cons hdb (.cons hname .nil)) .table options
  | _ :: _ :: _ :: _, _ :: _ :: _ :: _, .cons _ (.cons _ (.cons _ _)) => exact .error _

/-- Of operations that are not about data or functions, the handle comes of the arguments. -/
theorem consume_congr (hS : Congruence S) {settings : Settings} {operator : Operator}
    (hop : ∀ op ∈ [Operation.datum, .makeArray, .makeObject, .var, .implicitVar, .func],
      operator.operation ≠ op)
    (h : List.Forall₂ (fun m m' => Agree S (m scope) (m' outer)) arguments arguments')
    (payload : Payload) (fields fields' : List (String × Meaning)) :
    Agree S (consume settings operator arguments fields scope)
      (consume settings { operator with payload } arguments' fields' outer) := by
  unfold consume
  dsimp only
  split
  · exact hS.call .nil _ []
  · exact (evaluateAll_congr h).bind fun args args' hargs => constructed_congr hS hargs _ _
  · exact method_congr hS h _ _
  · exact method_congr hS h _ _
  · exact method_congr hS h _ _
  · unfold special
    dsimp only
    split
    · next hdatum => exact absurd hdatum (hop _ (by simp))
    · next hmade => exact absurd hmade (hop _ (by simp))
    · next hmade => exact absurd hmade (hop _ (by simp))
    · next hvar => exact absurd hvar (hop _ (by simp))
    · next hrow => exact absurd hrow (hop _ (by simp))
    · next hfunc => exact absurd hfunc (hop _ (by simp))
    · exact (evaluateAll_congr h).bind fun args args' hargs => hS.call hargs .funcall []
    · exact database_congr hS h settings
    · exact table_congr hS h settings _
    · exact .error _
  · exact .error _

end Congruence

/-! #### Data and objects -/

variable {R : Function → Function → Prop} {scope outer : Scope} {f g : Json → Meaning}

theorem alikeFields_of_forall₂ {as bs : List (String × Handle)}
    (h : List.Forall₂ (fun a b => a.1 = b.1 ∧ Alike R a.2 b.2) as bs) : AlikeFields R as bs := by
  induction h with
  | nil => exact .nil
  | @cons a b _ _ hab _ ih =>
    obtain ⟨key, a⟩ := a
    obtain ⟨key', b⟩ := b
    obtain ⟨hkey, halike⟩ := hab
    cases hkey
    exact .cons _ halike ih

theorem madeObject_alike {fields : Fields Json}
    (h : ∀ field ∈ fields, Agree (Alike R) (f field.2 scope) (g field.2 outer)) :
    Agree (Alike R) (madeObject (fields.map fun field => (field.1, f field.2)) scope)
      (madeObject (fields.map fun field => (field.1, g field.2)) outer) := by
  unfold madeObject
  rw [List.mapM_map, List.mapM_map]
  refine Agree.bind (R := List.Forall₂ fun a b => a.1 = b.1 ∧ Alike R a.2 b.2)
    (.mapM fun field hfield => ?_) fun made made' hmade =>
      Alike.object (alikeFields_of_forall₂ hmade)
  exact (h field hfield).bind fun handle handle' halike => ⟨rfl, halike⟩

/-- An array is made of the same data in every scope. -/
theorem madeArray_alike {items : List Json} {operator : Operator}
    (hop : Operator.ofItems items = .ok operator)
    (h : ∀ term ∈ (argumentTerms items).filter isMadeArray,
      Agree (Alike R) (f term scope) (f term outer)) :
    Agree (Alike R) (madeArray operator.payload ((argumentTerms items).map f) scope)
      (madeArray operator.payload ((argumentTerms items).map f) outer) := by
  unfold madeArray
  split
  · exact Alike.array .nil
  · next elements hpayload =>
    rw [argumentTerms_of_data hop hpayload] at h ⊢
    refine Agree.bind (R := AlikeAll R) (Agree.imp (.mapM fun pair hpair => ?_)
      fun as bs => alikeAll_of_forall₂) fun made made' hmade => Alike.array hmade
    obtain ⟨element, meaning⟩ := pair
    obtain ⟨helement, rfl⟩ := of_mem_zip_map hpair
    dsimp only [madeItem]
    split
    · next hmade => exact h element (List.mem_filter.mpr ⟨helement, hmade⟩)
    · exact Alike.datum element
  · exact .error _

end Evaluation

/-! ### Terms in two scopes -/

section Terms
open Evaluation Handle
variable {R : Function → Function → Prop} {settings : Settings}

theorem consume_special {operator : Operator} (h : operator.operation.consumption = .special)
    (arguments : List Meaning) (fields : List (String × Meaning)) (scope : Scope) :
    consume settings operator arguments fields scope =
      special settings operator arguments fields scope := by
  unfold consume
  rw [h]

/-- A node whose code is known is evaluated in two steps. -/
theorem evaluate_of_ofItems {items : List Json} {operator : Operator}
    (h : Operator.ofItems items = .ok operator) (scope : Scope) :
    evaluate settings (.array items) scope =
      operator.permitted >>= fun _ =>
        consume settings operator ((argumentTerms items).map (evaluate settings))
          ((optionTerms items).map fun field => (field.1, evaluate settings field.2)) scope := by
  rw [evaluate_array, assemble_eq, h]
  rfl

/-- So is one with a rule of its own, by that rule. -/
theorem evaluate_special {items : List Json} {operator : Operator}
    (h : Operator.ofItems items = .ok operator)
    (hspecial : operator.operation.consumption = .special) (scope : Scope) :
    evaluate settings (.array items) scope =
      operator.permitted >>= fun _ =>
        special settings operator ((argumentTerms items).map (evaluate settings))
          ((optionTerms items).map fun field => (field.1, evaluate settings field.2)) scope := by
  rw [evaluate_of_ofItems h]
  exact congrArg (operator.permitted >>= ·) (funext fun _ => consume_special hspecial _ _ _)

theorem evaluate_literal {term : Json} (h : ∀ items, term ≠ .array items) (scope : Scope) :
    evaluate settings term scope = .ok (.datum term) := by
  cases term with
  | array items => exact absurd rfl (h items)
  | _ => rfl

/-- Arrays that are made in arrays hold nothing that depends on the scope. -/
theorem evaluate_isMadeArray (term : Json) (h : isMadeArray term = true) (scope outer : Scope) :
    Agree (Alike R) (evaluate settings term scope) (evaluate settings term outer) := by
  match term with
  | .null | .bool _ | .number _ | .string _ | .object _ => exact Alike.datum _
  | .array items =>
    rw [evaluate_array, assemble_eq, assemble_eq]
    refine Agree.bind_same fun operator hop => Agree.bind_same fun _ _ => ?_
    have hmade : operator.operation = .makeArray :=
      Option.some.inj ((ofItems_eq_ok hop).1.symm.trans (head_of_isMadeArray h))
    rw [consume_special (by rw [hmade]; rfl), consume_special (by rw [hmade]; rfl)]
    unfold special
    rw [hmade]
    refine madeArray_alike hop fun element helement => ?_
    obtain ⟨hin, helement⟩ := List.mem_filter.mp helement
    exact evaluate_isMadeArray element helement scope outer
termination_by term.height
decreasing_by exact height_argumentTerms hin

/-! ### What is permitted -/

theorem permitted_special {operator : Operator} (h : operator.operation.consumption = .special)
    (haccepts : operator.operation.descriptor.accepts operator.payload.count = true) :
    operator.permitted = .ok () := by
  have hconsumption : operator.operation.descriptor.consumption = .special := h
  have htakes : operator.operation.descriptor.takesOptions = true := by
    unfold Descriptor.takesOptions
    rw [hconsumption]
    rfl
  unfold Operator.permitted
  dsimp only
  rw [hconsumption, haccepts, htakes]
  rfl

end Terms

section Written
open Evaluation Handle
variable {settings : Settings} {σ : Substitution} {scope outer : Scope} {bound : Nat}
  {items : List Json} {operator : Operator}

theorem inPlaceOf?_eq (hop : Operator.ofItems items = .ok operator) :
    σ.inPlaceOf? items =
      match operator.operation with
      | .var => (variableId operator).toOption.bind σ.valueOf?
      | .implicitVar => if operator.payload.terms.isEmpty then σ.implicit? else none
      | _ => none := by
  unfold Substitution.inPlaceOf?
  generalize Operator.ofItems items = found at hop ⊢
  cases hop
  rfl

/-- A variable whose id can be read has one argument. -/
theorem count_of_variableId (hop : Operator.ofItems items = .ok operator)
    (hvar : operator.operation = .var) {id : Nat} (hid : variableId operator = .ok id) :
    operator.payload.count = 1 := by
  have hpayload := (ofItems_eq_ok hop).2
  rw [hvar] at hpayload
  cases hitem : items[1]? with
  | none =>
    rw [hitem] at hpayload
    unfold variableId at hid
    rw [hpayload] at hid
    cases hid
  | some value =>
    rw [hitem] at hpayload
    rw [hpayload]
    cases value <;> rfl

/-- A variable is what it is in the scope. -/
theorem evaluate_var (hop : Operator.ofItems items = .ok operator)
    (hvar : operator.operation = .var) {id : Nat} (hid : variableId operator = .ok id) :
    evaluate settings (.array items) scope = Handle.datum <$> scope.resolve id := by
  have hspecial : operator.operation.consumption = .special := by rw [hvar]; rfl
  have hcount : operator.payload.count = 1 := count_of_variableId hop hvar hid
  rw [evaluate_special hop hspecial, permitted_special hspecial (by rw [hvar, hcount]; rfl)]
  show special settings operator _ _ scope = _
  unfold special
  rw [hvar]
  dsimp only
  rw [hid]
  show (do return Handle.datum (← scope.resolve id)) = _
  cases scope.resolve id <;> rfl

/-- The implicit variable is the argument of the innermost call. -/
theorem evaluate_implicitVar (hop : Operator.ofItems items = .ok operator)
    (hrow : operator.operation = .implicitVar) (hempty : operator.payload.terms = []) :
    evaluate settings (.array items) scope = Handle.datum <$> scope.implicit := by
  have hspecial : operator.operation.consumption = .special := by rw [hrow]; rfl
  have hcount : operator.payload.count = 0 := by rw [Payload.count, hempty, List.length_nil]
  rw [evaluate_special hop hspecial, permitted_special hspecial (by rw [hrow, hcount]; rfl)]
  show special settings operator _ _ scope = _
  unfold special
  rw [hrow]
  cases scope.implicit <;> rfl

/-- Where the value is written, the scope has it too. -/
theorem evaluate_inPlace (hbinds : σ.Binds scope outer)
    (hop : Operator.ofItems items = .ok operator) {value : Json}
    (hplace : σ.inPlaceOf? items = some value) :
    evaluate settings (.array items) scope = .ok (.datum value) := by
  rw [inPlaceOf?_eq hop] at hplace
  split at hplace
  · next hvar =>
    obtain ⟨id, hfound, hvalue⟩ := Option.bind_eq_some_iff.mp hplace
    have hid : variableId operator = .ok id := by
      cases h : variableId operator with
      | ok found =>
        rw [h] at hfound
        exact congrArg Except.ok (Option.some.inj hfound)
      | error fault =>
        rw [h] at hfound
        cases hfound
    rw [evaluate_var hop hvar hid, hbinds.found id value hvalue]
    rfl
  · next hrow =>
    split at hplace
    · next hempty =>
      rw [evaluate_implicitVar hop hrow (List.isEmpty_iff.mp hempty), hbinds.row value hplace]
      rfl
    · cases hplace
  · cases hplace

/-- Data, and a variable that is left alone, are the same in both scopes. -/
theorem evaluate_kept {R : Function → Function → Prop} (hbinds : σ.Binds scope outer)
    (hop : Operator.ofItems items = .ok operator) (hplace : σ.inPlaceOf? items = none)
    (hkept : operator.operation ∈ [Operation.datum, .makeArray, .var, .implicitVar]) :
    Agree (Alike R) (evaluate settings (.array items) scope)
      (evaluate settings (.array items) outer) := by
  simp only [List.mem_cons, List.not_mem_nil, or_false] at hkept
  have hspecial : operator.operation.consumption = .special := by
    rcases hkept with h | h | h | h <;> rw [h] <;> rfl
  rw [evaluate_special hop hspecial, evaluate_special hop hspecial]
  refine Agree.bind_same fun _ hpermitted => ?_
  rw [inPlaceOf?_eq hop] at hplace
  unfold special
  rcases hkept with hdatum | hmade | hvar | hrow
  · rw [hdatum]
    exact Alike.datum _
  · rw [hmade]
    refine madeArray_alike hop fun element helement => ?_
    exact evaluate_isMadeArray element (List.mem_filter.mp helement).2 scope outer
  · rw [hvar] at hplace ⊢
    refine Agree.bind_same fun id hid => ?_
    dsimp only at hplace
    rw [hid] at hplace
    rw [hbinds.other id hplace]
    exact Agree.bind_same fun value _ => Alike.datum value
  · have haccepts := accepts_of_permitted hpermitted
    rw [hrow] at haccepts hplace ⊢
    have hcount : operator.payload.terms.length = 0 := by
      simpa [Descriptor.accepts, Operation.descriptor, Payload.count] using haccepts
    have hempty : operator.payload.terms.isEmpty = true := by
      rw [List.length_eq_zero_iff.mp hcount]
      rfl
    dsimp only at hplace
    rw [if_pos hempty] at hplace
    rw [hbinds.otherRow hplace]
    exact Agree.bind_same fun value _ => Alike.datum value

theorem evaluate_changeOptions {R : Function → Function → Prop}
    (hop : Operator.ofItems items = .ok operator) (hmade : operator.operation = .makeObject)
    {g : Json → Json}
    (h : ∀ field ∈ optionTerms items, Agree (Alike R) (evaluate settings field.2 scope)
      (evaluate settings (g field.2) outer)) :
    Agree (Alike R) (evaluate settings (.array items) scope)
      (evaluate settings
        (.array (changeOptions (List.map fun field => (field.1, g field.2)) items)) outer) := by
  obtain ⟨options?, hchanged⟩ :=
    ofItems_changeOptions (List.map fun field => (field.1, g field.2)) hop
  have hspecial : operator.operation.consumption = .special := by rw [hmade]; rfl
  have hpermitted := permitted_options hspecial options?
  have hspecial' :
      Operation.consumption (Operator.operation { operator with options? }) = .special :=
    hspecial
  rw [evaluate_special hop hspecial, evaluate_special hchanged hspecial', hpermitted,
    optionTerms_changeOptions List.map_nil]
  refine Agree.bind_same fun _ _ => ?_
  unfold special
  dsimp only
  rw [hmade, List.map_map]
  exact madeObject_alike (f := evaluate settings) (g := fun term => evaluate settings (g term)) h

theorem evaluate_changeArguments {R : Function → Function → Prop}
    (hop : Operator.ofItems items = .ok operator)
    (hother : ∀ op ∈ [Operation.datum, .makeArray, .makeObject, .var, .implicitVar, .func],
      operator.operation ≠ op) {g : Json → Json}
    (hliteral : ∀ value, (∀ items, value ≠ .array items) → g value = value)
    (h : ∀ term ∈ argumentTerms items, Agree (Alike R) (evaluate settings term scope)
      (evaluate settings (g term) outer)) :
    Agree (Alike R) (evaluate settings (.array items) scope)
      (evaluate settings (.array (changeArguments (List.map g) items)) outer) := by
  have hlength : ∀ terms : List Json, (terms.map g).length = terms.length := fun _ =>
    List.length_map _
  have hkeeps : operator.operation.keepsPayload = false :=
    keepsPayload_eq_false (hother _ (by simp)) (hother _ (by simp))
  have hchanged := ofItems_changeArguments hlength hop hkeeps
  rw [evaluate_of_ofItems hop, evaluate_of_ofItems hchanged,
    permitted_payload (Payload.count_change hlength _)]
  refine Agree.bind_same fun _ _ => ?_
  rw [argumentTerms_changeArguments hlength fun value hvalue => by
    rw [List.map_singleton, hliteral value hvalue], List.map_map]
  refine consume_congr congruence_alike hother ?_ _ _ _
  rw [List.forall₂_map_left_iff, List.forall₂_map_right_iff, List.forall₂_same]
  exact h

/-- The body of a function is not looked into: the argument is captured, in the scope or in
the body. -/
theorem function_alike (hvalue : ∀ items, σ.value ≠ .array items) (hbinds : σ.Binds scope outer)
    (hheight : ∀ term ∈ operator.payload.terms, term.height < bound)
    (hcheck : ∀ term ∈ operator.payload.terms, check term = .ok ()) :
    Agree (Alike (CapturedBelow bound)) (function settings operator scope)
      (function settings
        { operator with payload := operator.payload.change (changeBody σ.inBody) } outer) := by
  unfold function
  cases hpayload : operator.payload with
  | data value => exact .error _
  | list terms =>
    rcases terms with _ | ⟨params, _ | ⟨body, more⟩⟩
    · exact .error _
    · exact .error _
    · have hin : body ∈ operator.payload.terms := by
        rw [hpayload]
        exact List.mem_cons_of_mem _ List.mem_cons_self
      refine Agree.bind_same fun ids hids => ?_
      have hbound : boundIds params = ids := by
        unfold boundIds
        rw [hids]
        rfl
      unfold Substitution.inBody
      rw [hbound, hcheck body hin,
        Substitution.check_apply (σ.under ids) hvalue body (hcheck body hin)]
      exact Alike.func ⟨.mk hvalue hbinds ids (hcheck body hin) settings, hheight body hin⟩

theorem evaluate_changeBody (hvalue : ∀ items, σ.value ≠ .array items)
    (hbinds : σ.Binds scope outer) (hop : Operator.ofItems items = .ok operator)
    (hfunc : operator.operation = .func) (hheight : (Json.array items).height ≤ bound)
    (hcheck : ∀ term ∈ argumentTerms items, check term = .ok ()) :
    Agree (Alike (CapturedBelow bound)) (evaluate settings (.array items) scope)
      (evaluate settings (.array (changeArguments (changeBody σ.inBody) items)) outer) := by
  have hspecial : operator.operation.consumption = .special := by rw [hfunc]; rfl
  have hkeeps : operator.operation.keepsPayload = false := by rw [hfunc]; rfl
  have hterms : operator.payload.terms = argumentTerms items := argumentTerms_of_payload hop hkeeps
  have hchanged := ofItems_changeArguments (length_changeBody σ.inBody) hop hkeeps
  have hpermitted : Operator.permitted
      { operator with payload := operator.payload.change (changeBody σ.inBody) } =
        operator.permitted :=
    permitted_payload (Payload.count_change (length_changeBody σ.inBody) operator.payload)
  have hspecial' : ∀ payload,
      Operation.consumption (Operator.operation { operator with payload }) = .special := fun _ =>
    hspecial
  rw [evaluate_special hop hspecial, evaluate_special hchanged (hspecial' _), hpermitted]
  refine Agree.bind_same fun _ _ => ?_
  unfold special
  dsimp only
  rw [hfunc]
  refine function_alike hvalue hbinds (fun term hterm => ?_) (hterms ▸ hcheck)
  have hlower : term.height < (Json.array items).height := height_argumentTerms (hterms ▸ hterm)
  omega

/-- In the two scopes, a term and the term with the value written into it fail alike, or give
handles that differ in functions that have captured the value. -/
theorem evaluate_apply (hvalue : ∀ items, σ.value ≠ .array items) (hbinds : σ.Binds scope outer)
    (term : Json) (hheight : term.height ≤ bound) (hcheck : check term = .ok ()) :
    Agree (Alike (CapturedBelow bound)) (evaluate settings term scope)
      (evaluate settings (σ.apply term) outer) := by
  match term with
  | .null | .bool _ | .number _ | .string _ | .object _ =>
    rw [Substitution.apply_literal fun _ h => by cases h]
    exact Alike.datum _
  | .array items =>
    obtain ⟨operator, hop, -, -, hfields⟩ := check_array_eq_ok.mp hcheck
    cases hplace : σ.inPlaceOf? items with
    | some value =>
      rw [evaluate_inPlace hbinds hop hplace, Substitution.apply_inPlace hplace,
        Substitution.eq_value_of_inPlaceOf? hplace, evaluate_literal hvalue]
      exact Alike.datum _
    | none =>
      rw [Substitution.apply_node hop hplace]
      unfold Substitution.below
      split
      · next h => exact evaluate_kept hbinds hop hplace (by simp [h])
      · next h => exact evaluate_kept hbinds hop hplace (by simp [h])
      · next h => exact evaluate_kept hbinds hop hplace (by simp [h])
      · next h => exact evaluate_kept hbinds hop hplace (by simp [h])
      · next hmade =>
        refine evaluate_changeOptions hop hmade fun field hfield => ?_
        have hlower : field.2.height < (Json.array items).height := height_optionTerms hfield
        exact evaluate_apply hvalue hbinds field.2 (by omega) (hfields hmade field hfield)
      · next hfunc =>
        have hterms := check_argument hcheck hop (by rw [hfunc]; rfl)
        exact evaluate_changeBody hvalue hbinds hop hfunc hheight hterms
      · have hother : ∀ op ∈ [Operation.datum, .makeArray, .makeObject, .var, .implicitVar, .func],
            operator.operation ≠ op := by
          simp only [List.mem_cons, List.not_mem_nil, or_false]
          rintro op (rfl | rfl | rfl | rfl | rfl | rfl) <;> assumption
        have hterms := check_argument hcheck hop
          (keepsPayload_eq_false (hother _ (by simp)) (hother _ (by simp)))
        refine evaluate_changeArguments hop hother (fun _ => Substitution.apply_literal)
          fun below hbelow => ?_
        have hlower : below.height < (Json.array items).height := height_argumentTerms hbelow
        exact evaluate_apply hvalue hbinds below (by omega) (hterms below hbelow)
termination_by term.height

end Written

end DocQuery
