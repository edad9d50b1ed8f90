import DocQuery.Proofs.Query.Beta
import Mathlib.Data.List.Forall2

/-! What queries are composed of.

Outside of all calls there is nothing to resolve, so the handle of a query is made of data,
arrays, objects, calls and functions of the root alone. Its calls have the arguments and the
options that their operations permit (`Composed`). `Built` says this of a whole handle, and
the handle of every term that is built is of that kind (`built_of_build`). -/
namespace DocQuery

/-! ### Handles -/

/-- The calls that evaluation composes of handles of arguments. -/
inductive Composed (settings : Settings) : Operation → List Handle → Fields Json → Prop
  | nullary {op : Operation} (hrule : op.consumption = .nullary) : Composed settings op [] []
  | constructed {op : Operation} {args : List Handle} {options : Fields Json}
    (hrule : op.consumption = .constructor) (hcount : op.descriptor.accepts args.length = true)
    (hoptions : Evaluation.constructed op args options = .call op args options) :
    Composed settings op args options
  | method {op : Operation} {args : List Handle}
    (hrule : op.consumption = .fixed ∨ op.consumption = .variadic)
    (hcount : op.descriptor.accepts args.length = true) (hargs : args.isEmpty = false) :
    Composed settings op args []
  | keyed {op : Operation} {args : List Handle} {options : Fields Json}
    (hrule : op.consumption = .keyed) (hcount : op.descriptor.accepts args.length = true)
    (hargs : args.isEmpty = false) : Composed settings op args options
  | funcall {args : List Handle}
    (hcount : Operation.funcall.descriptor.accepts args.length = true) :
    Composed settings .funcall args []
  /-- A pinned database is the one of the settings, whatever name was asked for. -/
  | pinned (hpinned : settings.pinned = true) :
    Composed settings .db [.datum (.string settings.database)] []
  | named {args : List Handle} (hpinned : settings.pinned = false)
    (hcount : Operation.db.descriptor.accepts args.length = true) : Composed settings .db args []
  /-- Every table has its database written out. -/
  | table (db name : Handle) (options : Fields Json) : Composed settings .table [db, name] options

/-- What can stand in an array: data, or another array that was made. -/
def Handle.isItem : Handle → Bool
  | .datum _ | .array _ => true
  | _ => false

/-- Handles as they are built outside of all calls. -/
inductive Built (settings : Settings) : Handle → Prop
  | datum (value : Json) : Built settings (.datum value)
  | array {items : List Handle} (hitems : ∀ item ∈ items, item.isItem = true)
    (h : ∀ item ∈ items, Built settings item) : Built settings (.array items)
  | object {fields : List (String × Handle)} (h : ∀ field ∈ fields, Built settings field.2) :
    Built settings (.object fields)
  | call {op : Operation} {args : List Handle} {options : Fields Json}
    (hcall : Composed settings op args options) (h : ∀ arg ∈ args, Built settings arg) :
    Built settings (.call op args options)
  | func {ids : List Nat} {body : Json} (hids : ∀ id ∈ ids, (Json.ofNat id).natural? = some id)
    (hcheck : check body = .ok ()) : Built settings (.func ⟨ids, body, Scope.root, settings⟩)

/-! ### Parameters -/

/-- A number that was read as a natural number can be written and read again. -/
theorem Json.natural?_ofNat_of_natural? {value : Json} {n : Nat} (h : value.natural? = some n) :
    (Json.ofNat n).natural? = some n := by
  match value with
  | .number (.integer i) =>
    simp only [Json.natural?, Number.natural?] at h
    split at h
    · next hrange =>
      cases h
      exact Json.natural?_ofNat (by omega)
    · cases h
  | .number (.real _) | .null | .bool _ | .string _ | .array _ | .object _ => cases h

theorem natural?_of_parameterIds {params : Json} {ids : List Nat}
    (h : Evaluation.parameterIds params = .ok ids) :
    ∀ id ∈ ids, (Json.ofNat id).natural? = some id := by
  obtain ⟨term, -, h⟩ := bind_eq_ok h
  split at h
  · intro id hid
    obtain ⟨value, -, hvalue⟩ := mem_of_mapM h hid
    unfold Evaluation.parameterId at hvalue
    split at hvalue
    · next hnatural =>
      cases hvalue
      exact Json.natural?_ofNat_of_natural? hnatural
    · cases hvalue
  · cases h
    exact nofun
  · cases h

/-! ### Evaluation outside of all calls -/

/-- Whatever the meaning gives outside of all calls is built as handles are. -/
def Builds (settings : Settings) (meaning : Meaning) : Prop :=
  ∀ handle, meaning Scope.root = .ok handle → Built settings handle

section Evaluation
open Evaluation
variable {settings : Settings} {items : List Json} {operator : Operator}
  {arguments : List Meaning} {args : List Handle} {handle : Handle}

theorem built_of_evaluateAll (hbuilds : ∀ meaning ∈ arguments, Builds settings meaning)
    (h : evaluateAll arguments Scope.root = .ok args) : ∀ arg ∈ args, Built settings arg := by
  intro arg harg
  obtain ⟨meaning, hmeaning, h⟩ := mem_of_mapM h harg
  exact hbuilds meaning hmeaning arg h

theorem madeArray_data (elements : List Json) (f : Json → Meaning) (scope : Scope) :
    madeArray (.data (.array elements)) (elements.map f) scope = do
      return .array (← elements.mapM fun element => madeItem element (f element) scope) := by
  unfold madeArray
  dsimp only
  have hzip : elements.zip (elements.map f) = elements.map fun element => (element, f element) := by
    rw [← List.zip_map', List.map_id']
  rw [hzip, List.mapM_map]
  rfl

/-- A made array is made of its elements. -/
theorem evaluate_made {items : List Json} (hmade : isMadeArray (.array items) = true)
    {scope : Scope} (h : evaluate settings (.array items) scope = .ok handle) :
    madeArray (.data (.array (argumentTerms items)))
      ((argumentTerms items).map (evaluate settings)) scope = .ok handle := by
  rw [evaluate_array, assemble_eq] at h
  obtain ⟨operator, hop, h⟩ := bind_eq_ok h
  obtain ⟨-, -, h⟩ := bind_eq_ok h
  obtain ⟨hhead, hpayload⟩ := ofItems_eq_ok hop
  have hoperation : operator.operation = .makeArray :=
    Option.some.inj (hhead.symm.trans (head_of_isMadeArray hmade))
  have hdata : operator.payload = .data (.array (argumentTerms items)) := by
    rw [hpayload, hoperation]
    unfold isMadeArray at hmade
    split at hmade
    · next heq =>
      cases heq
      rfl
    · cases hmade
  rw [consume_special (by rw [hoperation]; rfl)] at h
  unfold special at h
  rwa [hoperation, hdata] at h

/-- An array that was made is an array again. -/
theorem eq_array_of_made {items : List Json} (hmade : isMadeArray (.array items) = true)
    {scope : Scope} (h : evaluate settings (.array items) scope = .ok handle) :
    ∃ made, handle = .array made := by
  have h := evaluate_made hmade h
  rw [madeArray_data] at h
  obtain ⟨made, -, h⟩ := bind_eq_ok h
  cases h
  exact ⟨made, rfl⟩

theorem madeItem_builds {element : Json}
    (hbuilds : isMadeArray element = true → Builds settings (evaluate settings element))
    (h : madeItem element (evaluate settings element) Scope.root = .ok handle) :
    handle.isItem = true ∧ Built settings handle := by
  unfold madeItem at h
  split at h
  · next hmade =>
    refine ⟨?_, hbuilds hmade handle h⟩
    match element with
    | .array items =>
      obtain ⟨made, rfl⟩ := eq_array_of_made hmade h
      rfl
    | .null | .bool _ | .number _ | .string _ | .object _ => cases hmade
  · cases h
    exact ⟨rfl, .datum element⟩

theorem madeArray_builds (hop : Operator.ofItems items = .ok operator)
    (hbuilds : ∀ term ∈ (argumentTerms items).filter isMadeArray,
      Builds settings (evaluate settings term)) :
    Builds settings (madeArray operator.payload
      ((argumentTerms items).map (evaluate settings))) := by
  intro handle h
  match hpayload : operator.payload with
  | .list _ =>
    rw [hpayload] at h
    cases h
    exact .array nofun nofun
  | .data (.array elements) =>
    rw [hpayload, argumentTerms_of_data hop hpayload, madeArray_data] at h
    rw [argumentTerms_of_data hop hpayload] at hbuilds
    obtain ⟨handles, hhandles, h⟩ := bind_eq_ok h
    cases h
    have hitem : ∀ item ∈ handles, item.isItem = true ∧ Built settings item := by
      intro item hitem
      obtain ⟨element, helement, h⟩ := mem_of_mapM hhandles hitem
      exact madeItem_builds (fun hmade => hbuilds element (List.mem_filter.mpr ⟨helement, hmade⟩)) h
    exact .array (fun item h => (hitem item h).1) fun item h => (hitem item h).2
  | .data .null | .data (.bool _) | .data (.number _) | .data (.string _) | .data (.object _) =>
    rw [hpayload] at h
    cases h

theorem madeObject_builds {fields : List (String × Meaning)}
    (hbuilds : ∀ field ∈ fields, Builds settings field.2) :
    Builds settings (madeObject fields) := by
  intro handle h
  obtain ⟨made, hmade, h⟩ := bind_eq_ok h
  cases h
  refine .object fun field hfield => ?_
  obtain ⟨⟨key, meaning⟩, hmem, h⟩ := mem_of_mapM hmade hfield
  obtain ⟨handle, hhandle, h⟩ := bind_eq_ok h
  cases h
  exact hbuilds _ hmem handle hhandle

theorem function_builds : Builds settings (function settings operator) := by
  intro handle h
  unfold function at h
  split at h
  · obtain ⟨ids, hids, h⟩ := bind_eq_ok h
    obtain ⟨_, hcheck, h⟩ := bind_eq_ok h
    cases h
    exact .func (natural?_of_parameterIds hids) hcheck
  · cases h

theorem arguments_build (hsub : subterms items = argumentTerms items)
    (ih : ∀ term ∈ subterms items, Builds settings (evaluate settings term)) :
    ∀ meaning ∈ (argumentTerms items).map (evaluate settings), Builds settings meaning := by
  intro meaning hm
  obtain ⟨term, hterm, rfl⟩ := List.mem_map.mp hm
  exact ih term (hsub ▸ hterm)

theorem database_builds (hbuilds : ∀ meaning ∈ arguments, Builds settings meaning)
    (hcount : ∀ args, evaluateAll arguments Scope.root = .ok args →
      Operation.db.descriptor.accepts args.length = true) :
    Builds settings (database settings arguments) := by
  intro handle h
  unfold database at h
  split at h
  · next hpinned =>
    cases h
    refine .call (.pinned hpinned) fun arg harg => ?_
    rw [List.mem_singleton.mp harg]
    exact .datum _
  · next hpinned =>
    obtain ⟨args, hargs, h⟩ := bind_eq_ok h
    cases h
    refine .call (.named ?_ (hcount args hargs)) (built_of_evaluateAll hbuilds hargs)
    simpa using hpinned

/-- The database of the settings is built whether it is pinned or named. -/
theorem built_database (settings : Settings) :
    Built settings (Handle.database settings.database) := by
  have hname : ∀ arg ∈ [Handle.datum (.string settings.database)], Built settings arg := by
    intro arg harg
    rw [List.mem_singleton.mp harg]
    exact .datum _
  cases hpinned : settings.pinned with
  | true => exact .call (.pinned hpinned) hname
  | false => exact .call (.named hpinned rfl) hname

theorem table_builds (hbuilds : ∀ meaning ∈ arguments, Builds settings meaning)
    (options : Fields Json) : Builds settings (table settings arguments options) := by
  intro handle h
  have hcall : ∀ {db name : Handle}, Built settings db → Built settings name →
      Built settings (.call .table [db, name] options) := fun hdb hname =>
    .call (.table _ _ options) (by simpa using ⟨hdb, hname⟩)
  unfold table at h
  split at h
  · next name =>
    obtain ⟨nameHandle, hname, h⟩ := bind_eq_ok h
    cases h
    exact hcall (built_database settings) (hbuilds name List.mem_cons_self _ hname)
  · next db name =>
    obtain ⟨dbHandle, hdb, h⟩ := bind_eq_ok h
    obtain ⟨nameHandle, hname, h⟩ := bind_eq_ok h
    cases h
    refine hcall (hbuilds db List.mem_cons_self _ hdb) (hbuilds name ?_ _ hname)
    exact List.mem_cons_of_mem _ List.mem_cons_self
  · cases h

theorem special_builds (hop : Operator.ofItems items = .ok operator)
    (hcount : operator.operation.descriptor.accepts operator.payload.count = true)
    (ih : ∀ term ∈ subterms items, Builds settings (evaluate settings term)) :
    Builds settings (special settings operator ((argumentTerms items).map (evaluate settings))
      ((optionTerms items).map fun field => (field.1, evaluate settings field.2))) := by
  intro handle h
  have hhead := (ofItems_eq_ok hop).1
  unfold special at h
  split at h
  · cases h
    exact .datum _
  · next hoperation =>
    have hsub : subterms items = (argumentTerms items).filter isMadeArray := by
      simp only [subterms, hhead, hoperation]
    exact madeArray_builds hop (hsub ▸ ih) handle h
  · next hoperation =>
    have hsub : subterms items = (optionTerms items).map Prod.snd := by
      simp only [subterms, hhead, hoperation]
    refine madeObject_builds (fun field hfield => ?_) handle h
    obtain ⟨option, hoption, rfl⟩ := List.mem_map.mp hfield
    exact ih option.2 (hsub ▸ List.mem_map_of_mem hoption)
  -- no variable is bound outside of all calls
  · obtain ⟨id, -, h⟩ := bind_eq_ok h
    cases h
  · cases h
  · exact function_builds handle h
  · next hoperation =>
    have hsub : subterms items = argumentTerms items := by simp only [subterms, hhead, hoperation]
    obtain ⟨args, hargs, h⟩ := bind_eq_ok h
    cases h
    have hcall := accepts_arguments hop (by rw [hoperation]; rfl) hcount hargs
    rw [hoperation] at hcall
    exact .call (.funcall hcall) (built_of_evaluateAll (arguments_build hsub ih) hargs)
  · next hoperation =>
    have hsub : subterms items = argumentTerms items := by simp only [subterms, hhead, hoperation]
    refine database_builds (arguments_build hsub ih) (fun args hargs => ?_) handle h
    have hcall := accepts_arguments hop (by rw [hoperation]; rfl) hcount hargs
    rwa [hoperation] at hcall
  · next hoperation =>
    have hsub : subterms items = argumentTerms items := by simp only [subterms, hhead, hoperation]
    exact table_builds (arguments_build hsub ih) _ handle h
  · cases h

/-- The options that a constructed call keeps are kept again. -/
theorem constructed_eq_call (op : Operation) (args : List Handle) (options : Fields Json) :
    ∃ kept, constructed op args options = .call op args kept ∧
      constructed op args kept = .call op args kept := by
  unfold constructed
  dsimp only
  split
  · exact ⟨[], rfl, rfl⟩
  · exact ⟨options, rfl, rfl⟩

theorem method_builds {op : Operation} {given : Fields Json}
    (hbuilds : ∀ meaning ∈ arguments, Builds settings meaning)
    (hcall : ∀ args, evaluateAll arguments Scope.root = .ok args → args.isEmpty = false →
      Composed settings op args given) : Builds settings (method op arguments given) := by
  intro handle h
  obtain ⟨args, hargs, h⟩ := bind_eq_ok h
  split at h
  · cases h
  · next hnonempty =>
    cases h
    exact .call (hcall args hargs (by simpa using hnonempty)) (built_of_evaluateAll hbuilds hargs)

theorem consume_builds (hop : Operator.ofItems items = .ok operator)
    (hcount : operator.operation.descriptor.accepts operator.payload.count = true)
    (ih : ∀ term ∈ subterms items, Builds settings (evaluate settings term)) :
    Builds settings (consume settings operator ((argumentTerms items).map (evaluate settings))
      ((optionTerms items).map fun field => (field.1, evaluate settings field.2))) := by
  intro handle h
  by_cases hspecial : operator.operation.consumption = .special
  · rw [consume_special hspecial] at h
    exact special_builds hop hcount ih handle h
  have hkeeps : operator.operation.keepsPayload = false :=
    keepsPayload_eq_false (fun heq => hspecial (by rw [heq]; rfl))
      fun heq => hspecial (by rw [heq]; rfl)
  have harguments := arguments_build (subterms_eq hop hspecial) ih
  unfold consume at h
  split at h
  · next hrule =>
    cases h
    exact .call (.nullary hrule) nofun
  · next hrule =>
    obtain ⟨args, hargs, h⟩ := bind_eq_ok h
    obtain ⟨kept, hkept, hagain⟩ := constructed_eq_call operator.operation args operator.options
    cases hkept.symm.trans (Except.ok.inj h)
    have hcall := accepts_arguments hop hkeeps hcount hargs
    exact .call (.constructed hrule hcall hagain) (built_of_evaluateAll harguments hargs)
  · next hrule =>
    exact method_builds harguments (fun args hargs hnonempty =>
      .method (.inl hrule) (accepts_arguments hop hkeeps hcount hargs) hnonempty) handle h
  · next hrule =>
    exact method_builds harguments (fun args hargs hnonempty =>
      .method (.inr hrule) (accepts_arguments hop hkeeps hcount hargs) hnonempty) handle h
  · next hrule =>
    exact method_builds harguments (fun args hargs hnonempty =>
      .keyed hrule (accepts_arguments hop hkeeps hcount hargs) hnonempty) handle h
  · next hrule => exact absurd hrule hspecial
  · cases h

theorem builds (settings : Settings) (term : Json) : Builds settings (evaluate settings term) := by
  match term with
  | .array items =>
    intro handle h
    rw [evaluate_array, assemble_eq] at h
    obtain ⟨operator, hop, h⟩ := bind_eq_ok h
    obtain ⟨_, hpermitted, h⟩ := bind_eq_ok h
    refine consume_builds hop (accepts_of_permitted hpermitted) (fun below hbelow => ?_) handle h
    exact builds settings below
  | .null | .bool _ | .number _ | .string _ | .object _ =>
    intro handle h
    cases h
    exact .datum _
termination_by term.height
decreasing_by exact height_subterms hbelow

end Evaluation

/-- The handle of a query is built as handles are. -/
theorem built_of_build {settings : Settings} {term : Json} {handle : Handle}
    (h : build settings term = .ok handle) : Built settings handle :=
  builds settings term handle h

end DocQuery
