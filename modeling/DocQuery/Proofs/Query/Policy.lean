import DocQuery.Proofs.Fault
import DocQuery.Proofs.Run.Dispatch
import DocQuery.Proofs.Run.Outcome
import DocQuery.Run.Query

/-! Policies on handles.

A policy says which calls, functions and data a handle may be made of. Evaluation only
makes calls of the operations that a term names, functions of the bodies below it and data
that the term holds or the scope binds, so handles of terms of some class are allowed by a
policy (`Policy.Admits`). If in a logic every allowed call keeps to the rules
(`Policy.Sound`), every run of an allowed handle does, however deep its calls nest. -/
namespace DocQuery

/-! ### Handles -/

/-- Arguments are made of handles one by one. -/
theorem Handle.arguments_eq_map (call : Function → List Json → Run Json) (handles : List Handle) :
    arguments call handles = handles.map (argument call) := by
  induction handles with
  | nil => rfl
  | cons handle rest ih => rw [arguments, ih, List.map_cons]

/-- Handles that are no spliced lists are no arguments that are. -/
theorem Handle.heads_arguments {call : Function → List Json → Run Json} {handles : List Handle}
    (h : ∀ handle ∈ handles, (handle.argument call).head ≠ some .args) :
    ∀ arg ∈ arguments call handles, arg.head ≠ some .args := by
  rw [arguments_eq_map, List.forall_mem_map]
  exact h

/-- What the calls, the functions and the data in a handle have to be like. -/
structure Policy where
  Calls : Operation → List Handle → Prop
  Functions : Function → Prop
  Data : Json → Prop := fun _ => True
  /-- How many items an array may be made of. -/
  Lengths : Nat → Prop := fun _ => True

namespace Policy
variable {p : Policy}

mutual

/-- All calls, functions and data in a handle are as the policy says. -/
def Allows (p : Policy) : Handle → Prop
  | .datum value => p.Data value
  | .array items => p.Lengths items.length ∧ AllowsAll p items
  | .object fields => AllowsFields p fields
  | .call op args _ => p.Calls op args ∧ AllowsAll p args
  | .func f => p.Functions f

def AllowsAll (p : Policy) : List Handle → Prop
  | [] => True
  | handle :: rest => Allows p handle ∧ AllowsAll p rest

def AllowsFields (p : Policy) : List (String × Handle) → Prop
  | [] => True
  | (_, handle) :: rest => Allows p handle ∧ AllowsFields p rest

end

theorem allowsAll_iff {items : List Handle} :
    p.AllowsAll items ↔ ∀ handle ∈ items, p.Allows handle := by
  induction items with
  | nil => simp [AllowsAll]
  | cons handle rest ih => simp [AllowsAll, ih]

theorem allowsFields_iff {fields : List (String × Handle)} :
    p.AllowsFields fields ↔ ∀ field ∈ fields, p.Allows field.2 := by
  induction fields with
  | nil => simp [AllowsFields]
  | cons field rest ih => simp [AllowsFields, ih]

end Policy

/-! ### Terms below a term -/

/-- The argument terms of a node. -/
def argumentTerms : List Json → List Json
  | _ :: .array terms :: _ => terms
  | _ :: term :: _ => [term]
  | _ => []

/-- The options of a node, taken as terms. -/
def optionTerms : List Json → Fields Json
  | _ :: _ :: .object fields :: _ => fields
  | _ => []

/-- The terms below a node that evaluation looks into. Data is not looked into, nor are
elements of a made array that are no made arrays themselves. -/
def subterms (items : List Json) : List Json :=
  match items.head?.bind Operation.ofHead? with
  | some .datum | some .var | some .implicitVar => []
  | some .makeArray => (argumentTerms items).filter Evaluation.isMadeArray
  | some .makeObject => (optionTerms items).map Prod.snd
  | _ => argumentTerms items

/-- The data that a node holds: what stands in a `DATUM`, and those elements of a made array
that are no made arrays themselves. -/
def dataTerms (items : List Json) : List Json :=
  match items.head?.bind Operation.ofHead? with
  | some .datum => [(argumentTerms items).head?.getD .null]
  | some .makeArray => (argumentTerms items).filter (!Evaluation.isMadeArray ·)
  | _ => []

theorem meanings_eq (settings : Settings) (terms : List Json) :
    meanings settings terms = terms.map (evaluate settings) := by
  induction terms with
  | nil => rw [meanings, List.map_nil]
  | cons term rest ih => rw [meanings, ih, List.map_cons]

theorem fieldMeanings_eq (settings : Settings) (fields : Fields Json) :
    fieldMeanings settings fields =
      fields.map fun field => (field.1, evaluate settings field.2) := by
  induction fields with
  | nil => rw [fieldMeanings, List.map_nil]
  | cons field rest ih => rw [fieldMeanings, ih, List.map_cons]

theorem argumentMeanings_eq (settings : Settings) (items : List Json) :
    argumentMeanings settings items = (argumentTerms items).map (evaluate settings) := by
  unfold argumentMeanings
  split
  · exact meanings_eq settings _
  · simp [argumentTerms]
  · simp [argumentTerms]

theorem optionMeanings_eq (settings : Settings) (items : List Json) :
    optionMeanings settings items =
      (optionTerms items).map fun field => (field.1, evaluate settings field.2) := by
  unfold optionMeanings
  split
  · exact fieldMeanings_eq settings _
  · simp [optionTerms]

/-- The meaning of a node comes of the meanings of the terms below it. -/
theorem evaluate_array (settings : Settings) (items : List Json) :
    evaluate settings (.array items) =
      Evaluation.assemble settings items ((argumentTerms items).map (evaluate settings))
        ((optionTerms items).map fun field => (field.1, evaluate settings field.2)) := by
  rw [evaluate, argumentMeanings_eq, optionMeanings_eq]

/-! ### Heights -/

theorem height_le_of_mem {item : Json} {items : List Json} (h : item ∈ items) :
    item.height ≤ Json.heightOfItems items := by
  induction items with
  | nil => cases h
  | cons first rest ih =>
    rw [Json.heightOfItems]
    rcases List.mem_cons.mp h with rfl | h
    · exact Nat.le_max_left _ _
    · exact Nat.le_trans (ih h) (Nat.le_max_right _ _)

theorem height_le_of_mem_fields {field : String × Json} {fields : Fields Json}
    (h : field ∈ fields) : field.2.height ≤ Json.heightOfFields fields := by
  induction fields with
  | nil => cases h
  | cons first rest ih =>
    rw [Json.heightOfFields]
    rcases List.mem_cons.mp h with rfl | h
    · exact Nat.le_max_left _ _
    · exact Nat.le_trans (ih h) (Nat.le_max_right _ _)

theorem height_argumentTerms {items : List Json} {term : Json} (h : term ∈ argumentTerms items) :
    term.height < (Json.array items).height := by
  unfold argumentTerms at h
  split at h
  · have hterm := height_le_of_mem h
    simp only [Json.height, Json.heightOfItems]
    omega
  · rw [List.mem_singleton.mp h]
    simp only [Json.height, Json.heightOfItems]
    omega
  · cases h

theorem height_optionTerms {items : List Json} {field : String × Json}
    (h : field ∈ optionTerms items) : field.2.height < (Json.array items).height := by
  unfold optionTerms at h
  split at h
  · have hfield := height_le_of_mem_fields h
    simp only [Json.height, Json.heightOfItems]
    omega
  · cases h

/-- The terms that evaluation looks into stand lower than the node. -/
theorem height_subterms {items : List Json} {term : Json} (h : term ∈ subterms items) :
    term.height < (Json.array items).height := by
  unfold subterms at h
  split at h
  · cases h
  · cases h
  · cases h
  · exact height_argumentTerms (List.mem_filter.mp h).1
  · obtain ⟨field, hfield, rfl⟩ := List.mem_map.mp h
    exact height_optionTerms hfield
  · exact height_argumentTerms h

/-- Terms beside their meanings. -/
theorem of_mem_zip_map {terms : List Json} {f : Json → Meaning} {term : Json} {meaning : Meaning}
    (h : (term, meaning) ∈ terms.zip (terms.map f)) : term ∈ terms ∧ meaning = f term := by
  rw [← List.map_id terms, List.map_map, List.zip_map', List.mem_map] at h
  obtain ⟨found, hfound, heq⟩ := h
  cases heq
  exact ⟨hfound, rfl⟩

/-! ### Operators -/

theorem head_of_isMadeArray {items : List Json} (h : Evaluation.isMadeArray (.array items) = true) :
    items.head?.bind Operation.ofHead? = some .makeArray := by
  unfold Evaluation.isMadeArray at h
  split at h
  · next head terms rest heq =>
    cases heq
    have hcode : head.natural? = some Operation.makeArray.code := of_decide_eq_true h
    simp only [List.head?_cons, Option.bind_some, Operation.ofHead?, hcode]
    rfl
  · cases h

section Operators
variable {items : List Json} {operator : Operator}

theorem ofItems_eq_ok (h : Operator.ofItems items = .ok operator) :
    items.head?.bind Operation.ofHead? = some operator.operation ∧
      operator.payload = .ofElement operator.operation items[1]? := by
  unfold Operator.ofItems at h
  split at h
  · cases h
  · split at h
    · cases h
    · next hop =>
      obtain ⟨options, -, h⟩ := bind_eq_ok h
      cases h
      exact ⟨hop, rfl⟩

theorem keepsPayload_eq_false {op : Operation} (h : op ≠ .makeArray) (h' : op ≠ .var) :
    op.keepsPayload = false := by
  simp only [Operation.keepsPayload, Bool.or_eq_false_iff, beq_eq_false_iff_ne]
  exact ⟨h, h'⟩

theorem argumentTerms_of_payload (h : Operator.ofItems items = .ok operator)
    (hop : operator.operation.keepsPayload = false) :
    operator.payload.terms = argumentTerms items := by
  rw [(ofItems_eq_ok h).2]
  match items with
  | [] | [_] => rfl
  | _ :: value :: _ =>
    cases value with
    | array terms =>
      show (Payload.ofElement _ (some (Json.array terms))).terms = terms
      simp [Payload.ofElement, hop, Payload.terms]
    | _ => rfl

theorem argumentTerms_of_data (h : Operator.ofItems items = .ok operator) {terms : List Json}
    (hdata : operator.payload = .data (.array terms)) : argumentTerms items = terms := by
  rw [(ofItems_eq_ok h).2] at hdata
  match items with
  | [] | [_] => cases hdata
  | _ :: value :: _ =>
    cases value with
    | array inner =>
      show inner = terms
      have hdata : Payload.ofElement operator.operation (some (Json.array inner)) =
        .data (.array terms) := hdata
      by_cases hop : operator.operation.keepsPayload
      · simp only [Payload.ofElement, hop, if_true] at hdata
        cases hdata
        rfl
      · simp only [Payload.ofElement, hop] at hdata
        cases hdata
    | _ => cases hdata

/-- A payload that is kept as data is a list of terms only where there is none. -/
theorem argumentTerms_of_list (h : Operator.ofItems items = .ok operator)
    (hkeeps : operator.operation.keepsPayload = true) {terms : List Json}
    (hlist : operator.payload = .list terms) : argumentTerms items = [] := by
  rw [(ofItems_eq_ok h).2] at hlist
  match items with
  | [] | [_] => rfl
  | _ :: value :: _ =>
    cases value with
    | array inner =>
      have hlist : Payload.ofElement operator.operation (some (Json.array inner)) =
        .list terms := hlist
      rw [Payload.ofElement, if_pos hkeeps] at hlist
      cases hlist
    | _ => cases hlist

theorem subterms_eq (h : Operator.ofItems items = .ok operator)
    (hrule : operator.operation.consumption ≠ .special) :
    subterms items = argumentTerms items := by
  unfold subterms
  rw [(ofItems_eq_ok h).1]
  generalize operator.operation = op at hrule
  cases op <;> first | rfl | exact absurd rfl hrule

end Operators

/-! ### Evaluation -/

namespace Operation

/-- Evaluated, and by a rule that the operation shares with others. -/
def isRegular (op : Operation) : Bool :=
  op.consumption != .special && op.consumption != .forbidden

theorem legal_of_isRegular {op : Operation} (h : op.isRegular = true) :
    op.consumption ≠ .forbidden := by
  intro hrule
  rw [isRegular, hrule] at h
  cases h

theorem not_special_of_isRegular {op : Operation} (h : op.isRegular = true) :
    op.consumption ≠ .special := by
  intro hrule
  rw [isRegular, hrule] at h
  cases h

/-- What has no arguments is accepted with none only. -/
theorem count_of_nullary {op : Operation} (hrule : op.consumption = .nullary) {count : Nat}
    (h : op.descriptor.accepts count = true) : count = 0 := by
  have hmax : op.descriptor.maxArgs = some 0 := by
    cases op <;> first | rfl | cases hrule
  simp only [Descriptor.accepts, hmax, Option.all_some, Bool.and_eq_true, decide_eq_true_eq] at h
  exact Nat.le_zero.mp h.2

end Operation

/-- The operation may be evaluated, with so many arguments and with such options. -/
def Operator.permitted (operator : Operator) : Except Fault Unit := do
  let op := operator.operation
  let d := op.descriptor
  if d.consumption = .forbidden then throw (.illegalOperation op)
  unless d.accepts operator.payload.count do
    throw (.arity op d.minArgs d.maxArgs operator.payload.count)
  unless d.takesOptions || operator.options.isEmpty do throw (.optionsRefused op)

theorem accepts_of_permitted {operator : Operator} {u : Unit} (h : operator.permitted = .ok u) :
    operator.operation.descriptor.accepts operator.payload.count = true := by
  refine Decidable.byContradiction fun hnot => ?_
  unfold Operator.permitted at h
  dsimp only at h
  split at h
  · cases h
  · split at h
    · contradiction
    · cases h

/-- The handle of a permitted operator, by the way in which it consumes its arguments. -/
def Evaluation.consume (settings : Settings) (operator : Operator) (arguments : List Meaning)
    (fields : List (String × Meaning)) : Meaning := fun scope =>
  match operator.operation.consumption with
  | .nullary => .ok (.call operator.operation [] [])
  | .constructor => do
    return constructed operator.operation (← evaluateAll arguments scope) operator.options
  | .fixed | .variadic => method operator.operation arguments [] scope
  | .keyed => method operator.operation arguments operator.options scope
  | .special => special settings operator arguments fields scope
  | .forbidden => .error (.illegalOperation operator.operation)

/-- A node is evaluated in three steps: its code, what it permits, and its arguments. -/
theorem Evaluation.assemble_eq (settings : Settings) (items : List Json)
    (arguments : List Meaning) (fields : List (String × Meaning)) (scope : Scope) :
    assemble settings items arguments fields scope =
      Operator.ofItems items >>= fun operator =>
        operator.permitted >>= fun _ => consume settings operator arguments fields scope := by
  unfold assemble Operator.permitted
  refine congrArg (Operator.ofItems items >>= ·) (funext fun operator => ?_)
  by_cases hforbidden : operator.operation.descriptor.consumption = .forbidden
  · simp only [if_pos hforbidden]
    rfl
  by_cases haccepts : operator.operation.descriptor.accepts operator.payload.count = true
  · by_cases hoptions :
        (operator.operation.descriptor.takesOptions || operator.options.isEmpty) = true
    · simp only [if_neg hforbidden, if_pos haccepts, if_pos hoptions]
      rfl
    · simp only [if_neg hforbidden, if_pos haccepts, if_neg hoptions]
      rfl
  · simp only [if_neg hforbidden, if_neg haccepts]
    rfl

section Counts
variable {settings : Settings} {scope : Scope} {items : List Json} {operator : Operator}
  {args : List Handle}

theorem length_evaluateAll {arguments : List Meaning}
    (h : Evaluation.evaluateAll arguments scope = .ok args) : args.length = arguments.length :=
  (mapM_eq_ok_iff.mp h).length_eq.symm

/-- As many arguments are evaluated as were counted. -/
theorem accepts_arguments (hop : Operator.ofItems items = .ok operator)
    (hkeeps : operator.operation.keepsPayload = false)
    (hcount : operator.operation.descriptor.accepts operator.payload.count = true)
    (hargs : Evaluation.evaluateAll ((argumentTerms items).map (evaluate settings)) scope =
      .ok args) : operator.operation.descriptor.accepts args.length = true := by
  rw [length_evaluateAll hargs, List.length_map, ← argumentTerms_of_payload hop hkeeps]
  exact hcount

/-- The numbers of arguments in the calls that evaluation makes. -/
inductive Operation.Takes : Operation → Nat → Prop
  | regular {op : Operation} {count : Nat} (hregular : op.isRegular = true)
    (h : op.descriptor.accepts count = true) : Takes op count
  | funcall {count : Nat} (h : Operation.funcall.descriptor.accepts count = true) :
    Takes .funcall count
  | db {count : Nat} (h : Operation.db.descriptor.accepts count = true) : Takes .db count
  /-- A table has its database written out. -/
  | table : Takes .table 2

/-- Calls have the arguments that their operations read, as the bounds of the table say. -/
theorem Operation.Takes.reads_le {op : Operation} {count : Nat} (h : op.Takes count) :
    op.reads ≤ count := by
  have hleast : ∀ {made : Operation}, made.descriptor.accepts count = true →
      made.descriptor.minArgs ≤ count := fun h => by
    simp only [Descriptor.accepts, Bool.and_eq_true, decide_eq_true_eq] at h
    exact h.1
  cases h with
  | regular hregular h =>
    have hreads : op.reads ≤ op.descriptor.minArgs := by
      clear h hleast
      cases op <;> first | decide | cases hregular
    exact Nat.le_trans hreads (hleast h)
  | funcall h => exact hleast h
  | db h => exact hleast h
  | table => exact Nat.le_refl 2

end Counts

namespace Policy
variable {p : Policy} {settings : Settings} {T : Json → Prop}

/-- A scope binds data that handles may hold. -/
def Binds (p : Policy) (scope : Scope) : Prop :=
  ∀ frame ∈ scope, ∀ binding ∈ frame, p.Data binding.2

theorem binds_root : p.Binds Scope.root := nofun

theorem Binds.bind {scope bound : Scope} {params : List Nat} {args : List Json}
    (h : p.Binds scope) (hargs : ∀ arg ∈ args, p.Data arg)
    (hbound : scope.bind params args = .ok bound) : p.Binds bound := by
  unfold Scope.bind at hbound
  split at hbound
  · cases hbound
    refine List.forall_mem_cons.mpr ⟨fun binding hbinding => ?_, h⟩
    exact hargs _ (List.of_mem_zip hbinding).2
  · cases hbound

theorem Binds.resolve {scope : Scope} {id : Nat} {value : Json} (h : p.Binds scope)
    (hvalue : scope.resolve id = .ok value) : p.Data value := by
  unfold Scope.resolve at hvalue
  split at hvalue
  · next found hfound =>
    cases hvalue
    obtain ⟨frame, hframe, hlookup⟩ := List.exists_of_findSome?_eq_some hfound
    obtain ⟨before, after, rfl, -⟩ := List.lookup_eq_some_iff.mp hlookup
    exact h _ hframe (id, value) List.mem_append_cons_self
  · cases hvalue

theorem Binds.implicit {scope : Scope} {value : Json} (h : p.Binds scope)
    (hvalue : scope.implicit = .ok value) : p.Data value := by
  unfold Scope.implicit at hvalue
  split at hvalue
  · cases hvalue
    exact h _ List.mem_cons_self _ List.mem_cons_self
  · cases hvalue
  · cases hvalue

/-- Terms of a class keep to the policy when they are evaluated: the class is closed under the
terms below, and the calls and functions that they make and the data that they hold are
allowed. -/
structure Admits (p : Policy) (settings : Settings) (T : Json → Prop) : Prop where
  below : ∀ items, T (.array items) → ∀ term ∈ subterms items, T term
  call : ∀ items operator args, T (.array items) → Operator.ofItems items = .ok operator →
    operator.operation ≠ .db → operator.operation.Takes args.length →
    p.Calls operator.operation args
  database : p.Calls .db [.datum (.string settings.database)]
  unpinned : settings.pinned = false → ∀ args, Operation.db.Takes args.length → p.Calls .db args
  function : ∀ items params body scope, T (.array items) → body ∈ subterms items →
    check body = .ok () → p.Binds scope → p.Functions ⟨params, body, scope, settings⟩
  literal : ∀ v, T v → (∀ items, v ≠ .array items) → p.Data v := by
    exact fun _ _ _ => trivial
  data : ∀ items, T (.array items) → ∀ v ∈ dataTerms items, p.Data v := by
    exact fun _ _ _ _ => trivial
  made : ∀ items, T (.array items) → items.head?.bind Operation.ofHead? = some .makeArray →
    p.Lengths (argumentTerms items).length := by exact fun _ _ _ => trivial
  name : p.Data (.string settings.database) := by exact trivial

/-- In a scope of allowed data, every handle that a meaning gives is allowed. -/
def Means (p : Policy) (meaning : Meaning) : Prop :=
  ∀ scope, p.Binds scope → ∀ handle, meaning scope = .ok handle → p.Allows handle

theorem arguments_mean {items : List Json} (hsub : subterms items = argumentTerms items)
    (h : ∀ term ∈ subterms items, p.Means (evaluate settings term)) :
    ∀ meaning ∈ (argumentTerms items).map (evaluate settings), p.Means meaning := by
  intro meaning hm
  obtain ⟨term, hterm, rfl⟩ := List.mem_map.mp hm
  exact h term (hsub ▸ hterm)

theorem evaluateAll_allows {meanings : List Meaning} (h : ∀ meaning ∈ meanings, p.Means meaning)
    {scope : Scope} (hscope : p.Binds scope) {handles : List Handle}
    (hall : Evaluation.evaluateAll meanings scope = .ok handles) : p.AllowsAll handles := by
  refine allowsAll_iff.mpr fun handle hhandle => ?_
  obtain ⟨meaning, hm, he⟩ := mem_of_mapM hall hhandle
  exact h meaning hm scope hscope handle he

/-- Elements of a made array are made arrays themselves, or data. -/
theorem madeArray_means {items : List Json} {operator : Operator}
    (hop : Operator.ofItems items = .ok operator)
    (hkeeps : operator.operation.keepsPayload = true)
    (hlength : p.Lengths (argumentTerms items).length)
    (hdata : ∀ v ∈ (argumentTerms items).filter (!Evaluation.isMadeArray ·), p.Data v)
    (h : ∀ term ∈ (argumentTerms items).filter Evaluation.isMadeArray,
      p.Means (evaluate settings term)) :
    p.Means (Evaluation.madeArray operator.payload
      ((argumentTerms items).map (evaluate settings))) := by
  intro scope hscope handle hh
  unfold Evaluation.madeArray at hh
  split at hh
  · next terms hpayload =>
    cases hh
    rw [argumentTerms_of_list hop hkeeps hpayload] at hlength
    exact ⟨hlength, trivial⟩
  · next terms hpayload =>
    obtain ⟨handles, hhandles, hh⟩ := bind_eq_ok hh
    cases hh
    rw [argumentTerms_of_data hop hpayload] at hhandles h hdata hlength
    refine ⟨?_, allowsAll_iff.mpr fun handle hhandle => ?_⟩
    · rw [← (mapM_eq_ok_iff.mp hhandles).length_eq, List.length_zip, List.length_map, Nat.min_self]
      exact hlength
    obtain ⟨⟨term, meaning⟩, hmem, he⟩ := mem_of_mapM hhandles hhandle
    obtain ⟨hterm, rfl⟩ := of_mem_zip_map hmem
    dsimp only [Evaluation.madeItem] at he
    split at he
    · next hmade => exact h _ (List.mem_filter.mpr ⟨hterm, hmade⟩) scope hscope handle he
    · next hmade =>
      cases he
      exact hdata _ (List.mem_filter.mpr ⟨hterm, by simpa using hmade⟩)
  · cases hh

theorem madeObject_means {fields : List (String × Meaning)}
    (h : ∀ field ∈ fields, p.Means field.2) : p.Means (Evaluation.madeObject fields) := by
  intro scope hscope handle hh
  obtain ⟨made, hmade, hh⟩ := bind_eq_ok hh
  cases hh
  refine allowsFields_iff.mpr fun field hfield => ?_
  obtain ⟨⟨key, meaning⟩, hmem, he⟩ := mem_of_mapM hmade hfield
  obtain ⟨handle, hhandle, he⟩ := bind_eq_ok he
  cases he
  exact h _ hmem scope hscope handle hhandle

namespace Admits
variable {items : List Json} {operator : Operator}

theorem database_allows (hp : p.Admits settings T) :
    p.Allows (Handle.database settings.database) :=
  ⟨hp.database, hp.name, trivial⟩

/-- The name that a database is asked for is evaluated only if it is not pinned. -/
theorem database_means (hp : p.Admits settings T) {arguments : List Meaning}
    (hcount : ∀ scope args, Evaluation.evaluateAll arguments scope = .ok args →
      Operation.db.descriptor.accepts args.length = true)
    (h : ∀ meaning ∈ arguments, p.Means meaning) :
    p.Means (Evaluation.database settings arguments) := by
  intro scope hscope handle hh
  unfold Evaluation.database at hh
  split at hh
  · cases hh
    exact hp.database_allows
  · next hpin =>
    obtain ⟨args, hargs, hh⟩ := bind_eq_ok hh
    cases hh
    refine ⟨hp.unpinned (by simpa using hpin) args ?_, evaluateAll_allows h hscope hargs⟩
    exact .db (hcount scope args hargs)

theorem table_means (hp : p.Admits settings T)
    (hcall : ∀ db name : Handle, p.Calls .table [db, name]) {arguments : List Meaning}
    (h : ∀ meaning ∈ arguments, p.Means meaning) (options : Fields Json) :
    p.Means (Evaluation.table settings arguments options) := by
  intro scope hscope handle hh
  unfold Evaluation.table at hh
  split at hh
  · next name =>
    obtain ⟨nameHandle, hname, hh⟩ := bind_eq_ok hh
    cases hh
    refine ⟨hcall _ _, hp.database_allows, ?_, trivial⟩
    exact h name List.mem_cons_self scope hscope nameHandle hname
  · next db name =>
    obtain ⟨dbHandle, hdb, hh⟩ := bind_eq_ok hh
    obtain ⟨nameHandle, hname, hh⟩ := bind_eq_ok hh
    cases hh
    refine ⟨hcall _ _, h db List.mem_cons_self scope hscope dbHandle hdb, ?_, trivial⟩
    exact h name (List.mem_cons_of_mem _ List.mem_cons_self) scope hscope nameHandle hname
  · cases hh

theorem function_means (hp : p.Admits settings T) (hT : T (.array items))
    (h : ∀ body ∈ operator.payload.terms, body ∈ subterms items) :
    p.Means (Evaluation.function settings operator) := by
  intro scope hscope handle hh
  unfold Evaluation.function at hh
  split at hh
  · next body _ hterms =>
    obtain ⟨params, -, hh⟩ := bind_eq_ok hh
    obtain ⟨_, hcheck, hh⟩ := bind_eq_ok hh
    cases hh
    refine hp.function items _ _ _ hT (h body ?_) hcheck hscope
    rw [hterms]
    exact List.mem_cons_of_mem _ List.mem_cons_self
  · cases hh

theorem special_means (hp : p.Admits settings T) (hT : T (.array items))
    (hop : Operator.ofItems items = .ok operator)
    (hcount : operator.operation.descriptor.accepts operator.payload.count = true)
    (ih : ∀ term ∈ subterms items, p.Means (evaluate settings term)) :
    p.Means (Evaluation.special settings operator ((argumentTerms items).map (evaluate settings))
      ((optionTerms items).map fun field => (field.1, evaluate settings field.2))) := by
  intro scope hscope handle hh
  have hhead := (ofItems_eq_ok hop).1
  unfold Evaluation.special at hh
  split at hh
  · next h =>
    have hdata : dataTerms items = [(argumentTerms items).head?.getD .null] := by
      simp only [dataTerms, hhead, h]
    cases hh
    refine hp.data items hT _ ?_
    rw [hdata, Operator.arg?, argumentTerms_of_payload hop (by rw [h]; rfl),
      List.head?_eq_getElem?]
    exact List.mem_singleton_self _
  · next h =>
    have hsub : subterms items = (argumentTerms items).filter Evaluation.isMadeArray := by
      simp only [subterms, hhead, h]
    have hdata : dataTerms items = (argumentTerms items).filter (!Evaluation.isMadeArray ·) := by
      simp only [dataTerms, hhead, h]
    exact madeArray_means hop (by rw [h]; rfl) (hp.made items hT (h ▸ hhead))
      (hdata ▸ hp.data items hT) (hsub ▸ ih) scope hscope handle hh
  · next h =>
    have hsub : subterms items = (optionTerms items).map Prod.snd := by
      simp only [subterms, hhead, h]
    refine madeObject_means (fun field hfield => ?_) scope hscope handle hh
    obtain ⟨option, hoption, rfl⟩ := List.mem_map.mp hfield
    exact ih option.2 (hsub ▸ List.mem_map_of_mem hoption)
  · obtain ⟨id, -, hh⟩ := bind_eq_ok hh
    obtain ⟨value, hvalue, hh⟩ := bind_eq_ok hh
    cases hh
    exact hscope.resolve hvalue
  · obtain ⟨value, hvalue, hh⟩ := bind_eq_ok hh
    cases hh
    exact hscope.implicit hvalue
  · next h =>
    have hsub : subterms items = argumentTerms items := by simp only [subterms, hhead, h]
    refine hp.function_means hT (fun body hbody => ?_) scope hscope handle hh
    rwa [argumentTerms_of_payload hop (by rw [h]; rfl), ← hsub] at hbody
  · next h =>
    have hsub : subterms items = argumentTerms items := by simp only [subterms, hhead, h]
    obtain ⟨args, hargs, hh⟩ := bind_eq_ok hh
    cases hh
    refine ⟨?_, evaluateAll_allows (arguments_mean hsub ih) hscope hargs⟩
    have haccepts := accepts_arguments hop (by rw [h]; rfl) hcount hargs
    have hcall := hp.call items operator args hT hop (by rw [h]; nofun)
    rw [h] at haccepts hcall
    exact hcall (.funcall haccepts)
  · next h =>
    have hsub : subterms items = argumentTerms items := by simp only [subterms, hhead, h]
    refine hp.database_means (fun scope args hargs => ?_) (arguments_mean hsub ih) scope hscope
      handle hh
    have haccepts := accepts_arguments hop (by rw [h]; rfl) hcount hargs
    rwa [h] at haccepts
  · next h =>
    have hsub : subterms items = argumentTerms items := by simp only [subterms, hhead, h]
    have hcall : ∀ db name : Handle, p.Calls .table [db, name] := fun db name => by
      have hcall := hp.call items operator [db, name] hT hop (by rw [h]; nofun)
      rw [h] at hcall
      exact hcall .table
    exact hp.table_means hcall (arguments_mean hsub ih) _ scope hscope handle hh
  · cases hh

/-- A method and a constructed call are of the operation that the node names. -/
theorem call_allows (hp : p.Admits settings T) (hT : T (.array items))
    (hop : Operator.ofItems items = .ok operator)
    (hregular : operator.operation.isRegular = true)
    (hcount : operator.operation.descriptor.accepts operator.payload.count = true)
    (ih : ∀ term ∈ subterms items, p.Means (evaluate settings term)) {scope : Scope}
    (hscope : p.Binds scope) {args : List Handle} {options : Fields Json}
    (hargs : Evaluation.evaluateAll ((argumentTerms items).map (evaluate settings)) scope =
      .ok args) : p.Allows (.call operator.operation args options) := by
  have hrule := Operation.not_special_of_isRegular hregular
  have hnot : ∀ made : Operation, made.consumption = .special → operator.operation ≠ made :=
    fun _ hspecial heq => hrule (heq ▸ hspecial)
  have haccepts := accepts_arguments hop
    (keepsPayload_eq_false (hnot _ rfl) (hnot _ rfl)) hcount hargs
  refine ⟨hp.call items operator args hT hop (hnot _ rfl) (.regular hregular haccepts), ?_⟩
  exact evaluateAll_allows (arguments_mean (subterms_eq hop hrule) ih) hscope hargs

theorem method_means (hp : p.Admits settings T) (hT : T (.array items))
    (hop : Operator.ofItems items = .ok operator)
    (hregular : operator.operation.isRegular = true)
    (hcount : operator.operation.descriptor.accepts operator.payload.count = true)
    (ih : ∀ term ∈ subterms items, p.Means (evaluate settings term)) (options : Fields Json) :
    p.Means (Evaluation.method operator.operation
      ((argumentTerms items).map (evaluate settings)) options) := by
  intro scope hscope handle hh
  obtain ⟨args, hargs, hh⟩ := bind_eq_ok hh
  split at hh
  · cases hh
  · cases hh
    exact hp.call_allows hT hop hregular hcount ih hscope hargs

theorem assemble_means (hp : p.Admits settings T) (hT : T (.array items))
    (ih : ∀ term ∈ subterms items, p.Means (evaluate settings term)) :
    p.Means (Evaluation.assemble settings items ((argumentTerms items).map (evaluate settings))
      ((optionTerms items).map fun field => (field.1, evaluate settings field.2))) := by
  intro scope hscope handle hh
  rw [Evaluation.assemble_eq] at hh
  obtain ⟨operator, hop, hh⟩ := bind_eq_ok hh
  obtain ⟨u, hpermitted, hh⟩ := bind_eq_ok hh
  have hcount := accepts_of_permitted hpermitted
  have hregular : ∀ rule, operator.operation.consumption = rule →
      (rule != .special && rule != .forbidden) = true → operator.operation.isRegular = true := by
    rintro _ rfl h
    exact h
  unfold Evaluation.consume at hh
  split at hh
  · next h =>
    cases hh
    rw [Operation.count_of_nullary h hcount] at hcount
    refine ⟨hp.call items operator [] hT hop (fun hdb => ?_) (.regular (hregular _ h rfl) hcount),
      trivial⟩
    rw [hdb] at h
    cases h
  · next h =>
    obtain ⟨args, hargs, hh⟩ := bind_eq_ok hh
    cases hh
    exact hp.call_allows hT hop (hregular _ h rfl) hcount ih hscope hargs
  · next h => exact hp.method_means hT hop (hregular _ h rfl) hcount ih _ scope hscope handle hh
  · next h => exact hp.method_means hT hop (hregular _ h rfl) hcount ih _ scope hscope handle hh
  · next h => exact hp.method_means hT hop (hregular _ h rfl) hcount ih _ scope hscope handle hh
  · exact hp.special_means hT hop hcount ih scope hscope handle hh
  · cases hh

/-- Terms of an admitted class mean allowed handles. -/
theorem means (hp : p.Admits settings T) (term : Json) (hT : T term) :
    p.Means (evaluate settings term) := by
  match term with
  | .array items =>
    rw [evaluate_array]
    refine hp.assemble_means hT fun below hbelow => ?_
    exact hp.means below (hp.below items hT below hbelow)
  | .null | .bool _ | .number _ | .string _ | .object _ =>
    intro scope _ handle hh
    cases hh
    exact hp.literal _ hT nofun
termination_by term.height
decreasing_by exact height_subterms hbelow

/-- What is built of an admitted term is allowed. -/
theorem build_means (hp : p.Admits settings T) {term : Json} (hT : T term) {handle : Handle}
    (h : build settings term = .ok handle) : p.Allows handle :=
  hp.means term hT Scope.root binds_root handle h

/-- A function whose body is of the class gives allowed handles. -/
theorem call_means (f : Function) (hp : p.Admits f.settings T) (hbody : T f.body)
    {args : List Json} {handle : Handle} (h : f.call args = .ok handle)
    (hscope : p.Binds f.scope := by exact fun _ _ _ _ => trivial)
    (hargs : ∀ arg ∈ args, p.Data arg := by exact fun _ _ => trivial) : p.Allows handle := by
  obtain ⟨scope, hbound, h⟩ := bind_eq_ok h
  exact hp.means f.body hbody scope (hscope.bind hargs hbound) handle h

end Admits

/-! ### Runs -/

/-- In a logic, allowed calls keep to the rules, and allowed functions give allowed
handles or fail as the logic allows. -/
structure Sound (p : Policy) (L : Run.Logic) : Prop where
  supplied : L.Lacks ∨ ∀ op args, p.Calls op args → op ≠ .args ∧ op.reads ≤ args.length := by
    exact Or.inl trivial
  run : ∀ call op args options, p.Calls op args →
    L.Arguments ⟨op, Handle.arguments call args, options⟩ →
    L.Holds (Call.run ⟨op, Handle.arguments call args, options⟩) L.Datum
  body : ∀ f args handle, p.Functions f → f.call args = .ok handle → p.Allows handle
  fails : ∀ f args, p.Functions f → FailsOnly L.Faults (f.call args)

namespace Sound
variable {L : Run.Logic} {call : Function → List Json → Run Json}

mutual

theorem argument (hs : p.Sound L) (hcall : ∀ f, p.Functions f → ∀ args, L.Runs (call f args)) :
    ∀ handle, p.Allows handle → L.Argument (handle.argument call)
  | .datum value, _ => Run.Logic.argument_ofValue value
  | .array items, h => by
    refine Run.Logic.argument_ofOperand ⟨?_, fun f hf => by cases hf⟩
    exact L.bind (Run.Logic.values (hs.arguments hcall items h.2)) fun _ _ => L.pure trivial
  | .object fields, h => by
    refine Run.Logic.argument_ofOperand ⟨?_, fun f hf => by cases hf⟩
    exact L.bind (hs.fieldArguments hcall fields h) fun _ _ => L.pure trivial
  | .call op args options, h => by
    have hargs := hs.arguments hcall args h.2
    refine ⟨⟨hs.run call op args options h.1 hargs, fun f hf => by cases hf⟩, ?_, ?_⟩
    · intro operand ho
      obtain ⟨arg, harg, rfl⟩ := Option.map_eq_some_iff.mp ho
      exact (hargs arg (List.mem_of_mem_head? harg)).toOperand
    · refine hs.supplied.imp_right fun hsupplied made hmade => ?_
      cases hmade
      obtain ⟨hplain, hreads⟩ := hsupplied op args h.1
      refine ⟨hplain, fun hpositive => ?_⟩
      cases args with
      | nil => exact absurd hpositive (Nat.not_lt.mpr hreads)
      | cons arg rest => rfl
  | .func f, h =>
    Run.Logic.argument_ofOperand ⟨L.pure trivial, fun g hg args => by cases hg; exact hcall f h args⟩

theorem arguments (hs : p.Sound L) (hcall : ∀ f, p.Functions f → ∀ args, L.Runs (call f args)) :
    ∀ items, p.AllowsAll items → ∀ arg ∈ Handle.arguments call items, L.Argument arg
  | [], _ => fun _ harg => by cases harg
  | handle :: rest, h => by
    intro arg harg
    rcases List.mem_cons.mp harg with rfl | harg
    · exact hs.argument hcall handle h.1
    · exact hs.arguments hcall rest h.2 arg harg

theorem fieldArguments (hs : p.Sound L)
    (hcall : ∀ f, p.Functions f → ∀ args, L.Runs (call f args)) :
    ∀ fields, p.AllowsFields fields → L.Runs (Handle.fieldArguments call fields)
  | [], _ => L.pure trivial
  | (_, handle) :: rest, h =>
    L.bind (hs.argument hcall handle h.1).value fun _ _ =>
      L.bind (hs.fieldArguments hcall rest h.2) fun _ _ => L.pure trivial

end

/-- Calls keep to the rules, nested as deep as they may be. -/
theorem apply (hs : p.Sound L) (depth : Nat) (f : Function) (hf : p.Functions f)
    (hdepth : L.Faults .callDepth) (args : List Json) :
    L.Runs (Function.apply depth f args) := by
  induction depth generalizing f args with
  | zero => exact L.fail hdepth
  | succ depth ih =>
    have hbody : L.Holds (liftM (f.call args)) p.Allows :=
      Run.Logic.ofExcept (hs.fails f args hf) fun handle h => hs.body f args handle hf h
    refine L.bind hbody fun handle h => ?_
    exact (hs.argument (fun g hg args => ih g hg args) handle h).value

theorem handle (hs : p.Sound L) {handle : Handle} (h : p.Allows handle)
    (hdepth : L.Faults .callDepth) : L.Runs handle.run :=
  (hs.argument (fun f hf => hs.apply _ f hf hdepth) handle h).value

end Sound

end Policy

/-! ### Queries -/

/-- Building and running a query, as one run. -/
def Query.whole (query : Query) : Run Json := do (← query.build).run

theorem Query.run_eq (query : Query) (context : Run.Context) (state : Run.State) :
    query.run context state = query.whole.outcome context state := by
  unfold Query.run Query.whole
  rw [Run.outcome_bind, Run.outcome_lift]
  cases query.build <;> rfl

namespace Policy
variable {p : Policy} {L : Run.Logic} {T : Json → Prop}

/-- A query of an admitted term keeps to the rules. -/
theorem Sound.query (hs : p.Sound L) {query : Query} (hp : p.Admits query.settings T)
    (hT : T query.term) (hfaults : ∀ fault, L.Faults fault := by exact fun _ => trivial) :
    L.Runs query.whole := by
  have hbuild : L.Holds (liftM query.build) p.Allows :=
    Run.Logic.ofExcept (fun fault _ => hfaults fault) fun handle h => hp.build_means hT h
  exact L.bind hbuild fun handle h => hs.handle h (hfaults _)

end Policy

end DocQuery
