import DocQuery.Proofs.Query.Bulk
import DocQuery.Proofs.Query.Composed

/-! Handles written as terms.

A handle that was built can be written as a term and built again: the term names the same
operation with the same arguments and options, so it passes the same checks (`Rendered`).
Literal arrays are what breaks this, since their elements are written as they stand and some
of them read as made arrays. `Handle.holdsArray` finds the literal arrays in a handle, and
`Query.run_literal_iff` says of a literal when it can be written and run. -/
namespace DocQuery

/-! ### Wire forms -/

namespace Handle

theorem toWireAll_eq (handles : List Handle) : toWireAll handles = handles.map toWire := by
  induction handles with
  | nil => rfl
  | cons handle rest ih => rw [toWireAll, ih, List.map_cons]

theorem toWireFields_eq (fields : List (String × Handle)) :
    toWireFields fields = fields.map fun field => (field.1, field.2.toWire) := by
  induction fields with
  | nil => rfl
  | cons field rest ih => rw [toWireFields, ih, List.map_cons]

mutual

/-- Some datum of the handle is an array. -/
def holdsArray : Handle → Bool
  | .datum (.array _) => true
  | .datum _ => false
  | .array items => holdsArrayAmong items
  | .object fields => holdsArrayInFields fields
  | .call _ args _ => holdsArrayAmong args
  | .func _ => false

def holdsArrayAmong : List Handle → Bool
  | [] => false
  | handle :: rest => holdsArray handle || holdsArrayAmong rest

def holdsArrayInFields : List (String × Handle) → Bool
  | [] => false
  | (_, handle) :: rest => holdsArray handle || holdsArrayInFields rest

end

theorem holdsArrayAmong_eq_false {handles : List Handle} (h : holdsArrayAmong handles = false) :
    ∀ handle ∈ handles, handle.holdsArray = false := by
  induction handles with
  | nil => exact nofun
  | cons handle rest ih =>
    rw [holdsArrayAmong, Bool.or_eq_false_iff] at h
    exact List.forall_mem_cons.mpr ⟨h.1, ih h.2⟩

theorem holdsArrayInFields_eq_false {fields : List (String × Handle)}
    (h : holdsArrayInFields fields = false) : ∀ field ∈ fields, field.2.holdsArray = false := by
  induction fields with
  | nil => exact nofun
  | cons field rest ih =>
    rw [holdsArrayInFields, Bool.or_eq_false_iff] at h
    exact List.forall_mem_cons.mpr ⟨h.1, ih h.2⟩

end Handle

/-! ### Calls that are written -/

theorem permitted_eq_ok {operator : Operator} (hlegal : operator.operation.consumption ≠ .forbidden)
    (hcount : operator.operation.descriptor.accepts operator.payload.count = true)
    (hoptions : operator.operation.descriptor.takesOptions = true ∨ operator.options = []) :
    operator.permitted = .ok () := by
  have hlegal : operator.operation.descriptor.consumption ≠ .forbidden := hlegal
  have htakes : (operator.operation.descriptor.takesOptions || operator.options.isEmpty) = true := by
    rcases hoptions with h | h <;> simp [h]
  unfold Operator.permitted
  dsimp only
  rw [if_neg hlegal, if_pos hcount, if_pos htakes]
  rfl

section Methods
open Evaluation
variable {settings : Settings} {op : Operation}

/-- A method that is used as its table entry allows is built from its receiver and its other
arguments. -/
theorem build_methodTerm (hrule : op.consumption = .keyed)
    (htakes : op.descriptor.takesOptions = true) {source : Json} {terms : List Json}
    (hcount : op.descriptor.accepts (terms.length + 1) = true) {first : Handle}
    {handles : List Handle} (hsource : build settings source = .ok first)
    (hterms : evaluateAll (terms.map (evaluate settings)) Scope.root = .ok handles)
    (options? : Option (Fields Json)) :
    build settings (methodTerm op source terms options?) =
      .ok (.call op (first :: handles) (options?.getD [])) := by
  have hpermitted : Operator.permitted ⟨op, .list (source :: terms), options?⟩ = .ok () :=
    permitted_eq_ok (by rw [hrule]; nofun) hcount (.inl htakes)
  unfold build at hsource ⊢
  rw [evaluate_methodTerm hrule, hpermitted, hsource, hterms]
  rfl

end Methods

/-- A value that is mapped to a term and back, all along a list. -/
theorem mapM_map_eq_ok {α β : Type} {f : α → Except Fault β} {g : β → α} {ys : List β}
    (h : ∀ y ∈ ys, f (g y) = .ok y) : (ys.map g).mapM f = .ok ys := by
  rw [mapM_eq_ok_iff, List.forall₂_map_left_iff, List.forall₂_same]
  exact h

section Calls
open Evaluation Handle
variable {settings : Settings} {op : Operation} {args : List Handle} {options : Fields Json}

/-- The operator that the wire form of a call is read as. -/
def Operator.written (op : Operation) (args : List Handle) (options : Fields Json) : Operator :=
  ⟨op, .list (args.map toWire), if options.isEmpty then none else some options⟩

theorem options_written : (Operator.written op args options).options = options := by
  cases options <;> rfl

theorem count_written : (Operator.written op args options).payload.count = args.length :=
  List.length_map toWire

theorem evaluate_written (settings : Settings) (hkeeps : op.keepsPayload = false)
    (hpermitted : (Operator.written op args options).permitted = .ok ()) :
    ∃ fields, build settings (Handle.call op args options).toWire =
      consume settings (.written op args options)
        (args.map fun arg => evaluate settings arg.toWire) fields Scope.root := by
  let items := node op (args.map toWire) ++ if options.isEmpty then [] else [.object options]
  have hwire : (Handle.call op args options).toWire = .array items := by
    rw [toWire, toWireAll_eq]
  have hop : Operator.ofItems items = .ok (.written op args options) := by
    cases options with
    | nil => exact ofItems_method (Query.ofHead?_code op) hkeeps _ none
    | cons field rest =>
      exact ofItems_method (Query.ofHead?_code op) hkeeps _ (some (field :: rest))
  have hterms : argumentTerms items = args.map toWire := by
    cases options <;> rfl
  refine ⟨(optionTerms items).map fun field => (field.1, evaluate settings field.2), ?_⟩
  unfold build
  rw [hwire, evaluate_of_ofItems hop, hpermitted, hterms, List.map_map]
  rfl

theorem evaluateAll_written (hargs : ∀ arg ∈ args, build settings arg.toWire = .ok arg) :
    evaluateAll (args.map fun arg => evaluate settings arg.toWire) Scope.root = .ok args :=
  mapM_map_eq_ok hargs

theorem method_written (hargs : ∀ arg ∈ args, build settings arg.toWire = .ok arg)
    (hnonempty : args.isEmpty = false) (options : Fields Json) :
    method op (args.map fun arg => evaluate settings arg.toWire) options Scope.root =
      .ok (.call op args options) := by
  unfold method
  rw [evaluateAll_written hargs]
  show (if args.isEmpty then _ else _) = _
  rw [hnonempty]
  rfl

theorem Composed.keepsPayload (h : Composed settings op args options) :
    op.keepsPayload = false := by
  have hspecial : op.consumption ≠ .special → op.keepsPayload = false := fun hrule =>
    keepsPayload_eq_false (fun heq => hrule (by rw [heq]; rfl)) fun heq => hrule (by rw [heq]; rfl)
  cases h with
  | nullary hrule => exact hspecial (by rw [hrule]; nofun)
  | constructed hrule => exact hspecial (by rw [hrule]; nofun)
  | method hrule => exact hspecial (by rcases hrule with h | h <;> rw [h] <;> nofun)
  | keyed hrule => exact hspecial (by rw [hrule]; nofun)
  | funcall | pinned | named | table => rfl

/-- A call that was composed is permitted when it is read again. -/
theorem Composed.permitted (h : Composed settings op args options) :
    (Operator.written op args options).permitted = .ok () := by
  have htakes : ∀ rule, op.consumption = rule → rule = .constructor ∨ rule = .keyed →
      op.descriptor.takesOptions = true := by
    rintro rule hrule hor
    have hrule : op.descriptor.consumption = rule := hrule
    unfold Descriptor.takesOptions
    rw [hrule]
    rcases hor with rfl | rfl <;> rfl
  cases h with
  | nullary hrule =>
    refine permitted_eq_ok (by show op.consumption ≠ _; rw [hrule]; nofun) ?_ (.inr rfl)
    show op.descriptor.accepts 0 = true
    clear htakes
    cases op <;> first | rfl | cases hrule
  | constructed hrule hcount =>
    refine permitted_eq_ok (by show op.consumption ≠ _; rw [hrule]; nofun) ?_
      (.inl (htakes _ hrule (.inl rfl)))
    rwa [count_written]
  | method hrule hcount =>
    refine permitted_eq_ok ?_ (by rwa [count_written]) (.inr rfl)
    show op.consumption ≠ _
    rcases hrule with h | h <;> rw [h] <;> nofun
  | keyed hrule hcount =>
    refine permitted_eq_ok (by show op.consumption ≠ _; rw [hrule]; nofun) ?_
      (.inl (htakes _ hrule (.inr rfl)))
    rwa [count_written]
  | funcall hcount => exact permitted_special rfl (by rwa [count_written])
  | pinned => exact permitted_special rfl rfl
  | named _ hcount => exact permitted_special rfl (by rwa [count_written])
  | table => exact permitted_special rfl rfl

/-- A call that was composed is composed again of arguments that are built again. -/
theorem Composed.rebuilds (h : Composed settings op args options)
    (hargs : ∀ arg ∈ args, build settings arg.toWire = .ok arg) :
    build settings (Handle.call op args options).toWire = .ok (.call op args options) := by
  obtain ⟨fields, hbuild⟩ := evaluate_written settings h.keepsPayload h.permitted
  have hall := evaluateAll_written hargs
  rw [hbuild]
  unfold consume
  dsimp only [Operator.written]
  cases h with
  | nullary hrule => rw [hrule]
  | constructed hrule _ hoptions =>
    rw [hrule, hall]
    show Except.ok (Evaluation.constructed op args (Operator.written op args options).options) = _
    rw [options_written, hoptions]
  | method hrule _ hnonempty =>
    rcases hrule with hrule | hrule <;> rw [hrule] <;> exact method_written hargs hnonempty []
  | keyed hrule _ hnonempty =>
    rw [hrule]
    show Evaluation.method op _ (Operator.written op args options).options Scope.root = _
    rw [options_written, method_written hargs hnonempty]
  | funcall =>
    show evaluateAll _ _ >>= _ = _
    rw [hall]
    rfl
  | pinned hpinned =>
    show Evaluation.database settings _ Scope.root = _
    unfold Evaluation.database
    rw [hpinned]
    rfl
  | named hpinned =>
    show Evaluation.database settings _ Scope.root = _
    unfold Evaluation.database
    rw [hpinned, hall]
    rfl
  | table db name options =>
    show Evaluation.table settings [_, _] (Operator.written .table [db, name] options).options Scope.root = _
    have hdb : evaluate settings db.toWire Scope.root = .ok db := hargs db List.mem_cons_self
    have hname : evaluate settings name.toWire Scope.root = .ok name :=
      hargs name (List.mem_cons_of_mem _ List.mem_cons_self)
    unfold Evaluation.table
    dsimp only
    rw [options_written, hdb, hname]
    rfl

end Calls

/-! ### Other handles that are written -/

section Others
open Evaluation Handle
variable {settings : Settings}

theorem isMadeArray_node (elements : List Json) :
    isMadeArray (.array (node .makeArray elements)) = true := by
  have hcode : Operation.makeArray.code < 2 ^ 64 := by decide
  unfold node isMadeArray
  dsimp only
  rw [Json.natural?_ofNat hcode]
  exact decide_eq_true rfl

/-- Arrays and plain data are told apart again when they are read as elements. -/
theorem madeItem_toWire {item : Handle} (hitem : item.isItem = true)
    (hplain : item.holdsArray = false) (h : build settings item.toWire = .ok item) :
    madeItem item.toWire (evaluate settings item.toWire) Scope.root = .ok item := by
  unfold madeItem
  cases item with
  | datum value =>
    cases value with
    | array elements => cases hplain
    | _ => rfl
  | array items =>
    rw [toWire, isMadeArray_node, if_pos rfl, ← toWire]
    exact h
  | _ => cases hitem

theorem rebuilds_array {items : List Handle} (hitems : ∀ item ∈ items, item.isItem = true)
    (hplain : ∀ item ∈ items, item.holdsArray = false)
    (h : ∀ item ∈ items, build settings item.toWire = .ok item) :
    build settings (Handle.array items).toWire = .ok (.array items) := by
  unfold build
  rw [toWire, toWireAll_eq, Query.evaluate_node rfl rfl]
  show madeArray (.data (.array (items.map toWire))) ((items.map toWire).map (evaluate settings))
    Scope.root = _
  rw [madeArray_data, mapM_map_eq_ok fun item hitem =>
    madeItem_toWire (hitems item hitem) (hplain item hitem) (h item hitem)]
  rfl

theorem rebuilds_object {fields : List (String × Handle)}
    (h : ∀ field ∈ fields, build settings field.2.toWire = .ok field.2) :
    build settings (Handle.object fields).toWire = .ok (.object fields) := by
  unfold build
  rw [toWire, toWireFields_eq]
  have hop : Operator.ofItems (node .makeObject [] ++
      [.object (fields.map fun field => (field.1, field.2.toWire))]) =
      .ok ⟨.makeObject, .list [], some (fields.map fun field => (field.1, field.2.toWire))⟩ :=
    ofItems_method (Query.ofHead?_code .makeObject) rfl [] (some _)
  rw [evaluate_special hop rfl, permitted_special rfl rfl]
  show madeObject ((fields.map fun field => (field.1, field.2.toWire)).map
    fun field => (field.1, evaluate settings field.2)) Scope.root = _
  unfold madeObject
  rw [List.map_map, mapM_map_eq_ok fun field hfield => ?_]
  · rfl
  · show (do return (field.1, ← evaluate settings field.2.toWire Scope.root)) = _
    rw [show evaluate settings field.2.toWire Scope.root = .ok field.2 from h field hfield]
    rfl

theorem parameterId_eq_ok {value : Json} {id : Nat} (h : value.natural? = some id) :
    parameterId value = .ok id := by
  unfold parameterId
  rw [h]

theorem parameterIds_toWire {ids : List Nat}
    (hids : ∀ id ∈ ids, (Json.ofNat id).natural? = some id) :
    parameterIds (.array (node .makeArray (ids.map Json.ofNat))) = .ok ids := by
  have hclassify : classify (.array (node .makeArray (ids.map Json.ofNat))) =
      .ok (.operator ⟨.makeArray, .data (.array (ids.map Json.ofNat)), none⟩) := by
    unfold classify
    dsimp only
    rw [Query.ofItems_node]
    rfl
  unfold parameterIds
  rw [hclassify]
  show (ids.map Json.ofNat).mapM parameterId = .ok ids
  exact mapM_map_eq_ok fun id hid => parameterId_eq_ok (hids id hid)

theorem function_eq_ok (operator : Operator) {params body : Json} {ids : List Nat}
    (hterms : operator.payload.terms = [params, body]) (hids : parameterIds params = .ok ids)
    (hcheck : check body = .ok ()) (scope : Scope) :
    function settings operator scope = .ok (.func ⟨ids, body, scope, settings⟩) := by
  unfold function
  rw [hterms]
  dsimp only
  rw [hids]
  show check body >>= _ = _
  rw [hcheck]
  rfl

theorem rebuilds_func {ids : List Nat} {body : Json}
    (hids : ∀ id ∈ ids, (Json.ofNat id).natural? = some id) (hcheck : check body = .ok ()) :
    build settings (Handle.func ⟨ids, body, Scope.root, settings⟩).toWire =
      .ok (.func ⟨ids, body, Scope.root, settings⟩) := by
  unfold build
  rw [toWire, Query.evaluate_node rfl rfl]
  have hparams := parameterIds_toWire hids
  -- what the parameters are written as plays no part from here on
  generalize Json.array (node .makeArray (ids.map Json.ofNat)) = params at hparams
  exact function_eq_ok ⟨.func, .list [params, body], none⟩ rfl hparams hcheck Scope.root

end Others

/-- A built handle in which no datum is an array is built again from what it is written as. -/
theorem Built.rebuilds {settings : Settings} {handle : Handle} (h : Built settings handle)
    (hplain : handle.holdsArray = false) : build settings handle.toWire = .ok handle := by
  induction h with
  | datum value =>
    cases value with
    | array items => cases hplain
    | _ => rfl
  | array hitems _ ih =>
    have hplain := Handle.holdsArrayAmong_eq_false hplain
    exact rebuilds_array hitems hplain fun item hitem => ih item hitem (hplain item hitem)
  | object _ ih =>
    have hplain := Handle.holdsArrayInFields_eq_false hplain
    exact rebuilds_object fun field hfield => ih field hfield (hplain field hfield)
  | call hcall _ ih =>
    have hplain := Handle.holdsArrayAmong_eq_false hplain
    exact hcall.rebuilds fun arg harg => ih arg harg (hplain arg harg)
  | func hids hcheck => exact rebuilds_func hids hcheck

/-- Building undoes writing: a query whose handle holds no literal array is built to the same
handle from the term that the handle is written as. -/
theorem Query.build_toWire (query : Query) (handle : Handle) (h : query.build = .ok handle)
    (hplain : handle.holdsArray = false) :
    Query.build { query with term := handle.toWire } = .ok handle :=
  (built_of_build h).rebuilds hplain

/-- A selection by a function, with a default database, an option, an object and an array of
arrays in it, is built again. -/
theorem Query.build_toWire_filter :
    let table := Json.array [.ofNat 15, .array [.string "t"]]
    let row := Json.array [.ofNat 10, .array [.ofNat 1]]
    let test := Json.array [.ofNat 69, .array [.array [.ofNat 2, .array [.ofNat 1]],
      .array [.ofNat 31, .array [row, .string "k"]]]]
    let kept := Json.array [.ofNat 39, .array [table, test], .object [("default", .bool true)]]
    let sets := Json.array [.ofNat 2, .array [.array [.ofNat 2, .array [.ofNat 5]], .null]]
    let made := Json.array [.ofNat 3, .array [], .object [("sets", sets)]]
    let query : Query := ⟨.array [.ofNat 35, .array [kept, made]], {}⟩
    ∃ handle, query.build = .ok handle ∧ handle.holdsArray = false ∧
      Query.build { query with term := handle.toWire } = .ok handle := by
  intro table row test kept sets made query
  have hplain : (query.build.toOption.any fun handle => !handle.holdsArray) = true := by
    decide +kernel
  cases hbuild : query.build with
  | error fault =>
    rw [hbuild] at hplain
    cases hplain
  | ok handle =>
    rw [hbuild] at hplain
    have hplain : handle.holdsArray = false := (Bool.not_eq_true' _).mp hplain
    exact ⟨handle, rfl, hplain, build_toWire query handle hbuild hplain⟩

end DocQuery
