import DocQuery.Proofs.Query.Rendered

/-! What evaluation accepts.

The table of the operations bounds the number of arguments, and evaluation has rules of its
own for how arguments are consumed. The two agree: arguments that are accepted in number and
that all have a meaning make a node that has one. The connectives alone are an exception.
The table lets them do without arguments, and the rule for methods asks for a receiver. -/
namespace DocQuery

/-- The term of an operation on arguments, with or without options. -/
def nodeTerm (op : Operation) (terms : List Json) (options? : Option (Fields Json)) : Json :=
  .array (.ofNat op.code :: .array terms :: (options?.map Json.object).toList)

namespace Operation

/-- The first argument is a receiver. -/
def isMethod (op : Operation) : Bool :=
  op.consumption == .fixed || op.consumption == .variadic || op.consumption == .keyed

/-- A connective of logic. -/
def isConnective (op : Operation) : Bool := op = .and || op = .or

/-- The methods that are accepted without a receiver are the connectives. -/
theorem isMethod_iff_isConnective {op : Operation} (h : op.descriptor.accepts 0 = true) :
    op.isMethod = true ↔ op.isConnective = true := by
  cases op <;> first | decide | cases h

end Operation

/-- Options are permitted with operations that take them. -/
theorem options_of_permitted {operator : Operator} {u : Unit} (h : operator.permitted = .ok u) :
    operator.operation.descriptor.takesOptions = true ∨ operator.options = [] := by
  rw [← List.isEmpty_iff, ← Bool.or_eq_true]
  refine Decidable.byContradiction fun hnot => ?_
  unfold Operator.permitted at h
  dsimp only at h
  split at h
  · cases h
  · split at h
    · cases h
    · cases h

section Evaluation
open Evaluation
variable {settings : Settings} {scope : Scope} {op : Operation} {terms : List Json}
  {args : List Handle} {options? : Option (Fields Json)}

theorem evaluateAll_eq_ok
    (h : ∀ term ∈ terms, ∃ handle, evaluate settings term scope = .ok handle) :
    ∃ args, evaluateAll (terms.map (evaluate settings)) scope = .ok args := by
  induction terms with
  | nil => exact ⟨[], rfl⟩
  | cons term rest ih =>
    obtain ⟨first, hfirst⟩ := h term List.mem_cons_self
    obtain ⟨more, hmore⟩ := ih fun t ht => h t (List.mem_cons_of_mem _ ht)
    exact ⟨first :: more, by rw [List.map_cons, evaluateAll_cons, hfirst, hmore]; rfl⟩

/-- What a regular operation makes of its arguments. -/
def assembled (op : Operation) (options : Fields Json) (args : List Handle) :
    Except Fault Handle :=
  if op.isMethod && args.isEmpty then .error (.receiverMissing op)
  else .ok (constructed op args options)

theorem assembled_iff (op : Operation) (options : Fields Json) (args : List Handle) :
    (∃ handle, assembled op options args = .ok handle) ↔ ¬(op.isMethod = true ∧ args = []) := by
  unfold assembled
  rw [← List.isEmpty_iff, ← Bool.and_eq_true]
  split
  · next hmissing => exact ⟨nofun, absurd hmissing⟩
  · next hmade => exact ⟨fun _ => hmade, fun _ => ⟨_, rfl⟩⟩

theorem constructed_nil (op : Operation) (args : List Handle) :
    constructed op args [] = .call op args [] := by
  unfold constructed
  dsimp only
  rw [ite_self]

theorem constructed_of_isMethod (hmethod : op.isMethod = true) (args : List Handle)
    (options : Fields Json) : constructed op args options = .call op args options := by
  have hplain : ∀ made : Operation, made.isMethod = false → op ≠ made := by
    rintro _ h rfl
    rw [h] at hmethod
    cases hmethod
  unfold constructed
  dsimp only
  rw [if_neg]
  rintro (h | h | h | ⟨h, -⟩) <;> exact hplain _ rfl h

theorem method_eq (hmethod : op.isMethod = true) (arguments : List Meaning)
    (options : Fields Json) (scope : Scope) :
    method op arguments options scope = evaluateAll arguments scope >>= assembled op options := by
  refine congrArg (_ >>= ·) (funext fun args => ?_)
  unfold assembled
  rw [hmethod, Bool.true_and, constructed_of_isMethod hmethod]
  cases args <;> rfl

/-- A node of a regular operation is evaluated by evaluating its arguments, if the operation
permits so many of them and the options. -/
theorem evaluate_nodeTerm (hregular : op.isRegular = true) (terms : List Json)
    (options? : Option (Fields Json)) (scope : Scope) :
    evaluate settings (nodeTerm op terms options?) scope =
      Operator.permitted ⟨op, .list terms, options?⟩ >>= fun _ =>
        evaluateAll (terms.map (evaluate settings)) scope >>= assembled op (options?.getD []) := by
  have hkeeps : op.keepsPayload = false := by
    refine keepsPayload_eq_false ?_ ?_ <;> rintro rfl <;> cases hregular
  unfold nodeTerm
  rw [evaluate_of_ofItems (ofItems_method (Query.ofHead?_code op) hkeeps _ _)]
  refine bind_congr_ok fun u hpermitted => ?_
  show consume settings _ (terms.map (evaluate settings)) _ scope = _
  have hmethod : ∀ rule, op.consumption = rule →
      op.isMethod = (rule == .fixed || rule == .variadic || rule == .keyed) := by
    rintro _ rfl
    rfl
  have hoptions : ∀ rule, op.consumption = rule →
      (rule == .keyed || rule == .constructor || rule == .special) = false →
      options?.getD [] = [] := by
    rintro _ rfl h
    exact (options_of_permitted hpermitted).resolve_left fun htakes => by cases h.symm.trans htakes
  unfold consume
  dsimp only
  split
  · next hrule =>
    have hnone : terms = [] := List.length_eq_zero_iff.mp
      (Operation.count_of_nullary hrule (accepts_of_permitted hpermitted))
    rw [hnone, hoptions _ hrule rfl]
    show _ = assembled op [] []
    unfold assembled
    rw [hmethod _ hrule, constructed_nil]
    rfl
  · next hrule =>
    refine congrArg (_ >>= ·) (funext fun args => ?_)
    unfold assembled
    rw [hmethod _ hrule]
    rfl
  · next hrule => rw [method_eq (hmethod _ hrule), hoptions _ hrule rfl]
  · next hrule => rw [method_eq (hmethod _ hrule), hoptions _ hrule rfl]
  · next hrule => exact method_eq (hmethod _ hrule) _ _ _
  · next hrule => exact absurd hrule (Operation.not_special_of_isRegular hregular)
  · next hrule => exact absurd hrule (Operation.legal_of_isRegular hregular)

/-- Arguments that are accepted in number and that have been evaluated make a node. -/
theorem evaluates_iff (hregular : op.isRegular = true)
    (hcount : op.descriptor.accepts terms.length = true)
    (hoptions : op.descriptor.takesOptions = true ∨ options?.getD [] = [])
    (hargs : evaluateAll (terms.map (evaluate settings)) scope = .ok args) :
    (∃ handle, evaluate settings (nodeTerm op terms options?) scope = .ok handle) ↔
      ¬(op.isConnective = true ∧ terms = []) := by
  have hpermitted : Operator.permitted ⟨op, .list terms, options?⟩ = .ok () :=
    permitted_eq_ok (Operation.legal_of_isRegular hregular) hcount hoptions
  have hempty : args = [] ↔ terms = [] := by
    rw [← List.length_eq_zero_iff, length_evaluateAll hargs, List.length_map,
      List.length_eq_zero_iff]
  rw [evaluate_nodeTerm hregular, hpermitted, hargs]
  refine (assembled_iff op (options?.getD []) args).trans (not_congr ?_)
  rw [hempty]
  refine and_congr_left fun hnone => ?_
  rw [hnone] at hcount
  exact Operation.isMethod_iff_isConnective hcount

/-- Terms that are accepted in number and that all have a meaning make a node that has one,
unless it is a connective without arguments. -/
theorem evaluate_accepted_iff (hregular : op.isRegular = true)
    (hcount : op.descriptor.accepts terms.length = true)
    (hterms : ∀ term ∈ terms, ∃ handle, evaluate settings term scope = .ok handle)
    (hoptions : op.descriptor.takesOptions = true ∨ options?.getD [] = []) :
    (∃ handle, evaluate settings (nodeTerm op terms options?) scope = .ok handle) ↔
      ¬(op.isConnective = true ∧ terms = []) := by
  obtain ⟨args, hargs⟩ := evaluateAll_eq_ok hterms
  exact evaluates_iff hregular hcount hoptions hargs

/-- A slice of a variable, with an option. -/
theorem evaluate_accepted_iff_slice :
    let row := Json.array (Handle.node .var [.ofNat 1])
    let terms := [row, .ofNat 0, .ofNat 2]
    let options : Fields Json := [("right_bound", .string "closed")]
    let scope : Scope := [[(1, .array [])]]
    Operation.slice.isRegular = true ∧
      Operation.slice.descriptor.accepts terms.length = true ∧
      ∃ handle, evaluate {} (nodeTerm .slice terms (some options)) scope = .ok handle := by
  intro row terms options scope
  have hrow : evaluate {} row scope = .ok (.datum (.array [])) := Query.evaluate_node rfl rfl scope
  have hterms : ∀ term ∈ terms, ∃ handle, evaluate {} term scope = .ok handle := by
    intro term hterm
    simp only [terms, List.mem_cons, List.not_mem_nil, or_false] at hterm
    rcases hterm with rfl | rfl | rfl
    · exact ⟨_, hrow⟩
    · exact ⟨_, rfl⟩
    · exact ⟨_, rfl⟩
  have hoptions : Operation.slice.descriptor.takesOptions = true ∨ (some options).getD [] = [] :=
    .inl rfl
  exact ⟨rfl, rfl, (evaluate_accepted_iff rfl rfl hterms hoptions).mpr nofun⟩

/-- A conjunction of nothing is accepted in number and is not evaluated. -/
theorem evaluate_and_empty :
    Operation.and.consumption = .variadic ∧ Operation.and.descriptor.accepts 0 = true ∧
      evaluate {} (nodeTerm .and [] none) Scope.root = .error (.receiverMissing .and) := by
  refine ⟨rfl, rfl, ?_⟩
  rw [evaluate_nodeTerm rfl]
  rfl

end Evaluation

end DocQuery
