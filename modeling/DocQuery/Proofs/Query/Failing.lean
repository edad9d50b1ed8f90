import DocQuery.Proofs.Query.Policy

/-! How terms fail.

The faults of a term that is no query are of two sorts. Unknown and forbidden codes are what
`check` looks for; all others are faults of form. A term that evaluation finds no such code
in can only fail by a fault of form (`Evaluates.fails`). -/
namespace DocQuery

/-- A fault of form: arguments, options, parameters and variables that are not as they have
to be. -/
def Fault.Formal (fault : Fault) : Prop :=
  match fault.kind with
  | .scopeResolution | .arity | .malformed => True
  | _ => False

/-- The faults that a check can end as: a bad code, or options that are no object. -/
def Fault.OfCheck : Fault → Prop
  | .unknownTerm _ | .illegalOperation _ | .optionsNotObject .. => True
  | _ => False

/-! ### Codes -/

theorem fails_readOptions {F : Fault → Prop} (h : ∀ op found, F (.optionsNotObject op found))
    (op : Operation) (element : Option Json) : FailsOnly F (Operator.readOptions op element) := by
  unfold Operator.readOptions
  split
  · exact .ok _
  · exact .ok _
  · exact .ok _
  · exact FailsOnly.error_iff.mpr (h _ _)

theorem fails_ofItems (items : List Json) : FailsOnly Fault.OfCheck (Operator.ofItems items) := by
  unfold Operator.ofItems
  split
  · exact FailsOnly.error_iff.mpr trivial
  · split
    · exact FailsOnly.error_iff.mpr trivial
    · exact .bind (fails_readOptions (fun _ _ => trivial) _ _) fun _ => .ok _

/-- Once the code of a node is known, only its options can be wrong. -/
theorem fails_ofItems_of_head {items : List Json} {op : Operation}
    (h : items.head?.bind Operation.ofHead? = some op) :
    FailsOnly Fault.Formal (Operator.ofItems items) := by
  unfold Operator.ofItems
  split
  · cases h
  · next head _ =>
    have hhead : Operation.ofHead? head = some op := h
    rw [hhead]
    exact .bind (fails_readOptions (fun _ _ => trivial) _ _) fun _ => .ok _

/-! ### Checking -/

theorem check_literal {term : Json} (h : ∀ items, term ≠ .array items) : check term = .ok () := by
  cases term with
  | array items => exact absurd rfl (h items)
  | _ => rw [check]; nofun

theorem checkAll_eq_ok {terms : List Json} :
    checkAll terms = .ok () ↔ ∀ term ∈ terms, check term = .ok () := by
  induction terms with
  | nil => simp [checkAll]
  | cons term rest ih =>
    rw [checkAll, List.forall_mem_cons, ← ih]
    cases check term with
    | ok found => exact (and_iff_right rfl).symm
    | error fault => exact ⟨nofun, fun h => nomatch h.1⟩

theorem checkFields_eq_ok {fields : Fields Json} :
    checkFields fields = .ok () ↔ ∀ field ∈ fields, check field.2 = .ok () := by
  induction fields with
  | nil => simp [checkFields]
  | cons field rest ih =>
    rw [checkFields, List.forall_mem_cons, ← ih]
    cases check field.2 with
    | ok found => exact (and_iff_right rfl).symm
    | error fault => exact ⟨nofun, fun h => nomatch h.1⟩

theorem fails_checkAll {F : Fault → Prop} {terms : List Json}
    (h : ∀ term ∈ terms, FailsOnly F (check term)) : FailsOnly F (checkAll terms) := by
  induction terms with
  | nil =>
    rw [checkAll]
    exact .ok _
  | cons term rest ih =>
    rw [checkAll]
    exact .bind (h term List.mem_cons_self) fun _ =>
      ih fun below hbelow => h below (List.mem_cons_of_mem term hbelow)

theorem fails_checkFields {F : Fault → Prop} {fields : Fields Json}
    (h : ∀ field ∈ fields, FailsOnly F (check field.2)) : FailsOnly F (checkFields fields) := by
  induction fields with
  | nil =>
    rw [checkFields]
    exact .ok _
  | cons field rest ih =>
    rw [checkFields]
    exact .bind (h field List.mem_cons_self) fun _ =>
      ih fun below hbelow => h below (List.mem_cons_of_mem field hbelow)

/-- The argument terms are checked. -/
theorem checkArguments_eq (items : List Json) :
    checkArguments items = checkAll (argumentTerms items) := by
  rcases items with _ | ⟨head, _ | ⟨payload, rest⟩⟩
  · simp [checkArguments, argumentTerms, checkAll]
  · simp [checkArguments, argumentTerms, checkAll]
  · cases payload <;> simp [checkArguments, argumentTerms, checkAll, check, bind, Except.bind]

theorem checkMadeFields_eq (items : List Json) :
    checkMadeFields items = checkFields (optionTerms items) := by
  rcases items with _ | ⟨head, _ | ⟨payload, _ | ⟨options, rest⟩⟩⟩
  · simp [checkMadeFields, optionTerms, checkFields]
  · simp [checkMadeFields, optionTerms, checkFields]
  · simp [checkMadeFields, optionTerms, checkFields]
  · cases options <;> simp [checkMadeFields, optionTerms, checkFields]

/-- A node is checked if its code is known and allowed, and the terms that stand in it are
checked: arguments that are a list, and the fields of a made object. -/
theorem check_array_eq_ok {items : List Json} :
    check (.array items) = .ok () ↔ ∃ operator, Operator.ofItems items = .ok operator ∧
      operator.operation.isForbidden = false ∧
      ((∃ terms, operator.payload = .list terms) →
        ∀ term ∈ argumentTerms items, check term = .ok ()) ∧
      (operator.operation = .makeObject →
        ∀ field ∈ optionTerms items, check field.2 = .ok ()) := by
  rw [check, checkArguments_eq, checkMadeFields_eq, ← checkAll_eq_ok, ← checkFields_eq_ok]
  cases Operator.ofItems items with
  | error fault => exact ⟨nofun, fun ⟨_, h, _⟩ => nomatch h⟩
  | ok operator =>
    obtain ⟨op, payload, options⟩ := operator
    have hfields :
        (if op = .makeObject then checkFields (optionTerms items) else pure ()) = .ok () ↔
        (op = .makeObject → checkFields (optionTerms items) = .ok ()) := by
      by_cases hop : op = .makeObject <;> simp [hop, pure, Except.pure]
    by_cases hforbidden : op.isForbidden
    · simp [bind, Except.bind, throw, throwThe, MonadExceptOf.throw, hforbidden]
    · cases payload with
      | data value => simpa [bind, Except.bind, hforbidden] using hfields
      | list terms =>
        cases checkAll (argumentTerms items) with
        | ok found => simpa [bind, Except.bind, hforbidden] using hfields
        | error fault => simp [bind, Except.bind, hforbidden]

theorem fails_check (term : Json) : FailsOnly Fault.OfCheck (check term) := by
  match term with
  | .null | .bool _ | .number _ | .string _ | .object _ =>
    rw [check_literal fun _ h => by cases h]
    exact .ok _
  | .array items =>
    have harguments : FailsOnly Fault.OfCheck (checkArguments items) := by
      rw [checkArguments_eq]
      exact fails_checkAll fun term hterm => fails_check term
    have hfields : FailsOnly Fault.OfCheck (checkMadeFields items) := by
      rw [checkMadeFields_eq]
      exact fails_checkFields fun field hfield => fails_check field.2
    rw [check]
    refine .bind (fails_ofItems items) fun operator => ?_
    dsimp only
    split
    · exact .throw_bind trivial
    · split
      · exact .bind harguments fun _ => .ite hfields (.ok _)
      · exact .ite hfields (.ok _)
termination_by term.height
decreasing_by
  · exact height_argumentTerms hterm
  · exact height_optionTerms hfield

/-! ### Evaluation -/

/-- Terms of a class that fail by faults of a class when they are evaluated: faults of form
are among them, and so is whatever is wrong with the codes that evaluation comes to. -/
structure Evaluates (F : Fault → Prop) (T : Json → Prop) : Prop where
  formal : ∀ fault : Fault, fault.Formal → F fault
  below : ∀ items, T (.array items) → ∀ term ∈ subterms items, T term
  known : ∀ items, T (.array items) → FailsOnly F (Operator.ofItems items)
  legal : ∀ items operator, T (.array items) → Operator.ofItems items = .ok operator →
    operator.operation.isForbidden = true → F (.illegalOperation operator.operation)
  body : ∀ items operator, T (.array items) → Operator.ofItems items = .ok operator →
    operator.operation = .func → ∀ term ∈ subterms items, FailsOnly F (check term)

/-- In every scope, the meaning fails by faults of the class. -/
def Meaning.Fails (F : Fault → Prop) (meaning : Meaning) : Prop :=
  ∀ scope, FailsOnly F (meaning scope)

namespace Evaluates
variable {F : Fault → Prop} {T : Json → Prop} {settings : Settings}

theorem fails_resolve (hT : Evaluates F T) (scope : Scope) (id : Nat) :
    FailsOnly F (scope.resolve id) := by
  unfold Scope.resolve
  split
  · exact .ok _
  · exact FailsOnly.error_iff.mpr (hT.formal _ trivial)

theorem fails_implicit (hT : Evaluates F T) (scope : Scope) : FailsOnly F scope.implicit := by
  unfold Scope.implicit
  split
  · exact .ok _
  · exact FailsOnly.error_iff.mpr (hT.formal _ trivial)
  · exact FailsOnly.error_iff.mpr (hT.formal _ trivial)

theorem fails_bind (hT : Evaluates F T) (scope : Scope) (params : List Nat) (args : List Json) :
    FailsOnly F (scope.bind params args) := by
  unfold Scope.bind
  exact .ite (.ok _) (FailsOnly.error_iff.mpr (hT.formal _ trivial))

theorem fails_variableId (hT : Evaluates F T) (operator : Operator) :
    FailsOnly F (Evaluation.variableId operator) := by
  unfold Evaluation.variableId
  dsimp only
  split
  · exact .ok _
  · exact FailsOnly.error_iff.mpr (hT.formal _ trivial)

theorem fails_classify (hT : Evaluates F T) {term : Json} (h : T term) :
    FailsOnly F (classify term) := by
  cases term with
  | array items => exact .bind (hT.known items h) fun _ => .ok _
  | _ => exact .ok _

theorem fails_parameterIds (hT : Evaluates F T) {params : Json} (h : T params) :
    FailsOnly F (Evaluation.parameterIds params) := by
  refine .bind (hT.fails_classify h) fun found => ?_
  split
  · refine .mapM fun id _ => ?_
    unfold Evaluation.parameterId
    split
    · exact .ok _
    · exact FailsOnly.error_iff.mpr (hT.formal _ trivial)
  · exact .ok _
  · exact FailsOnly.throw_iff.mpr (hT.formal _ trivial)

theorem fails_evaluateAll {meanings : List Meaning} (h : ∀ meaning ∈ meanings, meaning.Fails F)
    (scope : Scope) : FailsOnly F (Evaluation.evaluateAll meanings scope) :=
  .mapM fun meaning hmeaning => h meaning hmeaning scope

/-- Only elements that are made arrays themselves can fail. -/
theorem fails_madeArray (hT : Evaluates F T) {items : List Json} {operator : Operator}
    (hop : Operator.ofItems items = .ok operator)
    (h : ∀ term ∈ (argumentTerms items).filter Evaluation.isMadeArray,
      Meaning.Fails F (evaluate settings term)) :
    Meaning.Fails F (Evaluation.madeArray operator.payload
      ((argumentTerms items).map (evaluate settings))) := by
  intro scope
  unfold Evaluation.madeArray
  split
  · exact .ok _
  · next terms hpayload =>
    refine .bind (.mapM fun ⟨term, meaning⟩ hmem => ?_) fun _ => .ok _
    rw [argumentTerms_of_data hop hpayload] at hmem h
    obtain ⟨hterm, rfl⟩ := of_mem_zip_map hmem
    dsimp only [Evaluation.madeItem]
    split
    · next hmade => exact h term (List.mem_filter.mpr ⟨hterm, hmade⟩) scope
    · exact .ok _
  · exact FailsOnly.error_iff.mpr (hT.formal _ trivial)

theorem fails_madeObject {fields : List (String × Meaning)}
    (h : ∀ field ∈ fields, field.2.Fails F) : Meaning.Fails F (Evaluation.madeObject fields) := by
  intro scope
  refine .bind (.mapM fun field hfield => ?_) fun _ => .ok _
  exact .bind (h field hfield scope) fun _ => .ok _

/-- The parameters of a function have known codes, and its body was checked before. -/
theorem fails_function (hT : Evaluates F T) {items : List Json} {operator : Operator}
    (h : T (.array items)) (hop : Operator.ofItems items = .ok operator)
    (hfunc : operator.operation = .func) :
    Meaning.Fails F (Evaluation.function settings operator) := by
  intro scope
  have hsub : subterms items = argumentTerms items := by
    simp only [subterms, (ofItems_eq_ok hop).1, hfunc]
  have hterms : operator.payload.terms = subterms items :=
    (argumentTerms_of_payload hop (by rw [hfunc]; rfl)).trans hsub.symm
  unfold Evaluation.function
  split
  · next params body rest heq =>
    have hmem : ∀ term ∈ params :: body :: rest, term ∈ subterms items :=
      fun term hterm => hterms ▸ heq ▸ hterm
    have hparams : params ∈ subterms items := hmem _ List.mem_cons_self
    have hbody : body ∈ subterms items := hmem _ (List.mem_cons_of_mem _ List.mem_cons_self)
    refine .bind (hT.fails_parameterIds (hT.below items h params hparams)) fun _ => ?_
    exact .bind (hT.body items operator h hop hfunc body hbody) fun _ => .ok _
  · exact FailsOnly.error_iff.mpr (hT.formal _ trivial)

theorem fails_table (hT : Evaluates F T) {arguments : List Meaning}
    (h : ∀ meaning ∈ arguments, meaning.Fails F) (options : Fields Json) :
    Meaning.Fails F (Evaluation.table settings arguments options) := by
  intro scope
  unfold Evaluation.table
  split
  · next name => exact .bind (h name List.mem_cons_self scope) fun _ => .ok _
  · next db name =>
    refine .bind (h db List.mem_cons_self scope) fun _ => ?_
    exact .bind (h name (List.mem_cons_of_mem _ List.mem_cons_self) scope) fun _ => .ok _
  · exact FailsOnly.throw_iff.mpr (hT.formal _ trivial)

theorem fails_special (hT : Evaluates F T) {items : List Json} {operator : Operator}
    (h : T (.array items)) (hop : Operator.ofItems items = .ok operator)
    (ih : ∀ term ∈ subterms items, Meaning.Fails F (evaluate settings term)) :
    Meaning.Fails F (Evaluation.special settings operator
      ((argumentTerms items).map (evaluate settings))
      ((optionTerms items).map fun field => (field.1, evaluate settings field.2))) := by
  intro scope
  have hhead := (ofItems_eq_ok hop).1
  have harguments : subterms items = argumentTerms items →
      ∀ meaning ∈ (argumentTerms items).map (evaluate settings), Meaning.Fails F meaning := by
    intro hsub meaning hmeaning
    obtain ⟨term, hterm, rfl⟩ := List.mem_map.mp hmeaning
    exact ih term (hsub ▸ hterm)
  unfold Evaluation.special
  split
  · exact .ok _
  · next hmade =>
    have hsub : subterms items = (argumentTerms items).filter Evaluation.isMadeArray := by
      simp only [subterms, hhead, hmade]
    exact hT.fails_madeArray hop (hsub ▸ ih) scope
  · next hmade =>
    have hsub : subterms items = (optionTerms items).map Prod.snd := by
      simp only [subterms, hhead, hmade]
    refine fails_madeObject (fun field hfield => ?_) scope
    obtain ⟨option, hoption, rfl⟩ := List.mem_map.mp hfield
    exact ih option.2 (hsub ▸ List.mem_map_of_mem hoption)
  · exact .bind (hT.fails_variableId operator) fun id =>
      .bind (hT.fails_resolve scope id) fun _ => .ok _
  · exact .bind (hT.fails_implicit scope) fun _ => .ok _
  · next hfunc => exact hT.fails_function h hop hfunc scope
  · next hcall =>
    have hsub : subterms items = argumentTerms items := by simp only [subterms, hhead, hcall]
    exact .bind (fails_evaluateAll (harguments hsub) scope) fun _ => .ok _
  · next hdb =>
    have hsub : subterms items = argumentTerms items := by simp only [subterms, hhead, hdb]
    exact .ite (.ok _) (.bind (fails_evaluateAll (harguments hsub) scope) fun _ => .ok _)
  · next htable =>
    have hsub : subterms items = argumentTerms items := by simp only [subterms, hhead, htable]
    exact hT.fails_table (harguments hsub) _ scope
  · exact FailsOnly.error_iff.mpr (hT.formal _ trivial)

theorem fails_method (hT : Evaluates F T) {arguments : List Meaning}
    (h : ∀ meaning ∈ arguments, meaning.Fails F) (op : Operation) (options : Fields Json) :
    Meaning.Fails F (Evaluation.method op arguments options) := by
  intro scope
  refine .bind (fails_evaluateAll h scope) fun args => ?_
  dsimp only
  split
  · exact .throw_bind (hT.formal _ trivial)
  · exact .ok _

theorem fails_permitted (hT : Evaluates F T) {operator : Operator}
    (h : operator.operation.isForbidden = true → F (.illegalOperation operator.operation)) :
    FailsOnly F operator.permitted := by
  unfold Operator.permitted
  dsimp only
  split
  · next hforbidden => exact .throw_bind (h (beq_iff_eq.mpr hforbidden))
  · split
    · exact .ite (.ok _) (FailsOnly.throw_iff.mpr (hT.formal _ trivial))
    · exact .throw_bind (hT.formal _ trivial)

theorem fails_consume (hT : Evaluates F T) {items : List Json} {operator : Operator}
    (h : T (.array items)) (hop : Operator.ofItems items = .ok operator)
    (ih : ∀ term ∈ subterms items, Meaning.Fails F (evaluate settings term)) :
    Meaning.Fails F (Evaluation.consume settings operator
      ((argumentTerms items).map (evaluate settings))
      ((optionTerms items).map fun field => (field.1, evaluate settings field.2))) := by
  intro scope
  have harguments : operator.operation.consumption ≠ .special →
      ∀ meaning ∈ (argumentTerms items).map (evaluate settings), Meaning.Fails F meaning := by
    intro hrule meaning hmeaning
    obtain ⟨term, hterm, rfl⟩ := List.mem_map.mp hmeaning
    exact ih term (subterms_eq hop hrule ▸ hterm)
  unfold Evaluation.consume
  split
  · exact .ok _
  · next hrule => exact .bind (fails_evaluateAll (harguments (hrule ▸ nofun)) scope) fun _ => .ok _
  · next hrule => exact hT.fails_method (harguments (hrule ▸ nofun)) _ _ scope
  · next hrule => exact hT.fails_method (harguments (hrule ▸ nofun)) _ _ scope
  · next hrule => exact hT.fails_method (harguments (hrule ▸ nofun)) _ _ scope
  · exact hT.fails_special h hop ih scope
  · next hrule =>
    exact FailsOnly.error_iff.mpr (hT.legal items operator h hop (beq_iff_eq.mpr hrule))

/-- A term of the class fails by faults of the class, in any scope. -/
theorem fails (hT : Evaluates F T) (settings : Settings) (term : Json) (h : T term) :
    Meaning.Fails F (evaluate settings term) := by
  match term with
  | .array items =>
    rw [evaluate_array]
    intro scope
    rw [Evaluation.assemble_eq]
    refine .bind_of_ok (hT.known items h) fun operator hop => ?_
    refine .bind (hT.fails_permitted (hT.legal items operator h hop)) fun _ => ?_
    refine hT.fails_consume h hop (fun below hbelow => ?_) scope
    exact hT.fails settings below (hT.below items h below hbelow)
  | .null | .bool _ | .number _ | .string _ | .object _ => exact fun scope => .ok _
termination_by term.height
decreasing_by exact height_subterms hbelow

/-- A call of a function whose body is of the class. -/
theorem fails_call (hT : Evaluates F T) (f : Function) (args : List Json) (h : T f.body) :
    FailsOnly F (f.call args) :=
  .bind (hT.fails_bind f.scope f.params args) fun scope => hT.fails f.settings f.body h scope

end Evaluates

end DocQuery
