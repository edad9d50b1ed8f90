import DocQuery.Proofs.Query.Failing
import DocQuery.Proofs.Run.Failing
import Mathlib.Control.Monad.Basic

/-! Bad codes are found when a query is built.

A function keeps its body as a raw term, which is evaluated at every call. The body was
checked when the function was made, and a check looks at every place that evaluation comes to:
only made arrays inside made arrays are passed over, and those hold nothing but data and made
arrays again. So no call finds a code that is unknown or forbidden, and neither does a run. -/
namespace DocQuery

/-- A code that is unknown, or one that no query may use. -/
def Fault.OfCode (fault : Fault) : Prop :=
  fault.kind = .unknownTerm ∨ fault.kind = .unsupportedOperation

theorem Fault.Formal.not_ofCode {fault : Fault} (h : fault.Formal) : ¬ fault.OfCode := by
  unfold Fault.Formal at h
  rintro (hkind | hkind)
  · simp only [hkind] at h
  · simp only [hkind] at h

theorem Fault.Operational.not_ofCode {fault : Fault} (h : fault.Operational) :
    ¬ fault.OfCode := by
  rintro (hkind | hkind) <;> cases fault <;> first | (cases hkind; done) | cases h

theorem Fault.Lacking.not_ofCode {fault : Fault} (h : fault.Lacking) : ¬ fault.OfCode := by
  rintro (hkind | hkind) <;> cases h.kind.symm.trans hkind

/-- A term was checked, or it is an array that is made inside another one. -/
def Known (term : Json) : Prop := check term = .ok () ∨ Evaluation.isMadeArray term = true

theorem keepsPayload_of_data {op : Operation} {element : Option Json} {inner : List Json}
    (h : Payload.ofElement op element = .data (.array inner)) : op.keepsPayload = true := by
  unfold Payload.ofElement at h
  split at h
  · cases h
  · split at h
    · assumption
    · cases h
  · next hne =>
    cases h
    exact absurd rfl (hne inner)

section Checked
variable {items : List Json} {operator : Operator}

/-- What is checked in a node are its argument terms, unless they are kept as data. -/
theorem check_argument (h : check (.array items) = .ok ())
    (hop : Operator.ofItems items = .ok operator)
    (hdata : operator.operation.keepsPayload = false) :
    ∀ term ∈ argumentTerms items, check term = .ok () := by
  obtain ⟨found, hfound, -, hlist, -⟩ := check_array_eq_ok.mp h
  cases hop.symm.trans hfound
  intro term hterm
  cases hpayload : operator.payload with
  | list terms => exact hlist ⟨terms, hpayload⟩ term hterm
  | data value =>
    rw [← argumentTerms_of_payload hop hdata, hpayload, Payload.terms, List.mem_singleton] at hterm
    subst hterm
    refine check_literal fun inner hinner => ?_
    have hkept : operator.operation.keepsPayload = true := by
      have hkept := (ofItems_eq_ok hop).2
      rw [hpayload, hinner] at hkept
      exact keepsPayload_of_data hkept.symm
    rw [hdata] at hkept
    cases hkept

/-- The terms that evaluation looks into are known if the node is. -/
theorem Known.below (h : Known (.array items)) : ∀ term ∈ subterms items, Known term := by
  intro term hterm
  rcases h with h | h
  · obtain ⟨operator, hop, -, -, hfields⟩ := check_array_eq_ok.mp h
    unfold subterms at hterm
    rw [(ofItems_eq_ok hop).1] at hterm
    split at hterm
    · cases hterm
    · cases hterm
    · cases hterm
    · exact .inr (List.mem_filter.mp hterm).2
    · next hmade =>
      obtain ⟨field, hfield, rfl⟩ := List.mem_map.mp hterm
      exact .inl (hfields (Option.some.inj hmade) field hfield)
    · next hvar _ hmade _ =>
      have hdata : operator.operation.keepsPayload = false := keepsPayload_eq_false
        (fun heq => hmade (congrArg some heq)) fun heq => hvar (congrArg some heq)
      exact .inl (check_argument h hop hdata term hterm)
  · unfold subterms at hterm
    rw [head_of_isMadeArray h] at hterm
    exact .inr (List.mem_filter.mp hterm).2

theorem Known.fails_ofItems (h : Known (.array items)) :
    FailsOnly (fun fault => ¬ fault.OfCode) (Operator.ofItems items) := by
  rcases h with h | h
  · obtain ⟨operator, hop, -⟩ := check_array_eq_ok.mp h
    rw [hop]
    exact .ok _
  · exact (fails_ofItems_of_head (head_of_isMadeArray h)).mono fun _ => Fault.Formal.not_ofCode

/-- The operation of a known node may be used. -/
theorem Known.legal (h : Known (.array items)) (hop : Operator.ofItems items = .ok operator) :
    operator.operation.isForbidden = false := by
  rcases h with h | h
  · obtain ⟨found, hfound, hlegal, -⟩ := check_array_eq_ok.mp h
    cases hop.symm.trans hfound
    exact hlegal
  · have hmade : operator.operation = .makeArray :=
      Option.some.inj ((ofItems_eq_ok hop).1.symm.trans (head_of_isMadeArray h))
    rw [hmade]
    rfl

/-- The body of a known function is checked. -/
theorem Known.body (h : Known (.array items)) (hop : Operator.ofItems items = .ok operator)
    (hfunc : operator.operation = .func) : ∀ term ∈ subterms items, check term = .ok () := by
  rcases h with h | h
  · have hsub : subterms items = argumentTerms items := by
      simp only [subterms, (ofItems_eq_ok hop).1, hfunc]
    rw [hsub]
    exact check_argument h hop (by rw [hfunc]; rfl)
  · have hmade := (ofItems_eq_ok hop).1.symm.trans (head_of_isMadeArray h)
    rw [hfunc] at hmade
    cases hmade

end Checked

/-- Evaluation comes to no bad code in a known term. -/
theorem known_evaluates : Evaluates (fun fault => ¬ fault.OfCode) Known where
  formal _ := Fault.Formal.not_ofCode
  below _ h := h.below
  known _ h := h.fails_ofItems
  legal items operator h hop hforbidden := by
    rw [h.legal hop] at hforbidden
    cases hforbidden
  body items operator h hop hfunc term hterm := by
    rw [h.body hop hfunc term hterm]
    exact .ok _

/-! ### Runs -/

namespace Policy

/-- Every function has a body that was checked. -/
def checked : Policy where
  Calls _ _ := True
  Functions f := check f.body = .ok ()

/-- A function is only made of a body that passes the check, so any term is admitted. -/
theorem checked_admits (settings : Settings) : checked.Admits settings fun _ => True where
  below _ _ _ _ := trivial
  call _ _ _ _ _ _ _ := trivial
  database := trivial
  unpinned _ _ _ := trivial
  function _ _ _ _ _ _ hcheck _ := hcheck

theorem checked_sound :
    checked.Sound
      (Run.failing (fun fault => ¬ fault.OfCode) fun _ => Fault.Operational.not_ofCode) where
  supplied := .inl fun _ => Fault.Lacking.not_ofCode
  run _ _ _ _ _ hargs := Run.failing_run hargs (.inl fun _ => Fault.Lacking.not_ofCode)
  body f _ _ _ h := Admits.call_means f (checked_admits f.settings) trivial h
  fails f args hf := known_evaluates.fails_call f args (.inl hf)

end Policy

/-- Once a query is built, no run of it finds a bad code, whatever functions it calls. -/
theorem Query.run_never_ofCode (query : Query) (handle : Handle) (h : query.build = .ok handle)
    (context : Run.Context) (state : Run.State) :
    FailsOnly (fun fault => ¬ fault.OfCode) (handle.run.outcome context state).1 := by
  have hallowed : Policy.checked.Allows handle :=
    (Policy.checked_admits query.settings).build_means trivial h
  have hdepth : ¬ Fault.OfCode .callDepth := by rintro (hkind | hkind) <;> cases hkind
  have hrun := Policy.checked_sound.handle hallowed hdepth context state
  intro fault hfault
  rw [hfault] at hrun
  exact hrun

/-- A function that makes and calls another one, whose body reads a table that is not there. -/
theorem Query.run_never_ofCode_nested :
    let params (id : Nat) : Json := .array (Handle.node .makeArray [.ofNat id])
    let function (id : Nat) (body : Json) : Json := .array (Handle.node .func [params id, body])
    let apply (f arg : Json) : Json := .array (Handle.node .funcall [f, arg])
    let body : Json := .array (Handle.node .table [.array (Handle.node .var [.ofNat 1])])
    let query : Query :=
      ⟨apply (function 1 (apply (function 2 body) .null)) (.string "t"), {}⟩
    ∃ handle, query.build = .ok handle ∧
      (handle.run.outcome ⟨⟨0, 0, 0⟩, fun _ => 0⟩ ⟨Store.empty, 0⟩).1 =
        .error (.noDatabase "test") ∧
      ¬ Fault.OfCode (.noDatabase "test") := by
  intro params function apply body query
  have hbuilds : query.build.isOk = true := by decide +kernel
  have hrun : (query.run ⟨⟨0, 0, 0⟩, fun _ => 0⟩ ⟨Store.empty, 0⟩).1 =
      .error (.noDatabase "test") := by decide +kernel
  cases hbuild : query.build with
  | error fault =>
    rw [hbuild] at hbuilds
    cases hbuilds
  | ok handle =>
    unfold Query.run at hrun
    rw [hbuild] at hrun
    exact ⟨handle, rfl, hrun, run_never_ofCode query handle hbuild _ _ _ hrun⟩

end DocQuery
