import DocQuery.Proofs.Query.Rendered

/-! Literal values written as terms.

A literal array is written as a made array of its elements as they stand. When the term is
read, an element that is itself a made array is looked into, so what it stands for is nested
less deeply than the element (`Reads`); every other element is kept. A literal therefore runs
to itself exactly when none of its elements is a made array (`Query.run_literal_iff`). -/
namespace DocQuery

/-! ### Handles that stand for a value -/

namespace Handle
variable {items : List Handle} {values : List Json}

/-- The handle runs to a value, whatever calls of functions do, and does nothing else. -/
def StandsFor (handle : Handle) (value : Json) : Prop :=
  ∀ call, (handle.argument call).value = pure value

theorem standsFor_datum (value : Json) : StandsFor (.datum value) value := fun _ => rfl

theorem values_of_standsFor (h : List.Forall₂ StandsFor items values)
    (call : Function → List Json → Run Json) :
    DocQuery.values (arguments call items) = pure values := by
  unfold DocQuery.values
  induction h with
  | nil => rfl
  | cons hfirst _ ih =>
    rw [arguments, List.mapM_cons, ih, hfirst call]
    rfl

theorem standsFor_array (h : List.Forall₂ StandsFor items values) :
    StandsFor (.array items) (.array values) := by
  intro call
  show (do return Datum.value (.array (← DocQuery.values (arguments call items))) :
    Run Datum) >>= Datum.materialize = _
  rw [values_of_standsFor h call]
  rfl

theorem standsFor_data (elements : List Json) :
    StandsFor (.array (elements.map .datum)) (.array elements) := by
  refine standsFor_array ?_
  rw [List.forall₂_map_left_iff, List.forall₂_same]
  exact fun element _ => standsFor_datum element

end Handle

/-! ### Elements that are read -/

section Elements
open Evaluation
variable {settings : Settings} {scope : Scope} {elements values : List Json} {handle : Handle}

/-- What an element of an array is read as. -/
inductive Reads : Json → Json → Prop
  | kept {element : Json} (hkept : isMadeArray element = false) : Reads element element
  | made {element value : Json} (hmade : isMadeArray element = true)
    (hheight : value.height < element.height) : Reads element value

theorem Reads.height_le {element value : Json} (h : Reads element value) :
    value.height ≤ element.height := by
  cases h with
  | kept => exact Nat.le_refl _
  | made _ hheight => exact Nat.le_of_lt hheight

theorem heightOfItems_le (h : List.Forall₂ Reads elements values) :
    Json.heightOfItems values ≤ Json.heightOfItems elements := by
  induction h with
  | nil => exact Nat.le_refl _
  | cons hfirst _ ih =>
    have hfirst := hfirst.height_le
    rw [Json.heightOfItems, Json.heightOfItems]
    omega

/-- An element that is read as itself is no made array. -/
theorem not_made_of_reads (h : List.Forall₂ Reads elements elements) :
    ∀ element ∈ elements, isMadeArray element = false := by
  rw [List.forall₂_same] at h
  intro element hin
  cases h element hin with
  | kept hkept => exact hkept
  | made _ hheight => exact absurd hheight (Nat.lt_irrefl _)

/-- What is found element by element is found for the whole array. -/
theorem standsFor_of_elements {items : List Handle}
    (h : List.Forall₂ (fun element item => ∃ value, item.StandsFor value ∧ Reads element value)
      elements items) :
    ∃ values, Handle.StandsFor (.array items) (.array values) ∧
      List.Forall₂ Reads elements values := by
  have hvalues : ∃ values, List.Forall₂ Handle.StandsFor items values ∧
      List.Forall₂ Reads elements values := by
    induction h with
    | nil => exact ⟨[], .nil, .nil⟩
    | cons hfirst _ ih =>
      obtain ⟨value, hvalue, hreads⟩ := hfirst
      obtain ⟨values, hvalues, hall⟩ := ih
      exact ⟨value :: values, .cons hvalue hvalues, .cons hreads hall⟩
  obtain ⟨values, hvalues, hreads⟩ := hvalues
  exact ⟨values, Handle.standsFor_array hvalues, hreads⟩

/-- The handle of a made array, if the arrays that are made in it come out lower. -/
theorem standsFor_of_madeArray
    (hbelow : ∀ element ∈ elements, isMadeArray element = true → ∀ item,
      evaluate settings element scope = .ok item →
      ∃ value, item.StandsFor value ∧ value.height < element.height)
    (h : madeArray (.data (.array elements)) (elements.map (evaluate settings)) scope =
      .ok handle) :
    ∃ values, handle.StandsFor (.array values) ∧ List.Forall₂ Reads elements values := by
  rw [madeArray_data] at h
  obtain ⟨items, hitems, h⟩ := bind_eq_ok h
  cases h
  refine standsFor_of_elements ?_
  have hread : ∀ element item, element ∈ elements ∧
      madeItem element (evaluate settings element) scope = .ok item →
      ∃ value, item.StandsFor value ∧ Reads element value := by
    rintro element item ⟨helement, hitem⟩
    unfold madeItem at hitem
    split at hitem
    · next hmade =>
      obtain ⟨value, hvalue, hheight⟩ := hbelow element helement hmade item hitem
      exact ⟨value, hvalue, .made hmade hheight⟩
    · next hkept =>
      cases hitem
      exact ⟨element, Handle.standsFor_datum element, .kept (by simpa using hkept)⟩
  exact ((List.forall₂_and_left _ _).mpr ⟨fun _ h => h, mapM_eq_ok_iff.mp hitems⟩).imp hread

/-- A made array stands for an array that is nested less deeply than its term. -/
theorem made_standsFor (term : Json) (hmade : isMadeArray term = true) :
    ∀ handle, evaluate settings term scope = .ok handle →
      ∃ value, handle.StandsFor value ∧ value.height < term.height := by
  match term with
  | .null | .bool _ | .number _ | .string _ | .object _ => cases hmade
  | .array items =>
    intro handle h
    obtain ⟨values, hvalues, hreads⟩ := standsFor_of_madeArray
      (fun element hin hmade => made_standsFor element hmade) (evaluate_made hmade h)
    refine ⟨.array values, hvalues, ?_⟩
    have hle := heightOfItems_le hreads
    unfold isMadeArray at hmade
    split at hmade
    · next head elements rest heq =>
      cases heq
      have hle : Json.heightOfItems values ≤ Json.heightOfItems elements := hle
      simp only [Json.height, Json.heightOfItems]
      omega
    · cases hmade
termination_by term.height
decreasing_by exact height_argumentTerms hin

end Elements

/-! ### Literals -/

namespace Query
open Evaluation
variable {settings : Settings} {context : Run.Context} {state : Run.State}

theorem run_eq_of_standsFor {query : Query} {handle : Handle} {value : Json}
    (h : query.build = .ok handle) (hvalue : handle.StandsFor value) (context : Run.Context)
    (state : Run.State) : query.run context state = (.ok value, state) := by
  unfold run
  rw [h]
  exact congrArg (fun run : Run Json => run.outcome context state) (hvalue _)

theorem evaluate_literalArray (elements : List Json) (scope : Scope) :
    evaluate settings (Handle.datum (.array elements)).toWire scope =
      madeArray (.data (.array elements)) (elements.map (evaluate settings)) scope := by
  rw [Handle.toWire, evaluate_node rfl rfl]
  rfl

theorem build_literalArray {elements : List Json}
    (h : ∀ element ∈ elements, isMadeArray element = false) :
    build ⟨(Handle.datum (.array elements)).toWire, settings⟩ =
      .ok (.array (elements.map .datum)) := by
  show evaluate settings _ Scope.root = _
  rw [evaluate_literalArray, madeArray_data]
  have hitems : elements.mapM (fun element => madeItem element (evaluate settings element)
      Scope.root) = .ok (elements.map .datum) := by
    rw [mapM_eq_ok_iff, List.forall₂_map_right_iff, List.forall₂_same]
    intro element helement
    unfold madeItem
    rw [h element helement]
    rfl
  rw [hitems]
  rfl

/-- An array that is run from what it is written as holds no made arrays. -/
theorem not_made_of_run {elements : List Json}
    (h : run ⟨(Handle.datum (.array elements)).toWire, settings⟩ context state =
      (.ok (.array elements), state)) :
    ∀ element ∈ elements, isMadeArray element = false := by
  cases hbuild : build ⟨(Handle.datum (.array elements)).toWire, settings⟩ with
  | error fault =>
    unfold run at h
    rw [hbuild] at h
    cases h
  | ok handle =>
    have hmade : madeArray (.data (.array elements)) (elements.map (evaluate settings))
        Scope.root = .ok handle := (evaluate_literalArray elements Scope.root).symm.trans hbuild
    obtain ⟨values, hvalues, hreads⟩ := standsFor_of_madeArray
      (fun element _ hmade => made_standsFor element hmade) hmade
    rw [run_eq_of_standsFor hbuild hvalues context state] at h
    cases h
    exact not_made_of_reads hreads

/-- A literal that is written as a term runs to itself exactly if none of its elements is a made
array. -/
theorem run_literal_iff (value : Json) (settings : Settings) (context : Run.Context)
    (state : Run.State) :
    run ⟨(Handle.datum value).toWire, settings⟩ context state = (.ok value, state) ↔
      ∀ elements, value = .array elements → ∀ element ∈ elements, isMadeArray element = false := by
  match value with
  | .null | .bool _ | .number _ | .string _ | .object _ =>
    refine ⟨fun _ => nofun, fun _ => ?_⟩
    exact run_eq_of_standsFor rfl (Handle.standsFor_datum _) context state
  | .array elements =>
    refine ⟨fun h _ heq => ?_, fun h => ?_⟩
    · cases heq
      exact not_made_of_run h
    · exact run_eq_of_standsFor (build_literalArray (h elements rfl))
        (Handle.standsFor_data elements) context state

/-- An element that is written as a made array of one number is read as that array. -/
theorem run_literal_changed :
    let value := Json.array [.array [.ofNat 2, .array [.ofNat 5]]]
    let query : Query := ⟨(Handle.datum value).toWire, {}⟩
    (query.run ⟨⟨0, 0, 0⟩, fun _ => 0⟩ ⟨Store.empty, 0⟩).1 =
        .ok (.array [.array [.ofNat 5]]) ∧
      Json.array [.array [.ofNat 5]] ≠ value := by
  refine ⟨?_, ?_⟩ <;> decide +kernel

end Query

end DocQuery
