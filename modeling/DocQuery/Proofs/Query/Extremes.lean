import DocQuery.Proofs.Query.Spliced
import DocQuery.Proofs.Run.Ordering
import DocQuery.Proofs.Value.Extreme
import Mathlib.Data.List.Induction

/-! Extremes and sorted rows.

The smallest of some rows by a field is found in one pass over them, and stands first when they
are sorted by that field. The two are the same row also where several are level, and so are the
largest one and the first of the rows that are sorted downward (`Query.run_extreme`). -/
namespace DocQuery

/-! ### Rows by a field -/

/-- How two rows compare in a field, the other way round if the largest one is looked for. A
row without the field counts as `null`. -/
def Json.orderIn (largest : Bool) (field : String) (a b : Json) : Ordering :=
  let order := ((a.field? field).getD .null).order ((b.field? field).getD .null)
  if largest then order.swap else order

/-- The row has the field, and the times in it are proper. -/
def Json.HasProper (field : String) (row : Json) : Prop :=
  ∃ key, row.field? field = some key ∧ key.Proper

theorem Json.HasProper.proper {field : String} {row : Json} (h : row.HasProper field) :
    ((row.field? field).getD .null).Proper := by
  obtain ⟨key, hkey, hproper⟩ := h
  rw [hkey]
  exact hproper

theorem Json.isPreorder_orderIn (largest : Bool) (field : String) :
    Sorting.IsPreorder fun a b : {row : Json // row.HasProper field} =>
      orderIn largest field a b where
  swap a b := by
    unfold orderIn
    rw [← order_swap ((a.1.field? field).getD .null)]
    cases largest <;> simp
  composes a b c := by
    have h := order_composes _ _ _ a.2.proper b.2.proper c.2.proper
    cases largest
    · exact h
    · exact h.swap

/-! ### Calls -/

namespace Call
open Json Sorting
variable {largest : Bool} {field : String} {rows : List Json}

/-- The operation that looks for the extreme. -/
def extremeOf (largest : Bool) : Operation := if largest then .max else .min

/-- How a key compares with another one that it goes beyond. -/
def beyond (largest : Bool) : Ordering := if largest then .gt else .lt

/-- The better of the best row so far and a new one, by their fields. -/
def betterBy (largest : Bool) (field : String) (best : Option (Json × Json)) (row : Json) :
    Option (Json × Json) :=
  better (beyond largest) best ((row.field? field).getD .null) row

/-- The row with its key. -/
def keyed (field : String) (row : Json) : Json × Json := ((row.field? field).getD .null, row)

theorem betterBy_some (largest : Bool) (field : String) (best row : Json) :
    betterBy largest field (some (keyed field best)) row =
      some (keyed field (if orderIn largest field row best = .lt then row else best)) := by
  unfold betterBy better keyed orderIn beyond
  cases largest <;> simp [beq_iff_eq, ← apply_ite some] <;> split <;> rfl

/-- One pass over rows ends with the first of the extreme ones. -/
theorem foldl_betterBy (largest : Bool) (hrows : rows ≠ [])
    (hproper : ∀ row ∈ rows, row.HasProper field) :
    ∃ row, IsFirst (orderIn largest field) rows row ∧
      rows.foldl (betterBy largest field) none = some (keyed field row) := by
  induction rows using List.reverseRecOn with
  | nil => exact absurd rfl hrows
  | append_singleton rest new ih =>
    rw [List.foldl_append]
    rcases eq_or_ne rest [] with rfl | hrest
    · exact ⟨new, .singleton new, rfl⟩
    · have hproperRest : ∀ row ∈ rest, row.HasProper field := fun row hrow =>
        hproper row (List.mem_append_left _ hrow)
      have hnew : new.HasProper field := hproper new (by simp)
      obtain ⟨best, hfirst, hfold⟩ := ih hrest hproperRest
      refine ⟨_, hfirst.concat (isPreorder_orderIn largest field) hproperRest hnew, ?_⟩
      rw [hfold]
      exact betterBy_some largest field best new

/-- A field that is there is selected without looking at the state. -/
theorem found_select {row key : Json} (h : row.field? field = some key) :
    Run.found? ((Operand.ofValue (.string field)).select row) = pure (some key) := by
  have hfield : row.getField field = .ok key := by
    cases row with
    | object fields =>
      unfold Json.getField
      simp only [asObject, bind, Except.bind, (show Fields.get? fields field = some key from h)]
      rfl
    | _ => cases h
  show Run.found? (liftM (row.getField field)) = _
  rw [hfield]
  rfl

/-- A call that looks for the extreme by a field ends with the row that one pass finds. -/
theorem extreme_eq {call : Call} {row : Json}
    (hselector : call.extremeSelector = pure (some (.ofValue (.string field))))
    (hproper : ∀ row ∈ rows, row.HasProper field)
    (hrow : rows.foldl (betterBy largest field) none = some (keyed field row)) :
    call.extreme (beyond largest) (.array rows) = pure row := by
  unfold extreme
  rw [hselector]
  show (rows.foldlM _ none >>= _ : Run Json) = _
  rw [Run.foldlM_eq_pure (g := betterBy largest field) fun best row hmem => ?_, hrow]
  · rfl
  · obtain ⟨key, hkey, -⟩ := hproper row hmem
    rw [keyFor, found_select hkey, betterBy, hkey]
    rfl

/-- A call that orders rows by a field sorts them by it. -/
theorem orderBy_eq {call : Call}
    (hkeys : call.sortKeys = pure [⟨.ofValue (.string field), largest⟩])
    (hproper : ∀ row ∈ rows, row.HasProper field) :
    call.orderBy (.value (.array rows)) =
      pure (.value (.array (stable (orderIn largest field) rows))) := by
  have hvalues : rows.mapM (sortValues [⟨.ofValue (.string field), largest⟩]) =
      pure (rows.map fun row => [(row.field? field).getD .null]) := by
    refine Run.mapM_eq_pure fun row hmem => ?_
    obtain ⟨key, hkey, -⟩ := hproper row hmem
    rw [sortValues, List.mapM_cons, found_select hkey, hkey]
    rfl
  have hsorted : (stable (fun a b => orderBySortValues [largest] a.1 b.1)
      ((rows.map fun row => [(row.field? field).getD .null]).zip rows)).map Prod.snd =
        stable (orderIn largest field) rows := by
    have hzip : (rows.map fun row => [(row.field? field).getD .null]).zip rows =
        rows.map fun row => ([(row.field? field).getD .null], row) :=
      List.map_prod_right_eq_zip.symm
    rw [hzip, ← stable_map, List.map_map, Function.comp_def, List.map_id']
    congr 1
    funext a b
    simp [orderBySortValues, orderIn]
  unfold orderBy
  rw [hkeys]
  show (rows.mapM _ >>= _ : Run Datum) = _
  rw [mapM_decorate, bind_assoc, hvalues, ← hsorted]
  rfl

end Call

/-! ### Queries -/

/-- The term of the extreme of some rows by a field. -/
def extremeTerm (largest : Bool) (rows : List Json) (field : String) : Json :=
  methodTerm (Call.extremeOf largest) (datumTerm (.array rows)) [.string field] none

/-- The term of a field as a key, which goes downward if it is to put the largest row first. -/
def keyTerm (largest : Bool) (field : String) : Json :=
  if largest then nodeTerm .desc [.string field] none else .string field

/-- The term of some rows sorted by a field. -/
def orderedTerm (largest : Bool) (rows : List Json) (field : String) : Json :=
  methodTerm .orderBy (datumTerm (.array rows)) [keyTerm largest field] none

/-- The term of the first row of what another term means. -/
def firstTerm (source : Json) : Json := nodeTerm .nth [source, .ofNat 0] none

namespace Handle

/-- The handle of a key. -/
def key (largest : Bool) (field : String) : Handle :=
  if largest then .call .desc [.datum (.string field)] [] else .datum (.string field)

/-- The handle of sorted rows. -/
def ordered (largest : Bool) (rows : List Json) (field : String) : Handle :=
  .call .orderBy [.datum (.array rows), key largest field] []

end Handle

namespace Call
open Json Sorting
variable {largest : Bool} {field : String} {rows : List Json}

theorem run_extremeOf {row : Json} (hproper : ∀ row ∈ rows, row.HasProper field)
    (hrow : rows.foldl (betterBy largest field) none = some (keyed field row)) :
    (Handle.made (extremeOf largest) [.datum (.array rows), .datum (.string field)] []).run =
      pure (.value row) := by
  have hextreme : (Handle.made (extremeOf largest)
      [.datum (.array rows), .datum (.string field)] []).extreme (beyond largest) (.array rows) =
        pure row := extreme_eq rfl hproper hrow
  rw [run_eq_perform (by simp [Handle.made, Handle.arguments, Handle.argument, Argument.ofValue])]
  cases largest
  · exact congrArg (· >>= fun value => pure (Datum.value value)) hextreme
  · exact congrArg (· >>= fun value => pure (Datum.value value)) hextreme

/-- Sorting by one field puts rows in order by it. -/
theorem run_ordered (apply : Function → List Json → Run Json)
    (hproper : ∀ row ∈ rows, row.HasProper field) :
    ((Handle.ordered largest rows field).argument apply).run =
      pure (.value (.array (stable (orderIn largest field) rows))) := by
  have hheads : ∀ arg ∈ Handle.arguments apply [.datum (.array rows), .key largest field],
      arg.head ≠ some .args := by
    cases largest <;>
      simp [Handle.arguments, Handle.argument, Handle.key, Argument.ofValue]
  have hkeys : Call.sortKeys ⟨.orderBy, Handle.arguments apply
      [.datum (.array rows), .key largest field], []⟩ =
        pure [⟨.ofValue (.string field), largest⟩] := by
    cases largest <;> rfl
  have hrun : Call.run ⟨.orderBy, Handle.arguments apply
      [.datum (.array rows), .key largest field], []⟩ = _ := run_eq_perform hheads
  exact hrun.trans (orderBy_eq hkeys hproper)

theorem itemAt_zero {items : List Json} {item : Json} (h : items.head? = some item) :
    itemAt items 0 = .ok item := by
  cases items with
  | nil => cases h
  | cons first rest =>
    cases h
    unfold itemAt Position.index
    simp

theorem integer_zero : (Operand.ofValue (.ofNat 0)).integer = pure 0 := by
  have hread : (Json.ofNat 0).asInteger = .ok 0 := by decide +kernel
  unfold Operand.integer
  show (pure (Json.ofNat 0) >>= fun v => liftM v.asInteger) = _
  rw [pure_bind, hread]
  rfl

/-- The first row of an array. -/
theorem run_first {source position : Argument} {items : List Json} {item : Json}
    (hheads : ∀ arg ∈ [source, position], arg.head ≠ some .args)
    (hsource : source.run = pure (.value (.array items)))
    (hposition : position.integer = pure 0) (hitem : items.head? = some item) :
    Call.run ⟨.nth, [source, position], []⟩ = pure (.value item) := by
  rw [run_eq_perform hheads]
  show (source.run >>= _ : Run Datum) = _
  rw [hsource]
  show (position.integer >>= fun i => liftM (itemAt items i) >>= fun row =>
    pure (Datum.value row)) = _
  rw [hposition, pure_bind, itemAt_zero hitem]
  rfl

theorem run_firstOrdered {row : Json} (hproper : ∀ row ∈ rows, row.HasProper field)
    (hrow : (stable (orderIn largest field) rows).head? = some row) :
    (Handle.made .nth [.ordered largest rows field, .datum (.ofNat 0)] []).run =
      pure (.value row) := by
  refine run_first ?_ (run_ordered _ hproper) integer_zero hrow
  simp [Handle.ordered, Handle.argument, Argument.ofValue]

end Call

namespace Query
open Evaluation
variable (settings : Settings)

theorem build_extremeTerm (largest : Bool) (rows : List Json) (field : String) :
    DocQuery.build settings (extremeTerm largest rows field) =
      .ok (.call (Call.extremeOf largest) [.datum (.array rows), .datum (.string field)] []) := by
  unfold DocQuery.build extremeTerm
  cases largest
  · rw [evaluate_methodTerm rfl, evaluate_datumTerm]
    rfl
  · rw [evaluate_methodTerm rfl, evaluate_datumTerm]
    rfl

theorem evaluate_keyTerm (largest : Bool) (field : String) (scope : Scope) :
    evaluate settings (keyTerm largest field) scope = .ok (.key largest field) := by
  cases largest
  · rfl
  · show evaluate settings (nodeTerm .desc [.string field] none) scope = _
    rw [evaluate_nodeTerm rfl]
    rfl

theorem build_firstTerm (largest : Bool) (rows : List Json) (field : String) :
    DocQuery.build settings (firstTerm (orderedTerm largest rows field)) =
      .ok (.call .nth [.ordered largest rows field, .datum (.ofNat 0)] []) := by
  have hordered : evaluate settings (orderedTerm largest rows field) Scope.root =
      .ok (.ordered largest rows field) := by
    unfold orderedTerm
    rw [evaluate_methodTerm rfl, evaluate_datumTerm, List.map_singleton, evaluateAll_cons,
      evaluate_keyTerm]
    rfl
  unfold DocQuery.build firstTerm
  rw [evaluate_nodeTerm rfl, List.map_cons, List.map_singleton, evaluateAll_cons, hordered]
  rfl

end Query

/-- The extreme of rows by a field that they all have is the first of the rows sorted by it,
upward for the smallest and downward for the largest. It goes beyond all rows before it, and
none of the rows after it goes beyond it. -/
theorem Query.run_extreme (largest : Bool) {rows : List Json} {field : String}
    (hrows : rows ≠ []) (hproper : ∀ row ∈ rows, row.HasProper field) (settings : Settings)
    (context : Run.Context) (state : Run.State) :
    ∃ row, Sorting.IsFirst (Json.orderIn largest field) rows row ∧
      run ⟨extremeTerm largest rows field, settings⟩ context state = (.ok row, state) ∧
      run ⟨firstTerm (orderedTerm largest rows field), settings⟩ context state =
        (.ok row, state) := by
  obtain ⟨row, hfirst, hfold⟩ := Call.foldl_betterBy largest hrows hproper
  refine ⟨row, hfirst, ?_, ?_⟩
  · rw [run_of_build (build_extremeTerm settings largest rows field), Handle.run_call,
      Call.run_extremeOf hproper hfold]
    rfl
  · have hhead := Sorting.head?_stable (Json.isPreorder_orderIn largest field) hproper hfirst
    rw [run_of_build (build_firstTerm settings largest rows field), Handle.run_call,
      Call.run_firstOrdered hproper hhead]
    rfl

/-- Of four rows with numbers and a text, two are level and smallest. The first of them is the
smallest row, and the first one in order. -/
theorem Query.run_extreme_tied :
    let document (a : Json) (id : Nat) := Json.object [("a", a), ("id", .ofNat id)]
    let rows := [document (.string "x") 1, document (.ofNat 3) 2,
      document (.number (.real (.ofInt 3))) 3, document (.ofNat 4) 4]
    let context : Run.Context := ⟨⟨0, 0, 0⟩, fun _ => 0⟩
    let state : Run.State := ⟨.empty, 0⟩
    (∀ row ∈ rows, row.HasProper "a") ∧
    run ⟨extremeTerm false rows "a", {}⟩ context state = (.ok (document (.ofNat 3) 2), state) ∧
    run ⟨firstTerm (orderedTerm false rows "a"), {}⟩ context state =
      (.ok (document (.ofNat 3) 2), state) := by
  intro document rows context state
  have hproper : ∀ row ∈ rows, row.HasProper "a" := by
    simp [rows, document, Json.HasProper, Json.field?_object, Fields.get?_cons, Json.Proper,
      Json.ofNat]
  obtain ⟨row, -, hextreme, hfirst⟩ :=
    Query.run_extreme false (List.cons_ne_nil _ _) hproper {} context state
  have hrun : (run ⟨extremeTerm false rows "a", {}⟩ context state).1 =
      .ok (document (.ofNat 3) 2) := by
    decide +kernel
  rw [hextreme] at hrun
  cases hrun
  exact ⟨hproper, hextreme, hfirst⟩

end DocQuery
