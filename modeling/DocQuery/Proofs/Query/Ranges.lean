import DocQuery.Proofs.Query.Chain
import DocQuery.Proofs.Query.Spliced
import DocQuery.Proofs.Value.Sets

/-! Ranges of a table.

A range takes the rows whose field is not below its lower end and below its upper end. So a key
between the two ends cuts it into two ranges that have no row in common and together all of its
rows, and a range from a key to itself that takes in its upper end is what is looked up under the
key (`Query.run_ranges`). Rows without the field are in no range, not even in an open one. -/
namespace DocQuery

/-! ### Rows in a range -/

namespace Json

/-- The row has the field, which is not below the lower end and below the upper end. A missing
end leaves the range open. -/
def inRange (field : String) (lower upper : Option Json) (row : Json) : Bool :=
  (row.field? field).any fun key =>
    lower.all (·.order key != .gt) && upper.all (key.order · == .lt)

/-- The row has the field, which is below the key. -/
def isUnder (field : String) (key row : Json) : Bool :=
  (row.field? field).any (·.order key == .lt)

/-- The row has the field, which equals the key. -/
def isAt (field : String) (key row : Json) : Bool := (row.field? field).any (equals · key)

section Cut
variable {field : String} {lower upper : Option Json} {key row : Json}

theorem inRange_iff : inRange field lower upper row = true ↔
    ∃ found, row.field? field = some found ∧
      (∀ a ∈ lower, a.order found ≠ .gt) ∧ ∀ c ∈ upper, found.order c = .lt := by
  simp [inRange, Option.any_eq_true, Option.all_eq_true]

theorem isUnder_iff : isUnder field key row = true ↔
    ∃ found, row.field? field = some found ∧ found.order key = .lt := by
  simp [isUnder, Option.any_eq_true]

theorem order_ne_gt_iff {a b : Json} : a.order b ≠ .gt ↔ b.order a ≠ .lt := by
  rw [← order_swap b a]
  cases b.order a <;> simp

/-- The rows of a range that are below a key in it are those of the range up to the key. -/
theorem inRange_below (hkey : key.Proper) (hupper : ∀ c ∈ upper, c.Proper ∧ key.order c ≠ .gt)
    (hrow : ∀ found, row.field? field = some found → found.Proper) :
    inRange field lower (some key) row =
      (inRange field lower upper row && isUnder field key row) := by
  have hbelow : ∀ found, row.field? field = some found → found.order key = .lt →
      ∀ c ∈ upper, found.order c = .lt := by
    intro found hfound hunder c hc
    obtain ⟨hproper, hle⟩ := hupper c hc
    obtain ⟨-, hlevel, hboth⟩ := order_composes found key c (hrow found hfound) hkey hproper
    cases hcmp : key.order c with
    | lt => exact (hboth (hunder.trans hcmp.symm)).trans hunder
    | eq => exact (hlevel hcmp).trans hunder
    | gt => exact absurd hcmp hle
  rw [Bool.eq_iff_iff, Bool.and_eq_true, inRange_iff, inRange_iff, isUnder_iff]
  constructor
  · rintro ⟨found, hfound, hlower, hunder⟩
    have hunder := hunder key rfl
    exact ⟨⟨found, hfound, hlower, hbelow found hfound hunder⟩, found, hfound, hunder⟩
  · rintro ⟨⟨found, hfound, hlower, -⟩, found', hfound', hunder⟩
    cases hfound.symm.trans hfound'
    refine ⟨found, hfound, hlower, fun c hc => ?_⟩
    rwa [← Option.some.inj hc]

/-- The rows of a range that are not below a key in it are those of the range from the key on. -/
theorem inRange_above (hkey : key.Proper) (hlower : ∀ a ∈ lower, a.Proper ∧ a.order key ≠ .gt)
    (hrow : ∀ found, row.field? field = some found → found.Proper) :
    inRange field (some key) upper row =
      (inRange field lower upper row && !isUnder field key row) := by
  have habove : ∀ found, row.field? field = some found → key.order found ≠ .gt →
      ∀ a ∈ lower, a.order found ≠ .gt := by
    intro found hfound hover a ha
    obtain ⟨hproper, hle⟩ := hlower a ha
    exact (order_composes a key found hproper hkey (hrow found hfound)).ne_gt hle hover
  rw [Bool.eq_iff_iff, Bool.and_eq_true, Bool.not_eq_true', ← Bool.not_eq_true, inRange_iff,
    inRange_iff, isUnder_iff]
  constructor
  · rintro ⟨found, hfound, hover, hupper⟩
    have hover := hover key rfl
    refine ⟨⟨found, hfound, habove found hfound hover, hupper⟩, ?_⟩
    rintro ⟨found', hfound', hunder⟩
    cases hfound.symm.trans hfound'
    exact order_ne_gt_iff.mp hover hunder
  · rintro ⟨⟨found, hfound, -, hupper⟩, hunder⟩
    refine ⟨found, hfound, fun c hc => ?_, hupper⟩
    rw [← Option.some.inj hc, order_ne_gt_iff]
    exact fun hlt => hunder ⟨found, hfound, hlt⟩

end Cut

end Json

/-! ### Calls -/

namespace Call
open Run Json
variable {store : Store} {name : TableName} {table : Table}

theorem isAbove_closed (lower : Option Json) (key : Json) :
    isAbove lower true key = lower.all (·.order key != .gt) := by
  unfold isAbove
  congr 1
  funext a
  rw [← order_swap a key]
  cases a.order key <;> rfl

theorem isBelow_open (upper : Option Json) (key : Json) :
    isBelow upper false key = upper.all (key.order · == .lt) := by
  simp [isBelow]

/-- A range that takes in both ends, which are one key, holds what equals the key. -/
theorem isAbove_and_isBelow (key found : Json) :
    (isAbove (some key) true found && isBelow (some key) true found) = equals found key := by
  rw [Bool.eq_iff_iff, equals_iff]
  cases h : found.order key <;> simp [isAbove, isBelow, h]

end Call

/-! ### Options -/

/-- The options of a range: the index, and whether the upper end is taken in. -/
def rangeOptions (index? : Option Json) (closed : Bool) : Fields Json :=
  (index?.map fun index => ("index", index)).toList ++
    if closed then [("right_bound", .string "closed")] else []

section Options
variable (index? : Option Json) (closed : Bool)

theorem get?_rangeOptions_index : Fields.get? (rangeOptions index? closed) "index" = index? := by
  cases index? <;> cases closed <;> rfl

theorem get?_rangeOptions_left :
    Fields.get? (rangeOptions index? closed) "left_bound" = none := by
  cases index? <;> cases closed <;> rfl

theorem get?_rangeOptions_right : Fields.get? (rangeOptions index? closed) "right_bound" =
    if closed then some (.string "closed") else none := by
  cases index? <;> cases closed <;> rfl

theorem leftClosed_rangeOptions (args : List Argument) :
    Call.leftClosed ⟨.between, args, rangeOptions index? closed⟩ = .ok true := by
  unfold Call.leftClosed Call.isClosed Call.option?
  rw [get?_rangeOptions_left]
  rfl

theorem rightClosed_rangeOptions (args : List Argument) :
    Call.rightClosed ⟨.between, args, rangeOptions index? closed⟩ = .ok closed := by
  unfold Call.rightClosed Call.isClosed Call.option?
  rw [get?_rangeOptions_right]
  cases closed <;> rfl

end Options

/-- The field by which rows of a table are looked up: that of the index, or the primary key. -/
def Table.LooksUpBy (table : Table) (index? : Option Json) (field : String) : Prop :=
  match index? with
  | some index => ∃ descending, indexField index = .ok (field, descending)
  | none => field = table.primaryKey

namespace Call
open Run Json
variable {store : Store} {name : TableName} {table : Table} {index? : Option Json}
  {field : String}

theorem gives_lookupField (hfound : store.table? name = some table)
    (hfield : table.LooksUpBy index? field) (op : Operation) (args : List Argument)
    (closed : Bool) :
    Gives store (Call.lookupField ⟨op, args, rangeOptions index? closed⟩ name) field := by
  unfold lookupField Call.index? option?
  rw [get?_rangeOptions_index]
  cases index? with
  | some index =>
    obtain ⟨descending, hfield⟩ := hfield
    show Gives store (liftM (indexField index >>= fun found => pure (some found)) >>= _) _
    rw [hfield]
    exact Gives.pure _
  | none =>
    have hkey : Gives store (Run.store >>= fun s => liftM ((s.table name).map Table.primaryKey) >>=
        pure) field := by
      rw [show field = table.primaryKey from hfield]
      exact Gives.view hfound (Gives.pure _)
    simp only [bind_pure] at hkey
    exact hkey

/-- What a range of a table comes to. -/
theorem gives_between (hfound : store.table? name = some table)
    (hfield : table.LooksUpBy index? field) (first : Argument) {low high : Argument}
    {lower upper : Option Json} (hlow : bound low = pure lower) (hhigh : bound high = pure upper)
    (closed : Bool) :
    Gives store (Call.between ⟨.between, [first, low, high], rangeOptions index? closed⟩
      (.table name)) (.selection name (table.documents.filter fun row =>
        (row.field? field).any fun key =>
          isAbove lower true key && isBelow upper closed key)) := by
  unfold between
  refine (Datum.Picks.table.gives_rows hfound).bind ?_
  dsimp only
  refine (gives_lookupField hfound hfield _ _ closed).bind ?_
  rw [leftClosed_rangeOptions, rightClosed_rangeOptions]
  show Gives store (bound low >>= fun lower => bound high >>= fun upper => _) _
  rw [hlow, pure_bind, hhigh]
  exact Gives.pure _

/-- What a table comes to have under one key of an index. -/
theorem gives_getAll (hfound : store.table? name = some table)
    (hfield : table.LooksUpBy index? field) (first : Argument) (key : Json) :
    Gives store (Call.getAll ⟨.getAll, [first, .ofValue key], rangeOptions index? false⟩
      (.table name)) (.selection name (table.documents.filter (isAt field key))) := by
  have hrows : rowsOfKeys field [key] table.documents =
      table.documents.filter (isAt field key) := by
    rw [rowsOfKeys, List.flatMap_singleton]
    rfl
  unfold getAll
  refine (Gives.pure name).bind ((Gives.pure [key]).bind ?_)
  refine (gives_lookupField hfound hfield _ _ false).bind ?_
  rw [← hrows]
  exact Gives.view hfound (Gives.pure _)

end Call

/-! ### Terms -/

/-- The term of an end of a range, which an operation leaves open if it is missing. -/
def endTerm (unbounded : Operation) : Option Json → Json
  | some key => datumTerm key
  | none => nodeTerm unbounded [] none

/-- The term of a range of what another term means. -/
def betweenTerm (source : Json) (index? lower upper : Option Json) (closed : Bool) : Json :=
  methodTerm .between source [endTerm .minVal lower, endTerm .maxVal upper]
    (some (rangeOptions index? closed))

/-- The term of all rows under a key. -/
def getAllTerm (source : Json) (index? : Option Json) (key : Json) : Json :=
  methodTerm .getAll source [datumTerm key] (some (rangeOptions index? false))

/-- The handle of an end of a range. -/
def Handle.ofEnd (unbounded : Operation) : Option Json → Handle
  | some key => .datum key
  | none => .call unbounded [] []

theorem Call.bound_ofEnd (apply : Function → List Json → Run Json) {unbounded : Operation}
    (hop : unbounded = .minVal ∨ unbounded = .maxVal) (limit : Option Json) :
    bound ((Handle.ofEnd unbounded limit).argument apply) = pure limit := by
  cases limit with
  | some key => rfl
  | none => exact if_pos (hop.imp (congrArg some) (congrArg some))

theorem Handle.head_ofEnd (apply : Function → List Json → Run Json) {unbounded : Operation}
    (hop : unbounded = .minVal ∨ unbounded = .maxVal) (limit : Option Json) :
    ((ofEnd unbounded limit).argument apply).head ≠ some .args := by
  cases limit with
  | some key => nofun
  | none => rcases hop with rfl | rfl <;> nofun

namespace Query
open Evaluation Run Json
variable {settings : Settings} {source : Json} {name : TableName} {index? : Option Json}
  {field : String} {state : Run.State} {table : Table}

theorem evaluate_endTerm {unbounded : Operation}
    (hop : unbounded = .minVal ∨ unbounded = .maxVal) (limit : Option Json) (scope : Scope) :
    evaluate settings (endTerm unbounded limit) scope = .ok (.ofEnd unbounded limit) := by
  cases limit with
  | some key => exact evaluate_datumTerm key scope
  | none =>
    rcases hop with rfl | rfl <;>
    · rw [endTerm, evaluate_nodeTerm rfl]
      rfl

/-- A range of a table, as a query. -/
theorem run_betweenTerm (hsource : Names settings state.store source name)
    (hfound : state.store.table? name = some table) (hfield : table.LooksUpBy index? field)
    (lower upper : Option Json) (closed : Bool) (context : Run.Context) :
    run ⟨betweenTerm source index? lower upper closed, settings⟩ context state =
      (.ok (.array (table.documents.filter fun row => (row.field? field).any fun key =>
        Call.isAbove lower true key && Call.isBelow upper closed key)), state) := by
  have hterms : evaluateAll ([endTerm .minVal lower, endTerm .maxVal upper].map
      (evaluate settings)) Scope.root = .ok [.ofEnd .minVal lower, .ofEnd .maxVal upper] := by
    rw [List.map_cons, List.map_singleton, evaluateAll_cons, evaluateAll_cons,
      evaluate_endTerm (.inl rfl), evaluate_endTerm (.inr rfl)]
    rfl
  have hheads : ∀ handle ∈ [Handle.ofEnd .minVal lower, .ofEnd .maxVal upper],
      (handle.argument Function.invoke).head ≠ some .args :=
    List.forall_mem_cons.mpr ⟨Handle.head_ofEnd _ (.inl rfl) lower,
      List.forall_mem_singleton.mpr (Handle.head_ofEnd _ (.inr rfl) upper)⟩
  have hbetween := fun first => Call.gives_between hfound hfield first
    (Call.bound_ofEnd Function.invoke (.inl rfl) lower)
    (Call.bound_ofEnd Function.invoke (.inr rfl) upper) closed
  exact run_onTable .between rfl rfl (fun _ _ => rfl) hsource rfl hterms hheads
    (some (rangeOptions index? closed)) hbetween (Gives.pure _) context

/-- What a table has under a key of an index, as a query. -/
theorem run_getAllTerm (hsource : Names settings state.store source name)
    (hfound : state.store.table? name = some table) (hfield : table.LooksUpBy index? field)
    (key : Json) (context : Run.Context) :
    run ⟨getAllTerm source index? key, settings⟩ context state =
      (.ok (.array (table.documents.filter (isAt field key))), state) := by
  have hterms : evaluateAll ([datumTerm key].map (evaluate settings)) Scope.root =
      .ok [.datum key] := evaluateAll_data [key] Scope.root
  have hheads : ∀ handle ∈ [Handle.datum key],
      (handle.argument Function.invoke).head ≠ some .args := List.forall_mem_singleton.mpr nofun
  have hget := fun first => Call.gives_getAll hfound hfield first key
  exact run_onTable .getAll rfl rfl (fun _ _ => rfl) hsource rfl hterms hheads
    (some (rangeOptions index? false)) hget (Gives.pure _) context

/-- Ranges of a table fit together. A key that lies between the two ends of a range cuts it into
two ranges, which have all its rows and no row in common; all three have their rows in the order
of the table. A range without ends has the documents that have the field. A range from a key to
itself that takes in its upper end has what the table has under this key. -/
theorem run_ranges (hsource : Names settings state.store source name)
    (hfound : state.store.table? name = some table) (hfield : table.LooksUpBy index? field)
    (hrows : ∀ row ∈ table.documents, ∀ found, row.field? field = some found → found.Proper)
    {key : Json} (hkey : key.Proper) {lower upper : Option Json}
    (hlower : ∀ a ∈ lower, a.Proper ∧ a.order key ≠ .gt)
    (hupper : ∀ c ∈ upper, c.Proper ∧ key.order c ≠ .gt) (context : Run.Context) :
    let range (lower upper : Option Json) (closed : Bool) :=
      run ⟨betweenTerm source index? lower upper closed, settings⟩ context state
    let rows (lower upper : Option Json) := table.documents.filter (inRange field lower upper)
    let found := table.documents.filter (isAt field key)
    range lower upper false = (.ok (.array (rows lower upper)), state) ∧
      range lower (some key) false = (.ok (.array (rows lower (some key))), state) ∧
      range (some key) upper false = (.ok (.array (rows (some key) upper)), state) ∧
      (rows lower (some key) ++ rows (some key) upper).Perm (rows lower upper) ∧
      (rows lower (some key)).Disjoint (rows (some key) upper) ∧
      rows none none = table.documents.filter (fun row => (row.field? field).isSome) ∧
      range (some key) (some key) true = (.ok (.array found), state) ∧
      run ⟨getAllTerm source index? key, settings⟩ context state = (.ok (.array found), state) := by
  intro range rows found
  have hrange : ∀ lower upper, range lower upper false = (.ok (.array (rows lower upper)), state) := by
    intro lower upper
    have hrun := run_betweenTerm hsource hfound hfield lower upper false context
    simp only [Call.isAbove_closed, Call.isBelow_open] at hrun
    exact hrun
  have hbelow : rows lower (some key) = (rows lower upper).filter (isUnder field key) := by
    rw [List.filter_filter]
    refine List.filter_congr fun row hrow => ?_
    rw [inRange_below hkey hupper (hrows row hrow), Bool.and_comm]
  have habove : rows (some key) upper = (rows lower upper).filter fun row =>
      !isUnder field key row := by
    rw [List.filter_filter]
    refine List.filter_congr fun row hrow => ?_
    rw [inRange_above hkey hlower (hrows row hrow), Bool.and_comm]
  refine ⟨hrange _ _, hrange _ _, hrange _ _, ?_, ?_, ?_, ?_,
    run_getAllTerm hsource hfound hfield key context⟩
  · rw [hbelow, habove]
    exact List.filter_append_perm _ _
  · rw [hbelow, habove]
    intro row hunder hover
    simp [(List.mem_filter.mp hunder).2] at hover
  · refine List.filter_congr fun row _ => ?_
    cases h : row.field? field <;> simp [inRange, h]
  · have hrun := run_betweenTerm hsource hfound hfield (some key) (some key) true context
    simp only [Call.isAbove_and_isBelow] at hrun
    exact hrun

/-- A table with a number, a text and no value at all under an index is cut at a number, from
which it is read to its end. -/
theorem run_ranges_mixed :
    let source := Json.array (Handle.node .table [.string "t"])
    let name : TableName := ⟨"test", "t"⟩
    let document (n : Json) (id : Nat) := Json.object [("id", .ofNat id), ("n", n)]
    let one := document (.ofNat 1) 1
    let text := document (.string "x") 2
    let two := document (.ofNat 2) 4
    let table : Table := ⟨"id", [one, text, .object [("id", .ofNat 3)], two]⟩
    let state : Run.State := ⟨Store.empty.setTable name table, 0⟩
    let context : Run.Context := ⟨⟨0, 0, 0⟩, fun _ => 0⟩
    let range (lower upper : Option Json) (closed : Bool) :=
      run ⟨betweenTerm source (some (.string "n")) lower upper closed, {}⟩ context state
    range (some (.ofNat 1)) none false = (.ok (.array [one, text, two]), state) ∧
      range (some (.ofNat 1)) (some (.ofNat 2)) false = (.ok (.array [one]), state) ∧
      range (some (.ofNat 2)) none false = (.ok (.array [text, two]), state) ∧
      range (some (.ofNat 2)) (some (.ofNat 2)) true = (.ok (.array [two]), state) ∧
      run ⟨getAllTerm source (some (.string "n")) (.ofNat 2), {}⟩ context state =
        (.ok (.array [two]), state) := by
  intro source name document one text two table state context range
  have hfound : state.store.table? name = some table := by
    rw [Store.table?_setTable, if_pos rfl]
  have hrows : ∀ row ∈ table.documents, ∀ found, row.field? "n" = some found → found.Proper := by
    simp [table, one, text, two, document, Json.field?_object, Fields.get?_cons,
      Fields.get?_nil, Json.Proper, Json.ofNat]
  have hfield : table.LooksUpBy (some (.string "n")) "n" := ⟨false, rfl⟩
  have hkey : (Json.ofNat 2).Proper := trivial
  have hupper : ∀ c ∈ (none : Option Json), c.Proper ∧ (Json.ofNat 2).order c ≠ .gt :=
    fun _ hc => by cases hc
  have hlower : ∀ a ∈ some (Json.ofNat 1), a.Proper ∧ a.order (.ofNat 2) ≠ .gt := by
    intro a ha
    obtain rfl := Option.some.inj ha
    exact ⟨trivial, by decide +kernel⟩
  have hsource : Names {} state.store source name := names_of_build (build_table {} "t") hfound
  obtain ⟨hwhole, hbelow, habove, -, -, -, hclosed, hunder⟩ :=
    run_ranges hsource hfound hfield hrows hkey hlower hupper context
  refine ⟨hwhole.trans ?_, hbelow.trans ?_, habove.trans ?_, hclosed.trans ?_, hunder.trans ?_⟩
  all_goals decide +kernel

end Query

end DocQuery
