import DocQuery.Proofs.Run.Outcome
import DocQuery.Proofs.Run.Selection
import DocQuery.Run.Query

/-! Sorting rows by several keys.

Rows are sorted by what the keys give for them. The first key in which two rows differ puts
one of them first, and rows that differ in none keep their places (`orderBy_sorts`). Each key
has a direction of its own, which never turns rows around that are level. -/
namespace DocQuery

/-! ### Comparing lists of sort values -/

namespace Call

/-- How two lists of sort values compare in a key, the other way round if it goes downward. -/
def compareAt (directions : List Bool) (as bs : List Json) (key : Nat) : Ordering :=
  if directions.getD key false then (bs.getD key .null).order (as.getD key .null)
  else (as.getD key .null).order (bs.getD key .null)

theorem orderBySortValues_cons (descending : Bool) (directions : List Bool) (a b : Json)
    (as bs : List Json) :
    orderBySortValues (descending :: directions) (a :: as) (b :: bs) =
      (compareAt (descending :: directions) (a :: as) (b :: bs) 0).then
        (orderBySortValues directions as bs) := by
  rw [orderBySortValues, Json.order_swap a b]
  rfl

section Lengths
variable {directions : List Bool} {as bs : List Json}

/-- Lists that are level are level in every key. -/
theorem compareAt_of_eq (ha : as.length = directions.length) (hb : bs.length = directions.length)
    (h : orderBySortValues directions as bs = .eq) :
    ∀ key < directions.length, compareAt directions as bs key = .eq := by
  induction directions generalizing as bs with
  | nil => exact fun key hkey => absurd hkey (Nat.not_lt_zero key)
  | cons descending directions ih =>
    match as, bs with
    | a :: as, b :: bs =>
      rw [orderBySortValues_cons, Ordering.then_eq_eq] at h
      rintro (_ | key) hkey
      · exact h.1
      · exact ih (Nat.succ.inj ha) (Nat.succ.inj hb) h.2 key (Nat.lt_of_succ_lt_succ hkey)

/-- A list is below another one if it is in the first key in which they differ. -/
theorem compareAt_of_lt (ha : as.length = directions.length) (hb : bs.length = directions.length)
    (h : orderBySortValues directions as bs = .lt) :
    ∃ key < directions.length,
      (∀ earlier < key, compareAt directions as bs earlier = .eq) ∧
        compareAt directions as bs key = .lt := by
  induction directions generalizing as bs with
  | nil => cases h
  | cons descending directions ih =>
    match as, bs with
    | a :: as, b :: bs =>
      rw [orderBySortValues_cons, Ordering.then_eq_lt] at h
      rcases h with hfirst | ⟨hfirst, hrest⟩
      · exact ⟨0, Nat.succ_pos _, fun earlier h => absurd h (Nat.not_lt_zero _), hfirst⟩
      · obtain ⟨key, hkey, hearlier, hlt⟩ := ih (Nat.succ.inj ha) (Nat.succ.inj hb) hrest
        refine ⟨key + 1, Nat.succ_lt_succ hkey, ?_, hlt⟩
        rintro (_ | earlier) h
        · exact hfirst
        · exact hearlier earlier (Nat.lt_of_succ_lt_succ h)

end Lengths

/-- The sort values of a row: one for each key, with proper times. -/
def Sortable (directions : List Bool) (values : List Json) : Prop :=
  values.length = directions.length ∧ ∀ value ∈ values, value.Proper

theorem Sortable.of_cons {descending : Bool} {directions : List Bool} {value : Json}
    {values : List Json} (h : Sortable (descending :: directions) (value :: values)) :
    value.Proper ∧ Sortable directions values := by
  obtain ⟨hlength, hproper⟩ := h
  obtain ⟨hvalue, hvalues⟩ := List.forall_mem_cons.mp hproper
  exact ⟨hvalue, Nat.succ.inj hlength, hvalues⟩

theorem orderBySortValues_swap (directions : List Bool) (as bs : List Json) :
    (orderBySortValues directions as bs).swap = orderBySortValues directions bs as := by
  induction directions generalizing as bs with
  | nil => rfl
  | cons descending directions ih =>
    cases as <;> cases bs
    case cons.cons a as b bs =>
      rw [orderBySortValues, orderBySortValues, Ordering.swap_then, ih, ← Json.order_swap a b]
      cases descending <;> simp
    all_goals rfl

theorem orderBySortValues_composes {directions : List Bool} {as bs cs : List Json}
    (ha : Sortable directions as) (hb : Sortable directions bs) (hc : Sortable directions cs) :
    Composes (orderBySortValues directions as bs) (orderBySortValues directions bs cs)
      (orderBySortValues directions as cs) := by
  induction directions generalizing as bs cs with
  | nil => exact ⟨fun _ => rfl, fun _ => rfl, fun _ => rfl⟩
  | cons descending directions ih =>
    match as, ha.1, bs, hb.1, cs, hc.1 with
    | a :: as, _, b :: bs, _, c :: cs, _ =>
      obtain ⟨ha, has⟩ := ha.of_cons
      obtain ⟨hb, hbs⟩ := hb.of_cons
      obtain ⟨hc, hcs⟩ := hc.of_cons
      have hfirst : Composes (a.order b) (b.order c) (a.order c) :=
        Json.order_composes a b c ha hb hc
      rw [orderBySortValues, orderBySortValues, orderBySortValues]
      refine Composes.andThen ?_ (ih has hbs hcs)
      cases descending
      · exact hfirst
      · exact hfirst.swap

/-- Rows with their sort values are in a preorder. -/
theorem isPreorder_sortable (directions : List Bool) :
    Sorting.IsPreorder fun a b : {entry : List Json × Json // Sortable directions entry.1} =>
      orderBySortValues directions a.1.1 b.1.1 where
  swap a b := orderBySortValues_swap directions a.1.1 b.1.1
  composes a b c := orderBySortValues_composes a.2 b.2 c.2

end Call

/-! ### Keys -/

/-- The operand is the name of a field. -/
structure Operand.Names (operand : Operand) (name : String) : Prop where
  call?_eq : operand.call? = none
  outcome_value : ∀ context state,
    operand.value.outcome context state = (.ok (.string name), state)

/-- How an argument orders rows: by what it selects, or by what the term in it selects that
is turned upward or downward. -/
inductive Argument.Orders (arg : Argument) : SortKey → Prop
  | plain : arg.head ≠ some .asc → arg.head ≠ some .desc → Orders arg ⟨arg.toOperand, false⟩
  | asc {operand : Operand} :
    arg.head = some .asc → arg.first = some operand → Orders arg ⟨operand, false⟩
  | desc {operand : Operand} :
    arg.head = some .desc → arg.first = some operand → Orders arg ⟨operand, true⟩

/-- The keys of a call: the index, if there is one, and then one for each argument. -/
def Call.Keys (call : Call) (keys : List SortKey) : Prop :=
  ∃ index given, call.index? = .ok index ∧ List.Forall₂ Argument.Orders call.rest given ∧
    keys = (index.map fun (field, descending) =>
      SortKey.mk (.ofValue (.string field)) descending).toList ++ given

theorem Argument.orders_rightUnique : Relator.RightUnique Argument.Orders := by
  intro arg key key' h h'
  cases h <;> cases h' <;> simp_all

/-- A call has at most one list of keys. -/
theorem Call.Keys.unique {call : Call} {keys keys' : List SortKey} (h : call.Keys keys)
    (h' : call.Keys keys') : keys = keys' := by
  obtain ⟨index, given, hindex, hgiven, rfl⟩ := h
  obtain ⟨index', given', hindex', hgiven', rfl⟩ := h'
  obtain rfl : index = index' := Except.ok.inj (hindex.symm.trans hindex')
  obtain rfl : given = given' :=
    List.right_unique_forall₂' Argument.orders_rightUnique hgiven hgiven'
  rfl

/-- The value that a key gives for a row: the field of a name or what a function comes to, and
`null` where data is missing. -/
structure SortKey.Gives (key : SortKey) (context : Run.Context) (row value : Json) : Prop where
  field : ∀ name, key.selector.Names name → value = (row.field? name).getD .null
  function : ∀ function, key.selector.call? = some function → ∃ before after,
    (function [row]).outcome context before = (.ok value, after) ∨
      ∃ fault : Fault, fault.isMissing = true ∧ value = .null ∧
        (function [row]).outcome context before = (.error fault, after)

/-- Selecting by a name reads the field. -/
theorem Operand.Names.outcome_select {operand : Operand} {name : String}
    (h : operand.Names name) (row : Json) (context : Run.Context) (state : Run.State) :
    (operand.select row).outcome context state = (row.getField name, state) := by
  rw [Operand.select, h.call?_eq]
  show (operand.value >>= _).outcome context state = _
  rw [Run.outcome_bind, h.outcome_value]
  exact Run.outcome_lift context state (row.getField name)

theorem Json.toOption_getField (row : Json) (name : String) :
    (row.getField name).toOption = row.field? name := by
  cases row with
  | object fields =>
    unfold getField
    simp only [asObject, bind, Except.bind, field?]
    cases Fields.get? fields name <;> rfl
  | _ => rfl

/-- What a row is sorted by is what the key gives for it. -/
theorem SortKey.Gives.of_outcome {key : SortKey} {row value : Json} {context : Run.Context}
    {before after : Run.State}
    (h : (do return (← Run.found? (key.selector.select row)).getD .null : Run Json).outcome
      context before = (.ok value, after)) :
    key.Gives context row value := by
  obtain ⟨result, between, hfound, h⟩ := Run.outcome_bind_eq_ok h
  cases h
  have hselect := Run.outcome_found_eq_ok hfound
  refine ⟨fun name hname => ?_, fun function hcall => ⟨before, after, ?_⟩⟩
  · rw [hname.outcome_select] at hselect
    have hfield : result = row.field? name := by
      rw [← Json.toOption_getField]
      rcases hselect with ⟨a, ha, rfl⟩ | ⟨fault, -, hfault, rfl⟩
      · rw [(Prod.mk.inj ha).1]
        rfl
      · rw [(Prod.mk.inj hfault).1]
        rfl
    rw [hfield]
  · rw [Operand.select, hcall] at hselect
    rcases hselect with ⟨a, ha, rfl⟩ | ⟨fault, hmissing, hfault, rfl⟩
    · exact .inl ha
    · exact .inr ⟨fault, hmissing, rfl, hfault⟩

/-! ### What a call sorts -/

/-- Rows to be sorted: the keys, and the sort values of each row, one for each key. -/
structure SortPlan where
  /-- The table that the rows are tied to. -/
  name : Option TableName
  rows : List Json
  keys : List SortKey
  values : List (List Json)

namespace SortPlan

/-- The plan of a call: its keys, the rows of its receiver, and what it works out for them. -/
structure Of (plan : SortPlan) (call : Call) (receiver : Datum) (context : Run.Context)
    (state after : Run.State) : Prop where
  keys : call.Keys plan.keys
  keys_ne_nil : plan.keys ≠ []
  run : ∃ between,
    receiver.rows.outcome context state = (.ok (plan.name, plan.rows), between) ∧
      (plan.rows.mapM (Call.sortValues plan.keys)).outcome context between =
        (.ok plan.values, after)
  gives : List.Forall₂ (fun row values =>
    List.Forall₂ (fun key value => key.Gives context row value) plan.keys values)
      plan.rows plan.values

/-- How the rows in two places compare in a key. -/
def compares (plan : SortPlan) (i j key : Nat) : Ordering :=
  Call.compareAt (plan.keys.map SortKey.descending) (plan.values.getD i [])
    (plan.values.getD j []) key

/-- The first key in which the rows differ puts the first one before the second. -/
def Precedes (plan : SortPlan) (i j : Nat) : Prop :=
  ∃ key < plan.keys.length,
    (∀ earlier < key, plan.compares i j earlier = .eq) ∧ plan.compares i j key = .lt

/-- The rows differ in no key. -/
def Ties (plan : SortPlan) (i j : Nat) : Prop :=
  ∀ key < plan.keys.length, plan.compares i j key = .eq

/-- All times in the sort values are proper. -/
def Proper (plan : SortPlan) : Prop := ∀ values ∈ plan.values, ∀ value ∈ values, value.Proper

end SortPlan

namespace Call
variable {call : Call} {receiver : Datum} {context : Run.Context} {state after : Run.State}

/-- A list of keys is read from a call without looking at the state. -/
theorem outcome_sortKeys {keys : List SortKey} (h : call.Keys keys) :
    call.sortKeys.outcome context state = (.ok keys, state) := by
  obtain ⟨index, given, hindex, hgiven, rfl⟩ := h
  unfold sortKeys
  rw [Run.outcome_bind, Run.outcome_lift, hindex]
  dsimp only
  rw [Run.outcome_bind, Run.outcome_mapM (hgiven.imp fun arg key horders => ?_)]
  · rfl
  · cases horders with
    | plain => simp
    | asc hhead hfirst => simp [hhead, hfirst, firstBelow]
    | desc hhead hfirst => simp [hhead, hfirst, firstBelow]

theorem first_of_outcome {op : Operation} {arg : Argument} {operand : Operand}
    (h : (firstBelow op arg).outcome context state = (.ok operand, after)) :
    state = after ∧ arg.first = some operand := by
  unfold firstBelow at h
  split at h
  · next found hfound =>
    cases h
    exact ⟨rfl, hfound⟩
  · cases h

theorem keys_of_outcome {keys : List SortKey}
    (h : call.sortKeys.outcome context state = (.ok keys, after)) :
    state = after ∧ call.Keys keys := by
  obtain ⟨index, between, hindex, h⟩ := Run.outcome_bind_eq_ok h
  rw [Run.outcome_lift] at hindex
  obtain ⟨hread, rfl⟩ := Prod.mk.inj hindex
  obtain ⟨given, last, hgiven, h⟩ := Run.outcome_bind_eq_ok h
  cases h
  have horders : state = after ∧ List.Forall₂ Argument.Orders call.rest given := by
    refine Run.outcome_mapM_eq_ok (fun _ => rfl) Eq.trans (fun arg key before after h => ?_) hgiven
    split at h
    · next hhead =>
      obtain ⟨operand, between, hfirst, h⟩ := Run.outcome_bind_eq_ok h
      cases h
      exact (first_of_outcome hfirst).imp_right fun hfirst => .asc hhead hfirst
    · next hhead =>
      obtain ⟨operand, between, hfirst, h⟩ := Run.outcome_bind_eq_ok h
      cases h
      exact (first_of_outcome hfirst).imp_right fun hfirst => .desc hhead hfirst
    · next hasc hdesc =>
      cases h
      exact ⟨rfl, .plain hasc hdesc⟩
  exact ⟨horders.1, index, given, hread, horders.2, rfl⟩

theorem mapM_decorate {β : Type} (f : Json → Run β) (rows : List Json) :
    (rows.mapM fun row => do return (← f row, row)) = do return (← rows.mapM f).zip rows := by
  induction rows with
  | nil => simp
  | cons row rest ih => simp only [List.mapM_cons, ih, bind_assoc, pure_bind, List.zip_cons_cons]

/-- A call that gives rows has a plan. -/
theorem plan_of_outcome {result : Datum}
    (h : (call.orderBy receiver).outcome context state = (.ok result, after)) :
    ∃ plan : SortPlan, plan.Of call receiver context state after := by
  obtain ⟨⟨name, rows⟩, between, hrows, h⟩ := Run.outcome_bind_eq_ok h
  obtain ⟨keys, _, hread, h⟩ := Run.outcome_bind_eq_ok h
  obtain ⟨rfl, hkeys⟩ := keys_of_outcome hread
  dsimp only at h
  split at h
  · cases h
  · next hne =>
    rw [mapM_decorate, bind_assoc] at h
    obtain ⟨values, last, hvalues, h⟩ := Run.outcome_bind_eq_ok h
    cases h
    refine ⟨⟨name, rows, keys, values⟩, hkeys, by simpa using hne, ⟨between, hrows, hvalues⟩, ?_⟩
    refine (Run.outcome_mapM_eq_ok (S := fun _ _ => True) (fun _ => trivial)
      (fun _ _ => trivial) (fun row values _ _ h => ⟨trivial, ?_⟩) hvalues).2
    exact (Run.outcome_mapM_eq_ok (S := fun _ _ => True) (fun _ => trivial)
      (fun _ _ => trivial) (fun key value _ _ h => ⟨trivial, .of_outcome h⟩) h).2

/-- A call that has a plan gives the rows of the plan, sorted with their values. -/
theorem outcome_orderBy {plan : SortPlan} (h : plan.Of call receiver context state after) :
    (call.orderBy receiver).outcome context state =
      (.ok (.ofRows plan.name ((Sorting.stable (fun a b =>
        orderBySortValues (plan.keys.map SortKey.descending) a.1 b.1)
          (plan.values.zip plan.rows)).map Prod.snd)), after) := by
  obtain ⟨between, hrows, hvalues⟩ := h.run
  have hsome : plan.keys.isEmpty = false := by simpa using h.keys_ne_nil
  unfold orderBy
  rw [Run.outcome_bind, hrows]
  dsimp only
  rw [Run.outcome_bind, outcome_sortKeys h.keys]
  dsimp only
  rw [hsome, mapM_decorate, bind_assoc]
  show (plan.rows.mapM (sortValues plan.keys) >>= _).outcome context between = _
  rw [Run.outcome_bind, hvalues]
  rfl

end Call

namespace SortPlan
variable {plan : SortPlan} {call : Call} {receiver : Datum} {context : Run.Context}
  {state after : Run.State}

/-- A row with its sort values and its place. -/
def Entry (plan : SortPlan) (entry : (List Json × Json) × Nat) : Prop :=
  plan.values[entry.2]? = some entry.1.1 ∧ plan.rows[entry.2]? = some entry.1.2

theorem entry_of_mem {entry : (List Json × Json) × Nat}
    (h : entry ∈ (plan.values.zip plan.rows).zipIdx) : plan.Entry entry :=
  List.getElem?_zip_eq_some.mp (List.mem_zipIdx_iff_getElem?.mp h)

/-- Each row has a sort value for each key. -/
theorem Of.sortable (h : plan.Of call receiver context state after) (hproper : plan.Proper) :
    ∀ values ∈ plan.values, Call.Sortable (plan.keys.map SortKey.descending) values := by
  intro values hvalues
  obtain ⟨i, hi, rfl⟩ := List.getElem_of_mem hvalues
  refine ⟨?_, hproper _ hvalues⟩
  rw [List.length_map]
  exact ((List.forall₂_iff_get.mp h.gives).2 i (h.gives.length_eq ▸ hi) hi).length_eq.symm

theorem Of.precedes_or_ties (h : plan.Of call receiver context state after)
    (hproper : plan.Proper) {i j : (List Json × Json) × Nat} (hi : plan.Entry i)
    (hj : plan.Entry j)
    (hbefore : Sorting.Before (fun a b : List Json × Json =>
      Call.orderBySortValues (plan.keys.map SortKey.descending) a.1 b.1) i j) :
    plan.Precedes i.2 j.2 ∨ plan.Ties i.2 j.2 ∧ i.2 < j.2 := by
  have hcompares : ∀ key, plan.compares i.2 j.2 key =
      Call.compareAt (plan.keys.map SortKey.descending) i.1.1 j.1.1 key := by
    intro key
    simp [compares, List.getD_eq_getElem?_getD, hi.1, hj.1]
  have hlength : plan.keys.length = (plan.keys.map SortKey.descending).length :=
    (List.length_map _).symm
  have hsi := (h.sortable hproper _ (List.mem_of_getElem? hi.1)).1
  have hsj := (h.sortable hproper _ (List.mem_of_getElem? hj.1)).1
  simp only [Precedes, Ties, hcompares, hlength]
  rcases hbefore with hlt | ⟨heq, hplace⟩
  · exact .inl (Call.compareAt_of_lt hsi hsj hlt)
  · exact .inr ⟨Call.compareAt_of_eq hsi hsj heq, hplace⟩

end SortPlan

/-- A call that orders rows sorts them stably by all of its keys. It gives rows where it has a
plan. These are the rows of the plan in another order of their places, in which one stands
before another if the first key in which they differ puts it first, or if they differ in none
and it stood before. -/
theorem Call.orderBy_sorts (call : Call) (receiver : Datum) (context : Run.Context)
    (state after : Run.State) :
    (∀ result, (call.orderBy receiver).outcome context state = (.ok result, after) →
      ∃ plan : SortPlan, plan.Of call receiver context state after) ∧
    ∀ plan : SortPlan, plan.Of call receiver context state after → plan.Proper →
      ∃ places : List Nat, places.Perm (List.range plan.rows.length) ∧
        (call.orderBy receiver).outcome context state =
          (.ok (.ofRows plan.name (places.filterMap (plan.rows[·]?))), after) ∧
        places.Pairwise fun i j => plan.Precedes i j ∨ plan.Ties i j ∧ i < j := by
  refine ⟨fun result => plan_of_outcome, fun plan hof hproper => ?_⟩
  have hsortable : ∀ entry ∈ plan.values.zip plan.rows, Sortable _ entry.1 :=
    fun entry hmem => hof.sortable hproper entry.1 (List.of_mem_zip hmem).1
  obtain ⟨entries, hperm, hfst, hsorted⟩ :=
    @Sorting.stable_entries_of_mem _ (fun a b => orderBySortValues _ a.1 b.1) _
      (isPreorder_sortable _) _ hsortable
  have hentry : ∀ entry ∈ entries, plan.Entry entry := fun entry hmem =>
    SortPlan.entry_of_mem (hperm.mem_iff.mp hmem)
  refine ⟨entries.map Prod.snd, ?_, ?_, List.pairwise_map.mpr (hsorted.imp_of_mem ?_)⟩
  · have hlength : (plan.values.zip plan.rows).length = plan.rows.length := by
      rw [List.length_zip, ← hof.gives.length_eq, Nat.min_self]
    rw [List.range_eq_range', ← hlength, ← List.zipIdx_map_snd 0 (plan.values.zip plan.rows)]
    exact hperm.map Prod.snd
  · have hrows : (entries.map Prod.snd).filterMap (plan.rows[·]?) =
        (entries.map Prod.fst).map Prod.snd := by
      rw [List.map_map, List.filterMap_map, ← List.filterMap_eq_map]
      exact List.filterMap_congr fun entry hmem => (hentry entry hmem).2
    rw [outcome_orderBy hof, ← hfst, hrows]
  · intro i j hi hj hbefore
    exact hof.precedes_or_ties hproper (hentry i hi) (hentry j hj) hbefore

/-- Four rows are sorted downward by a field that one of them lacks, and then by a function.
Two of them are level, and stay as they were. -/
theorem Call.orderBy_sorts_downward :
    let row := Json.array (Handle.node .var [.ofNat 1])
    let field := Json.array (Handle.node .getField [row, .string "b"])
    let function : Function := ⟨[1], field, [], {}⟩
    let document (a b id : Nat) := Json.object [("a", .ofNat a), ("b", .ofNat b), ("id", .ofNat id)]
    let rows := [document 1 2 7, document 1 0 8, .object [("b", .ofNat 0)], document 1 2 9]
    let handles : List Handle :=
      [.datum (.array rows), .call .desc [.datum (.string "a")] [], .func function]
    let call : Call := ⟨.orderBy, Handle.arguments (Function.apply 1) handles, []⟩
    let context : Run.Context := ⟨⟨0, 0, 0⟩, fun _ => 0⟩
    let state : Run.State := ⟨.empty, 0⟩
    let sorted := [document 1 0 8, document 1 2 7, document 1 2 9, .object [("b", .ofNat 0)]]
    (call.orderBy (.value (.array rows))).outcome context state =
        (.ok (.value (.array sorted)), state) ∧
    ∃ plan : SortPlan, plan.Of call (.value (.array rows)) context state state ∧
      plan.values = [[.ofNat 1, .ofNat 2], [.ofNat 1, .ofNat 0], [.null, .ofNat 0],
        [.ofNat 1, .ofNat 2]] ∧
      ∃ places : List Nat, places.Perm (List.range 4) ∧
        Datum.value (.array sorted) = .ofRows plan.name (places.filterMap (plan.rows[·]?)) ∧
        places.Pairwise fun i j => plan.Precedes i j ∨ plan.Ties i j ∧ i < j := by
  intro row field function document rows handles call context state sorted
  have hrun : (call.orderBy (.value (.array rows))).outcome context state =
      (.ok (.value (.array sorted)), state) := by
    decide +kernel
  let keys : List SortKey := [⟨.ofValue (.string "a"), true⟩,
    ⟨(Handle.argument (Function.apply 1) (.func function)).toOperand, false⟩]
  have hkeys : call.Keys keys :=
    ⟨none, _, rfl, .cons (.desc rfl rfl) (.cons (.plain nofun nofun) .nil), rfl⟩
  obtain ⟨hplan, hsorts⟩ :=
    Call.orderBy_sorts call (.value (.array rows)) context state state
  obtain ⟨plan, hof⟩ := hplan _ hrun
  obtain ⟨between, hrows, hvalues⟩ := hof.run
  obtain ⟨hfound, rfl⟩ := Prod.mk.inj hrows
  obtain ⟨hname, hlist⟩ := Prod.mk.inj (Except.ok.inj hfound)
  rw [hof.keys.unique hkeys, ← hlist] at hvalues
  have hcomputed : ((rows.mapM (Call.sortValues keys)).outcome context state).1 =
      .ok [[.ofNat 1, .ofNat 2], [.ofNat 1, .ofNat 0], [.null, .ofNat 0],
        [.ofNat 1, .ofNat 2]] := by
    decide +kernel
  have hexpected := Except.ok.inj ((congrArg Prod.fst hvalues).symm.trans hcomputed)
  have hproper : plan.Proper := by
    rw [SortPlan.Proper, hexpected]
    simp [Json.Proper, Json.ofNat]
  obtain ⟨places, hperm, hresult, hplaces⟩ := hsorts plan hof hproper
  have hlength : plan.rows.length = 4 := by rw [← hlist]; rfl
  rw [hlength] at hperm
  have hsorted := Except.ok.inj (congrArg Prod.fst (hrun.symm.trans hresult))
  exact ⟨hrun, plan, hof, hexpected, places, hperm, hsorted, hplaces⟩

end DocQuery
