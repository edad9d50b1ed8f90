import DocQuery.Proofs.Decided
import DocQuery.Proofs.Query.Rendered

/-! Chains that pick rows of a table.

Filters, ranges, orderings and stretches pick some of the rows of their receiver and tie them
to the table that it was tied to. So do chains of them, as long as they may be: each
stage is run on what the stage before it has picked, and whatever else its arguments do,
what it picks was stored in the table, and no more often than it was stored (`Selects.picks`). -/
namespace DocQuery

/-! ### Data that are rows of a table -/

/-- The datum is a table of a store, or a selection of its documents: it has these rows. -/
inductive Datum.Picks (name : TableName) (table : Table) : List Json → Datum → Prop
  | table : Picks name table table.documents (.table name)
  | selection {rows : List Json} (h : List.Subperm rows table.documents) :
    Picks name table rows (.selection name rows)

namespace Datum.Picks
open Run
variable {store : Store} {name : TableName} {table : Table} {rows : List Json} {d : Datum}

theorem subperm (h : d.Picks name table rows) : List.Subperm rows table.documents := by
  cases h with
  | table => exact List.Subperm.refl _
  | selection h => exact h

theorem gives_rows (h : d.Picks name table rows) (hfound : store.table? name = some table) :
    Gives store d.rows (some name, rows) := by
  cases h with
  | table => exact Gives.view hfound (Gives.pure _)
  | selection => exact Gives.pure _

theorem gives_materialize (h : d.Picks name table rows) (hfound : store.table? name = some table) :
    Gives store d.materialize (.array rows) := by
  cases h with
  | table => exact Gives.view hfound (Gives.pure _)
  | selection => exact Gives.pure _

theorem gives_targets (h : d.Picks name table rows) (hfound : store.table? name = some table) :
    Gives store d.targets (name, rows.map some) := by
  cases h with
  | table => exact Gives.view hfound (Gives.pure _)
  | selection => exact Gives.pure _

end Datum.Picks

/-! ### Stages -/

theorem Run.Gives.decided {store : Store} {α : Type} {x : Run α} {a : α} {P : α → Prop}
    (hx : Gives store x a) (ha : P a) : (Run.decided store).Holds x P := by
  refine ⟨.ok a, fun context state hstate => ?_, fun b hb => Except.ok.inj hb ▸ ha⟩
  obtain ⟨found, drawn⟩ := state
  obtain rfl : found = store := hstate
  exact hx context drawn

namespace Call
open Run
variable {call : Call}

/-- Operations that pick rows of their receiver. -/
def picks : Operation → Bool
  | .between | .betweenDeprecated | .filter | .orderBy | .skip | .limit | .slice => true
  | _ => false

theorem picks_dispatch {L : Logic} {receiver : Datum} {P : Option TableName × List Json → Prop}
    (hop : picks call.op = true) (ha : L.Arguments call) (hrows : L.Holds receiver.rows P)
    (hname : ∀ name rows, P (some name, rows) → L.Rows name [])
    (hreceiver : ∀ text, receiver ≠ .value (.string text))
    (hn : L.Supplied call call.op.reads := by exact Or.inl trivial) :
    L.Holds (call.dispatch receiver) (Picked P) := by
  obtain ⟨op, args, options⟩ := call
  cases op <;> try cases hop
  · exact picks_between ha hn hrows hname
  · exact picks_between ha hn hrows hname
  · exact picks_filter ha hn hrows
  · exact picks_orderBy ha hrows
  · exact picks_skip ha hn hrows
  · exact picks_limit ha hn hrows
  · exact picks_slice ha hn hrows hreceiver

/-- No stage looks at its arguments before it has run its receiver. -/
theorem perform_of_picks (hop : picks call.op = true) : call.perform = call.method := by
  obtain ⟨op, args, options⟩ := call
  cases op <;> try cases hop
  all_goals rfl

theorem consumption_of_picks {op : Operation} (hop : picks op = true) :
    op.consumption = .fixed ∨ op.consumption = .keyed := by
  cases op <;> first | exact .inl rfl | exact .inr rfl | cases hop

section Stages
variable {store : Store} {name : TableName} {table : Table}

/-- Rows that are picked of rows of a table are rows of the table. -/
theorem decided_dispatch (hop : picks call.op = true) (ha : (decided store).Arguments call)
    (hfound : store.table? name = some table) {receiver : Datum} {rows : List Json}
    (hr : receiver.Picks name table rows) :
    (decided store).Holds (call.dispatch receiver) fun d => ∃ rows, d.Picks name table rows := by
  let Stored (found : Option TableName × List Json) : Prop :=
    found.1 = some name ∧ List.Subperm found.2 table.documents
  have hrows : (decided store).Holds receiver.rows Stored :=
    (hr.gives_rows hfound).decided ⟨rfl, hr.subperm⟩
  refine Logic.mono (picks_dispatch hop ha hrows (fun _ _ _ => trivial) fun text => ?_) ?_
  · cases hr <;> nofun
  · rintro d ⟨⟨name?, stored⟩, kept, ⟨rfl, hstored⟩, rfl, hkept⟩
    exact ⟨kept, .selection (hkept.trans hstored)⟩

/-- A stage runs its receiver, whatever lists are spliced in after it. -/
theorem decided_stage (hop : picks call.op = true) (ha : (decided store).Arguments call)
    {first : Argument} {rest : List Argument} (hargs : call.args = first :: rest)
    (hhead : first.head ≠ some .args) (hfound : store.table? name = some table)
    (hfirst : (decided store).Holds first.run fun d => ∃ rows, d.Picks name table rows) :
    (decided store).Holds call.run fun d => ∃ rows, d.Picks name table rows := by
  refine (decided store).bind (Logic.splice_first ha hargs hhead) ?_
  rintro out ⟨hout, more, heq⟩
  have hop : picks out.op = true := heq ▸ hop
  have hrun : (decided store).Holds (out.arg 0 >>= fun arg => arg.run) fun d =>
      ∃ rows, d.Picks name table rows := by
    rw [heq]
    exact hfirst
  rw [perform_of_picks hop]
  unfold method
  rw [← bind_assoc]
  refine (decided store).bind hrun fun receiver hr => ?_
  obtain ⟨rows, hr⟩ := hr
  have hpicked := decided_dispatch hop hout hfound hr
  cases hr <;> exact hpicked

end Stages

end Call

/-! ### Chains as terms -/

/-- A term is a chain over another one: the term itself, or a stage whose receiver is such a
chain, with other arguments and options of any kind. -/
inductive Selects (source : Json) : Json → Prop
  | source : Selects source source
  | stage {op : Operation} {head receiver : Json} {rest more : List Json}
    (hhead : Operation.ofHead? head = some op) (hop : Call.picks op = true)
    (h : Selects source receiver) :
    Selects source (.array (head :: .array (receiver :: rest) :: more))

/-- The term of a table, which has this name in the store. -/
def Names (settings : Settings) (store : Store) (source : Json) (name : TableName) : Prop :=
  ∃ args options, build settings source = .ok (.call .table args options) ∧
    Run.Gives store ((Handle.call .table args options).argument Function.invoke).run (.table name)

/-- A table that is named in its database, by the term or by the settings. -/
theorem names_of_build {settings : Settings} {store : Store} {source : Json} {name : TableName}
    {options : Fields Json} (h : build settings source = .ok (Handle.ofTable name options))
    {table : Table} (hfound : store.table? name = some table) :
    Names settings store source name :=
  ⟨_, _, h, Handle.gives_ofTable hfound options⟩

/-- A method of a table is run on the table, if none of its arguments is spliced in. -/
theorem Query.run_onTable {settings : Settings} {source : Json} {name : TableName}
    {state : Run.State} (op : Operation) (hrule : op.consumption = .keyed)
    (htakes : op.descriptor.takesOptions = true)
    (hmethod : ∀ args options, Call.perform ⟨op, args, options⟩ = Call.method ⟨op, args, options⟩)
    (hsource : Names settings state.store source name) {terms : List Json} {handles : List Handle}
    (hcount : op.descriptor.accepts (terms.length + 1) = true)
    (hterms : Evaluation.evaluateAll (terms.map (evaluate settings)) Scope.root = .ok handles)
    (hheads : ∀ handle ∈ handles, (handle.argument Function.invoke).head ≠ some .args)
    (options? : Option (Fields Json)) {d : Datum} {result : Json}
    (hdispatch : ∀ first : Argument, Run.Gives state.store (Call.dispatch
      ⟨op, first :: Handle.arguments Function.invoke handles, options?.getD []⟩ (.table name)) d)
    (hresult : Run.Gives state.store d.materialize result) (context : Run.Context) :
    run ⟨methodTerm op source terms options?, settings⟩ context state = (.ok result, state) := by
  obtain ⟨args, sourceOptions, hbuilt, hgives⟩ := hsource
  let first := Handle.argument Function.invoke (.call .table args sourceOptions)
  let call : Call :=
    ⟨op, first :: Handle.arguments Function.invoke handles, options?.getD []⟩
  have hplain : ∀ arg ∈ call.args, arg.head ≠ some .args :=
    List.forall_mem_cons.mpr ⟨nofun, Handle.heads_arguments hheads⟩
  have hrun : Run.Gives state.store call.run d := by
    rw [Call.run_eq_perform hplain, hmethod]
    exact hgives.bind (hdispatch first)
  rw [run_of_build (build_methodTerm hrule htakes hcount hbuilt hterms options?),
    Handle.run_eq_invoke]
  exact (hrun.bind hresult) context state.drawn

section Evaluation
open Evaluation
variable {settings : Settings} {op : Operation} {head receiver : Json} {rest more : List Json}

/-- Evaluation looks into the receiver of a stage. -/
theorem mem_subterms_stage (hhead : Operation.ofHead? head = some op)
    (hop : Call.picks op = true) :
    receiver ∈ subterms (head :: .array (receiver :: rest) :: more) := by
  unfold subterms
  rw [List.head?_cons, Option.bind_some, hhead]
  cases op <;> first | exact List.mem_cons_self | cases hop

/-- A method is composed of the handle of its receiver and those of its other arguments. -/
theorem method_eq_ok {options : Fields Json} {scope : Scope} {handle : Handle}
    (h : method op ((receiver :: rest).map (evaluate settings)) options scope = .ok handle) :
    ∃ first others, evaluate settings receiver scope = .ok first ∧
      handle = .call op (first :: others) options := by
  obtain ⟨handles, hall, h⟩ := bind_eq_ok h
  rw [List.map_cons, evaluateAll_cons] at hall
  obtain ⟨first, hfirst, hall⟩ := bind_eq_ok hall
  obtain ⟨others, -, hall⟩ := bind_eq_ok hall
  cases hall
  cases h
  exact ⟨first, others, hfirst, rfl⟩

/-- A stage is evaluated to a call whose first argument is its receiver. -/
theorem evaluate_stage (hhead : Operation.ofHead? head = some op) (hop : Call.picks op = true)
    {scope : Scope} {handle : Handle}
    (h : evaluate settings (.array (head :: .array (receiver :: rest) :: more)) scope = .ok handle) :
    ∃ first others options, evaluate settings receiver scope = .ok first ∧
      handle = .call op (first :: others) options := by
  rw [evaluate_array, assemble_eq] at h
  obtain ⟨operator, hoperator, h⟩ := bind_eq_ok h
  obtain ⟨-, -, h⟩ := bind_eq_ok h
  obtain rfl : op = operator.operation :=
    Option.some.inj (hhead.symm.trans (ofItems_eq_ok hoperator).1)
  unfold consume at h
  rcases Call.consumption_of_picks hop with hrule | hrule
  · rw [hrule] at h
    obtain ⟨first, others, hmethod⟩ := method_eq_ok h
    exact ⟨first, others, [], hmethod⟩
  · rw [hrule] at h
    obtain ⟨first, others, hmethod⟩ := method_eq_ok h
    exact ⟨first, others, operator.options, hmethod⟩

end Evaluation

/-- What a chain over a table comes to in a store is rows of this table. The induction is on
the chain; every stage is sound, since it asks for nothing that the store does not decide. -/
theorem Selects.picks {settings : Settings} {store : Store} {source chain : Json}
    {name : TableName} {table : Table} (h : Selects source chain)
    (hsource : Names settings store source name) (hfound : store.table? name = some table)
    (havoid : Avoids Operation.undecided chain) {handle : Handle}
    (hbuild : build settings chain = .ok handle) :
    (handle.argument Function.invoke).head ≠ some .args ∧
      (Run.decided store).Holds (handle.argument Function.invoke).run fun d =>
        ∃ rows, d.Picks name table rows := by
  induction h generalizing handle with
  | source =>
    obtain ⟨args, options, hterm, hgives⟩ := hsource
    cases hterm.symm.trans hbuild
    exact ⟨nofun, hgives.decided ⟨_, .table⟩⟩
  | @stage op head receiver rest more hhead hop _ ih =>
    have hs := Policy.decided_sound store
    have hallowed : (Policy.avoiding Operation.undecided).Allows handle :=
      (Policy.avoiding_admits rfl settings).build_means havoid hbuild
    have hreceiver : Avoids Operation.undecided receiver :=
      havoid.subterm receiver (mem_subterms_stage hhead hop)
    obtain ⟨first, others, options, hfirst, rfl⟩ := evaluate_stage hhead hop hbuild
    obtain ⟨hhead', hpicks⟩ := ih hreceiver hfirst
    refine ⟨fun hargs => ?_, ?_⟩
    · cases hargs
      cases hop
    · let call : Call := ⟨op, Handle.arguments Function.invoke (first :: others), options⟩
      have ha : (Run.decided store).Arguments call :=
        hs.arguments (fun f hf => hs.apply _ f hf trivial) (first :: others) hallowed.2
      have hop : Call.picks call.op = true := hop
      exact Call.decided_stage hop ha rfl hhead' hfound hpicks

end DocQuery
