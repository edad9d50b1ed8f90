import DocQuery.Proofs.Query.Avoids
import DocQuery.Proofs.Query.Checked

/-! Calls have their arguments.

The number of arguments is compared with the bounds of the table once, where a node is
evaluated. Operations then read their arguments by position and do not look again how many
there are. Unless a list is spliced in, that is enough: everything that a query runs is a part
of its handle, or of a handle that one of its functions comes to (`Handle.Reaches`), and in
all of these a call has at least the arguments that its operation reads. So no run of any of
them fails for lack of an argument. As this is said of every such handle by itself, it holds
of what is run where faults are caught, too. -/
namespace DocQuery

/-! ### What is run -/

namespace Handle

/-- The handles that a run of one may run: its parts, and what the functions among them come
to when they are called. -/
inductive Reaches (start : Handle) : Handle → Prop
  | start : Reaches start start
  | item {items : List Handle} {item : Handle} (h : Reaches start (.array items))
    (hitem : item ∈ items) : Reaches start item
  | field {fields : List (String × Handle)} {field : String × Handle}
    (h : Reaches start (.object fields)) (hfield : field ∈ fields) : Reaches start field.2
  | arg {op : Operation} {args : List Handle} {options : Fields Json} {arg : Handle}
    (h : Reaches start (.call op args options)) (harg : arg ∈ args) : Reaches start arg
  | body {f : Function} {args : List Json} {handle : Handle} (h : Reaches start (.func f))
    (hcall : f.call args = .ok handle) : Reaches start handle

end Handle

namespace Policy
variable {p : Policy} {L : Run.Logic}

/-- What an allowed handle may run is allowed. -/
theorem Sound.reaches (hs : p.Sound L) {start part : Handle} (hstart : p.Allows start)
    (h : start.Reaches part) : p.Allows part := by
  induction h with
  | start => exact hstart
  | item _ hitem ih => exact allowsAll_iff.mp ih.2 _ hitem
  | field _ hfield ih => exact allowsFields_iff.mp ih _ hfield
  | arg _ harg ih => exact allowsAll_iff.mp ih.2 _ harg
  | body _ hcall ih => exact hs.body _ _ _ ih hcall

/-! ### Calls that lack nothing -/

/-- No list is spliced in, and calls have as many arguments as evaluation gives them. -/
def supplied : Policy where
  Calls op args := op ≠ .args ∧ op.Takes args.length
  Functions f := Avoids (· == .args) f.body

theorem supplied_admits (settings : Settings) :
    supplied.Admits settings (Avoids (· == .args)) where
  below _ h := h.subterm
  call items operator args h hop _ htakes := by
    cases h with
    | literal h => exact absurd rfl (h items)
    | node head below => exact ⟨by simpa using head _ (ofItems_eq_ok hop).1, htakes⟩
  database := ⟨nofun, .db rfl⟩
  unpinned _ _ htakes := ⟨nofun, htakes⟩
  function _ _ body _ h hbody _ _ := h.subterm body hbody

end Policy

theorem Fault.Formal.not_lacking {fault : Fault} (h : fault.Formal) : ¬ fault.Lacking := by
  intro hlacking
  unfold Fault.Formal at h
  rw [hlacking.kind] at h
  exact h

theorem Fault.OfCheck.not_lacking {fault : Fault} (h : fault.OfCheck) : ¬ fault.Lacking := by
  intro hlacking
  cases fault <;> first | (cases h; done) | cases hlacking

/-- Whatever is evaluated, it does not fail for lack of an argument. -/
theorem supplied_evaluates : Evaluates (fun fault => ¬ fault.Lacking) fun _ => True where
  formal _ := Fault.Formal.not_lacking
  below _ _ _ _ := trivial
  known items _ := (fails_ofItems items).mono fun _ => Fault.OfCheck.not_lacking
  legal _ _ _ _ _ := nofun
  body _ _ _ _ _ term _ := (fails_check term).mono fun _ => Fault.OfCheck.not_lacking

/-! ### Runs -/

namespace Handle

/-- An allowed argument is no list to be spliced in. -/
theorem head_of_supplied (call : Function → List Json → Run Json) {args : List Handle}
    (h : Policy.supplied.AllowsAll args) : ∀ arg ∈ arguments call args, arg.head ≠ some .args := by
  induction args with
  | nil => exact nofun
  | cons handle rest ih =>
    refine List.forall_mem_cons.mpr ⟨fun hhead => ?_, ih h.2⟩
    cases handle with
    | call op args options =>
      cases hhead
      exact h.1.1.1 rfl
    | _ => cases hhead

end Handle

/-- Runs fail otherwise than for lack of an argument. -/
def Run.supplied : Run.Logic :=
  Run.failing (fun fault => ¬ fault.Lacking) fun _ => Fault.Operational.not_lacking

theorem Policy.supplied_sound : supplied.Sound Run.supplied where
  supplied := .inr fun op args h => ⟨h.1, h.2.reads_le⟩
  run call op args options h hargs := by
    refine Run.failing_run hargs (.inr ?_)
    rw [Handle.arguments_eq_map, List.length_map]
    exact h.2.reads_le
  body f args handle hf h := Admits.call_means f (supplied_admits f.settings) hf h
  fails f args _ := supplied_evaluates.fails_call f args trivial

namespace Query

/-- If no list is spliced in anywhere in the term of a query that is built, every call that
is run has the arguments that evaluation counted, at least as many as its operation reads,
and nothing that is run fails for lack of an argument, in whatever state it is run. -/
theorem run_supplied {query : Query} (h : query.term.lacks [154] = true) {handle : Handle}
    (hbuild : query.build = .ok handle) {part : Handle} (hpart : handle.Reaches part) :
    (∀ op args options, part = .call op args options →
      op.Takes args.length ∧ op.reads ≤ args.length ∧
        ∀ call, Call.splice ⟨op, Handle.arguments call args, options⟩ =
          pure ⟨op, Handle.arguments call args, options⟩) ∧
    ∀ context state, FailsOnly (fun fault => ¬ fault.Lacking) (part.run.outcome context state).1 := by
  have havoids : Avoids (· == .args) query.term :=
    .of_lacks (fun op hop => by rw [eq_of_beq hop]; decide) _ h
  have hallowed : Policy.supplied.Allows part :=
    Policy.supplied_sound.reaches
      ((Policy.supplied_admits query.settings).build_means havoids hbuild) hpart
  refine ⟨?_, fun context state fault hfault => ?_⟩
  · rintro op args options rfl
    obtain ⟨⟨-, htakes⟩, hargs⟩ := hallowed
    exact ⟨htakes, htakes.reads_le, fun call => Call.splice_eq (Handle.head_of_supplied call hargs)⟩
  · have hrun := Policy.supplied_sound.handle hallowed nofun context state
    rw [hfault] at hrun
    exact hrun

/-- An update with a function that chooses by a field of the row. -/
theorem run_supplied_update :
    let row := Json.array (Handle.node .var [.ofNat 1])
    let id := Json.array (Handle.node .bracket [row, .string "id"])
    let isFirst := Json.array (Handle.node .eq [id, .ofNat 1])
    let body := Json.array (Handle.node .branch [isFirst, .object [], .null])
    let params := Json.array (Handle.node .makeArray [.ofNat 1])
    let function := Json.array (Handle.node .func [params, body])
    let source := Json.array (Handle.node .table [.string "t"])
    let query : Query := ⟨.array (Handle.node .update [source, function]), {}⟩
    query.term.lacks [154] = true ∧ ∃ handle, query.build = .ok handle ∧
      ∀ part, handle.Reaches part → ∀ context state,
        FailsOnly (fun fault => ¬ fault.Lacking) (part.run.outcome context state).1 := by
  intro row id isFirst body params function source query
  have hlacks : query.term.lacks [154] = true := by decide +kernel
  have hbuilds : query.build.isOk = true := by decide +kernel
  cases hbuild : query.build with
  | error fault =>
    rw [hbuild] at hbuilds
    cases hbuilds
  | ok handle =>
    exact ⟨hlacks, handle, rfl, fun part hpart => (run_supplied hlacks hbuild hpart).2⟩

end Query

end DocQuery
