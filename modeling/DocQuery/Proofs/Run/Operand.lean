import DocQuery.Proofs.Run.Logic
import DocQuery.Proofs.Value.Fault

/-! Operands and arguments in a logic.

An operand is sound in a logic if its run is, and every call of it, should it be a
function. An argument is sound if it is so as an operand and the operand below it is as
well. What a call reads of sound arguments is sound, and so is the call in which lists
are spliced in.

Where a logic does not let calls lack arguments, a call has to be known to have as many as
its operation reads (`Operation.reads`, `Logic.Supplied`), and no argument may be a list that
is spliced in, as that changes how many there are. -/
namespace DocQuery

/-- How many arguments an operation reads by their position, its receiver included. -/
def Operation.reads : Operation → Nat
  | .between | .betweenDeprecated | .fold | .insertAt | .changeAt | .spliceAt | .during => 3
  | .table | .get | .filter | .skip | .limit | .slice | .nth | .map | .concatMap | .offsetsOf
  | .sample | .forEach | .reduce | .bracket | .getField | .append | .prepend | .difference
  | .setInsert | .setIntersection | .setUnion | .setDifference | .deleteAt | .insert | .update
  | .replace | .inTimezone | .matchText | .coerceTo | .default => 2
  | .now | .time | .monday | .tuesday | .wednesday | .thursday | .friday | .saturday | .sunday
  | .january | .february | .march | .april | .may | .june | .july | .august | .september
  | .october | .november | .december | .minVal | .maxVal | .literal | .object | .range | .random
  | .uuid | .error | .and | .or | .http => 0
  | _ => 1

/-! ### Options -/

@[simp] theorem operational_indexField (index : Json) : Operational (indexField index) := by
  unfold indexField
  split
  · exact .ok _
  · split
    · exact .ok _
    · exact .ok _
    · exact FailsOnly.error_iff.mpr trivial
  · exact FailsOnly.error_iff.mpr trivial

namespace Call
variable (call : Call)

@[simp] theorem operational_index? : Operational call.index? := by
  unfold index?
  split
  · exact .bind (operational_indexField _) fun _ => .ok _
  · exact .ok _

theorem operational_isClosed (name default : String) :
    Operational (call.isClosed name default) := by
  unfold isClosed
  dsimp only
  split
  · refine .bind (Json.operational_asString _) fun bound => ?_
    split
    · exact .ok _
    · exact .ok _
    · exact FailsOnly.throw_iff.mpr trivial
  · refine .bind (.ok default) fun bound => ?_
    split
    · exact .ok _
    · exact .ok _
    · exact FailsOnly.throw_iff.mpr trivial

@[simp] theorem operational_leftClosed : Operational call.leftClosed :=
  call.operational_isClosed _ _

@[simp] theorem operational_rightClosed : Operational call.rightClosed :=
  call.operational_isClosed _ _

end Call

namespace Run.Logic
variable {L : Logic}

/-! ### Operands -/

/-- Running and calling an operand keeps to the rules. -/
structure Operand (L : Logic) (operand : DocQuery.Operand) : Prop where
  run : L.Holds operand.run L.Datum
  call : ∀ f, operand.call? = some f → ∀ args, L.Runs (f args)

theorem operand_ofValue (v : Json) : L.Operand (.ofValue v) :=
  ⟨L.pure trivial, fun f hf => by cases hf⟩

namespace Operand
variable {operand : DocQuery.Operand}

theorem value (h : L.Operand operand) : L.Runs operand.value :=
  L.bind h.run fun _ hd => materialize hd

theorem string (h : L.Operand operand) : L.Runs operand.string :=
  L.bind h.value fun v _ => runs_lift v.operational_asString

theorem integer (h : L.Operand operand) : L.Runs operand.integer :=
  L.bind h.value fun v _ => runs_lift v.operational_asInteger

theorem apply (h : L.Operand operand) (args : List Json) : L.Runs (operand.apply args) := by
  unfold DocQuery.Operand.apply
  split
  · next f hf => exact h.call f hf args
  · exact h.value

theorem select (h : L.Operand operand) (row : Json) : L.Runs (operand.select row) := by
  unfold DocQuery.Operand.select
  split
  · next f hf => exact h.call f hf [row]
  · refine L.bind h.value fun v _ => ?_
    split
    · exact runs_lift (by simp)
    · exact L.throw _ trivial

theorem test (h : L.Operand operand) (row : Json) : L.Runs (operand.test row) := by
  unfold DocQuery.Operand.test
  split
  · next f hf => exact L.bind (h.call f hf [row]) fun v _ => L.pure trivial
  · refine L.bind h.value fun v _ => ?_
    split <;> exact L.pure trivial

end Operand

/-! ### Arguments -/

/-- An argument is sound, and so is the operand below it. If calls may lack nothing, it is
there where an operation reads it. -/
structure Argument (L : Logic) (arg : DocQuery.Argument) : Prop extends
    L.Operand arg.toOperand where
  first : ∀ operand, arg.first = some operand → L.Operand operand
  supplied : L.Lacks ∨ ∀ op, arg.head = some op →
    op ≠ .args ∧ (0 < op.reads → arg.first.isSome = true)

theorem argument_ofOperand {operand : DocQuery.Operand} (h : L.Operand operand) :
    L.Argument (.ofOperand operand) :=
  ⟨h, nofun, .inr nofun⟩

theorem argument_ofValue (v : Json) : L.Argument (.ofValue v) :=
  argument_ofOperand (operand_ofValue v)

theorem values {args : List DocQuery.Argument} (h : ∀ arg ∈ args, L.Argument arg) :
    L.Runs (values args) :=
  runs_mapM fun arg harg => (h arg harg).value

/-! ### Calls -/

/-- All arguments of a call are sound. -/
def Arguments (L : Logic) (call : DocQuery.Call) : Prop := ∀ arg ∈ call.args, L.Argument arg

/-- A call has so many arguments, unless calls may lack some. -/
def Supplied (L : Logic) (call : DocQuery.Call) (count : Nat) : Prop :=
  L.Lacks ∨ count ≤ call.args.length

namespace Supplied
variable {call : DocQuery.Call} {count : Nat}

theorem mono (h : L.Supplied call count) {fewer : Nat} (hfewer : fewer ≤ count) :
    L.Supplied call fewer :=
  h.imp_right (Nat.le_trans hfewer)

/-- An operation reads what its calls are supplied with. -/
theorem of_op (h : L.Supplied call call.op.reads) {op : Operation} (hop : call.op = op) :
    L.Supplied call op.reads :=
  hop ▸ h

end Supplied

namespace Arguments
variable {call : DocQuery.Call}

theorem rest (h : L.Arguments call) : ∀ arg ∈ call.rest, L.Argument arg :=
  fun arg harg => h arg (List.mem_of_mem_drop harg)

theorem getElem? (h : L.Arguments call) {index : Nat} {arg : DocQuery.Argument}
    (harg : call.args[index]? = some arg) : L.Argument arg :=
  h arg (List.mem_of_getElem? harg)

/-- An argument is read by its position, where the call has so many. -/
theorem arg (h : L.Arguments call) (index : Nat)
    (hn : L.Supplied call (index + 1) := by exact Or.inl trivial) :
    L.Holds (call.arg index) L.Argument := by
  unfold Call.arg
  split
  · next arg harg => exact L.pure (h.getElem? harg)
  · next hnone =>
    rcases hn with hlacks | hn
    · exact Logic.lack hlacks _ trivial
    · rw [List.getElem?_eq_none_iff] at hnone
      omega

theorem value (h : L.Arguments call) (index : Nat) (hn : L.Supplied call (index + 1)) {β : Type}
    {Q : β → Prop} {k : Json → Run β} (hk : ∀ v, L.Holds (k v) Q) :
    L.Holds (call.arg index >>= fun arg => arg.value >>= k) Q :=
  L.bind (h.arg index hn) fun _ harg => L.bind harg.value fun v _ => hk v

theorem integer (h : L.Arguments call) (index : Nat) (hn : L.Supplied call (index + 1))
    {β : Type} {Q : β → Prop} {k : Int → Run β} (hk : ∀ n, L.Holds (k n) Q) :
    L.Holds (call.arg index >>= fun arg => arg.integer >>= k) Q :=
  L.bind (h.arg index hn) fun _ harg => L.bind harg.integer fun n _ => hk n

theorem string (h : L.Arguments call) (index : Nat) (hn : L.Supplied call (index + 1)) {β : Type}
    {Q : β → Prop} {k : String → Run β} (hk : ∀ s, L.Holds (k s) Q) :
    L.Holds (call.arg index >>= fun arg => arg.string >>= k) Q :=
  L.bind (h.arg index hn) fun _ harg => L.bind harg.string fun s _ => hk s

end Arguments

/-- The operand below a call is there, if its operation reads one. -/
theorem firstBelow {arg : DocQuery.Argument} (h : L.Argument arg) {op : Operation}
    (hhead : arg.head = some op) (hreads : 0 < op.reads) :
    L.Holds (Call.firstBelow op arg) L.Operand := by
  unfold Call.firstBelow
  split
  · next operand ho => exact L.pure (h.first operand ho)
  · next hnone =>
    rcases h.supplied with hlacks | hsupplied
    · exact Logic.lack hlacks _ trivial
    · have hsome := (hsupplied op hhead).2 hreads
      rw [hnone] at hsome
      cases hsome

/-! ### Spliced lists -/

theorem spliced {arg : DocQuery.Argument} (h : L.Argument arg) :
    L.Holds (Call.spliced arg) fun args => ∀ arg ∈ args, L.Argument arg := by
  unfold Call.spliced
  split
  · next hhead =>
    refine L.bind (firstBelow h hhead Nat.one_pos) fun operand ho => ?_
    refine L.bind ho.value fun list _ => ?_
    refine L.bind (runs_lift list.operational_asArray) fun items _ => ?_
    refine L.pure fun arg harg => ?_
    obtain ⟨v, -, rfl⟩ := List.mem_map.mp harg
    exact argument_ofValue v
  · refine L.pure fun a ha => ?_
    rw [List.mem_singleton.mp ha]
    exact h

/-- Splicing changes the arguments of a call and nothing else. A call that may not lack any
is left as it is. -/
theorem splice {call : DocQuery.Call} (h : L.Arguments call) :
    L.Holds call.splice fun out =>
      L.Arguments out ∧ out.op = call.op ∧ out.options = call.options ∧
        (L.Lacks ∨ out = call) := by
  unfold Call.splice
  split
  · next hany =>
    refine L.bind (mapM fun arg harg => spliced (h arg harg)) fun lists hlists => L.pure ?_
    refine ⟨fun arg harg => ?_, rfl, rfl, ?_⟩
    · obtain ⟨list, hlist, harg⟩ := List.mem_flatten.mp harg
      exact hlists list hlist arg harg
    · obtain ⟨arg, harg, hhead⟩ := List.any_eq_true.mp hany
      refine (h arg harg).supplied.imp_right fun hsupplied => ?_
      exact absurd rfl (hsupplied .args (of_decide_eq_true hhead)).1
  · exact L.pure ⟨h, rfl, rfl, .inr rfl⟩

/-- An argument that is no list to be spliced in stays the first one. -/
theorem splice_first {call : DocQuery.Call} (h : L.Arguments call) {first : DocQuery.Argument}
    {rest : List DocQuery.Argument} (hargs : call.args = first :: rest)
    (hfirst : first.head ≠ some .args) :
    L.Holds call.splice fun out =>
      L.Arguments out ∧ ∃ more, out = { call with args := first :: more } := by
  have hspliced : Call.spliced first = Pure.pure [first] := if_neg hfirst
  unfold Call.splice
  split
  · rw [hargs, List.mapM_cons, hspliced, pure_bind]
    simp only [bind_assoc, pure_bind]
    refine L.bind (mapM fun arg harg => spliced (h arg (hargs ▸ List.mem_cons_of_mem first harg)))
      fun lists hlists => L.pure ⟨fun arg harg => ?_, lists.flatten, rfl⟩
    rcases List.mem_cons.mp harg with rfl | harg
    · exact h arg (hargs ▸ List.mem_cons_self)
    · obtain ⟨list, hlist, harg⟩ := List.mem_flatten.mp harg
      exact hlists list hlist arg harg
  · exact L.pure ⟨h, rest, by rw [← hargs]⟩

end Run.Logic

end DocQuery
