import DocQuery.Proofs.Json.Fields
import DocQuery.Run.Write

/-! Adding up summaries.

The summary of one effect, absorbed into that of the effects before it, records this effect.
What is written as an object is read back the same, so the results of writes that were run
one after another add up to the summary of all their effects. -/
namespace DocQuery

namespace Summary

/-! ### Reading back -/

/-- The counters are integers of 64 bits, as those that are read back are. -/
structure Bounded (s : Summary) : Prop where
  deleted : s.deleted < 2 ^ 64
  errors : s.errors < 2 ^ 64
  inserted : s.inserted < 2 ^ 64
  replaced : s.replaced < 2 ^ 64
  skipped : s.skipped < 2 ^ 64
  unchanged : s.unchanged < 2 ^ 64

/-- The field of a name in the object of a summary. -/
def part? (s : Summary) (name : String) : Option Json := s.toJson.field? name

variable (s : Summary)

theorem part?_eq (name : String) :
    s.part? name =
      ((((if name = "changes" then s.changes.map .array else none).or
        (if name = "deleted" then some (.ofNat s.deleted)
          else if name = "errors" then some (.ofNat s.errors) else none)).or
        (if name = "first_error" then s.firstError.map .string else none)).or
        (if name = "generated_keys" ∧ s.generatedKeys ≠ [] then
          some (.array (s.generatedKeys.map .string)) else none)).or
        (if name = "inserted" then some (.ofNat s.inserted)
          else if name = "replaced" then some (.ofNat s.replaced)
          else if name = "skipped" then some (.ofNat s.skipped)
          else if name = "unchanged" then some (.ofNat s.unchanged) else none) := by
  have hkeys : Fields.get? (if s.generatedKeys.isEmpty then []
      else [("generated_keys", Json.array (s.generatedKeys.map .string))]) name =
      if name = "generated_keys" ∧ s.generatedKeys ≠ [] then
        some (.array (s.generatedKeys.map .string)) else none := by
    cases s.generatedKeys with
    | nil => simp [Fields.get?]
    | cons key rest =>
      rw [List.isEmpty_cons, if_neg Bool.false_ne_true, Fields.get?_cons]
      simp [Fields.get?]
  unfold part? Json.field? toJson
  simp only [Fields.get?_append, Fields.get?_toList, hkeys, Fields.get?_cons]
  rfl

theorem part?_counters :
    s.part? "deleted" = some (.ofNat s.deleted) ∧ s.part? "errors" = some (.ofNat s.errors) ∧
      s.part? "inserted" = some (.ofNat s.inserted) ∧
      s.part? "replaced" = some (.ofNat s.replaced) ∧
      s.part? "skipped" = some (.ofNat s.skipped) ∧
      s.part? "unchanged" = some (.ofNat s.unchanged) := by
  simp [part?_eq]

theorem part?_firstError : s.part? "first_error" = s.firstError.map .string := by simp [part?_eq]

theorem part?_changes : s.part? "changes" = s.changes.map .array := by simp [part?_eq]

theorem readPart?_firstError :
    readPart? readText? none (s.firstError.map .string) = some s.firstError := by
  cases s.firstError <;> rfl

theorem readPart?_changes :
    readPart? readChanges? none (s.changes.map .array) = some s.changes := by
  cases s.changes <;> rfl

theorem readKeys?_strings (keys : List String) :
    readKeys? (.array (keys.map .string)) = some keys := by
  show (keys.map Json.string).mapM Json.string? = some keys
  induction keys with
  | nil => rfl
  | cons key rest ih =>
    rw [List.map_cons, List.mapM_cons, ih]
    rfl

theorem readPart?_generatedKeys :
    readPart? readKeys? [] (s.part? "generated_keys") = some s.generatedKeys := by
  rw [part?_eq]
  cases hkeys : s.generatedKeys with
  | nil => rfl
  | cons key rest =>
    simp only [reduceCtorEq, ne_eq, not_false_eq_true, and_true]
    exact readKeys?_strings (key :: rest)

theorem readPart?_count {s : Summary} {name : String} {n : Nat}
    (hpart : s.part? name = some (.ofNat n)) (hn : n < 2 ^ 64) :
    readPart? Json.natural? 0 (s.part? name) = some n := by
  simp only [hpart, readPart?, Json.natural?_ofNat hn]

/-- A summary is read back from its object as it was. -/
theorem ofJson?_toJson {s : Summary} (h : s.Bounded) : ofJson? s.toJson = some s := by
  obtain ⟨hdeleted, herrors, hinserted, hreplaced, hskipped, hunchanged⟩ := s.part?_counters
  show ofParts? s.part? = some s
  unfold ofParts?
  simp only [readPart?_count hdeleted h.deleted, readPart?_count herrors h.errors,
    readPart?_count hinserted h.inserted, readPart?_count hreplaced h.replaced,
    readPart?_count hskipped h.skipped, readPart?_count hunchanged h.unchanged, part?_firstError,
    readPart?_firstError, readPart?_generatedKeys, part?_changes, readPart?_changes,
    Option.pure_def, Option.bind_eq_bind, Option.bind_some]

/-- Summaries that are written alike are the same. -/
theorem toJson_injective {s t : Summary} (h : s.toJson = t.toJson) : s = t := by
  have hpart (name : String) : s.part? name = t.part? name := by rw [part?, h, part?]
  have hcount {name : String} {m n : Nat} (hs : s.part? name = some (.ofNat m))
      (ht : t.part? name = some (.ofNat n)) : m = n :=
    Json.ofNat_inj.mp (Option.some.inj (hs.symm.trans ((hpart name).trans ht)))
  obtain ⟨hdeleted, herrors, hinserted, hreplaced, hskipped, hunchanged⟩ := s.part?_counters
  obtain ⟨hdeleted', herrors', hinserted', hreplaced', hskipped', hunchanged'⟩ := t.part?_counters
  have hfirst : s.firstError = t.firstError := by
    have hsame := s.readPart?_firstError
    rw [← part?_firstError, hpart, part?_firstError, readPart?_firstError] at hsame
    exact (Option.some.inj hsame).symm
  have hkeys : s.generatedKeys = t.generatedKeys := by
    have hsame := s.readPart?_generatedKeys
    rw [hpart, readPart?_generatedKeys] at hsame
    exact (Option.some.inj hsame).symm
  have hchanges : s.changes = t.changes := by
    have hsame := s.readPart?_changes
    rw [← part?_changes, hpart, part?_changes, readPart?_changes] at hsame
    exact (Option.some.inj hsame).symm
  calc s = ⟨s.deleted, s.errors, s.inserted, s.replaced, s.skipped, s.unchanged, s.firstError,
        s.generatedKeys, s.changes⟩ := rfl
    _ = t := by
      rw [hcount hdeleted hdeleted', hcount herrors herrors', hcount hinserted hinserted',
        hcount hreplaced hreplaced', hcount hskipped hskipped', hcount hunchanged hunchanged',
        hfirst, hkeys, hchanges]

/-! ### Absorbing -/

@[simp] theorem empty_absorb (s : Summary) : ({} : Summary).absorb s = s := by
  obtain ⟨deleted, errors, inserted, replaced, skipped, unchanged, firstError, generatedKeys,
    changes⟩ := s
  cases changes <;> simp [absorb, joinChanges]

@[simp] theorem absorb_empty (s : Summary) : s.absorb {} = s := by
  obtain ⟨deleted, errors, inserted, replaced, skipped, unchanged, firstError, generatedKeys,
    changes⟩ := s
  cases firstError <;> simp [absorb, joinChanges]

theorem joinChanges_assoc (a b c : Option (List Json)) :
    joinChanges (joinChanges a b) c = joinChanges a (joinChanges b c) := by
  cases b <;> cases c <;> simp [joinChanges]

theorem absorb_assoc (s t u : Summary) : (s.absorb t).absorb u = s.absorb (t.absorb u) := by
  simp only [absorb, Nat.add_assoc, List.append_assoc, joinChanges_assoc]
  cases s.firstError <;> rfl

/-- A summary of one effect is absorbed as the effect is recorded, if both summaries keep a
log or neither does. -/
theorem absorb_summarize {s : Summary} {logged : Bool} (h : s.changes.isSome = logged)
    (e : Effect) : s.absorb (Call.summarize logged [e]) = s.record e := by
  obtain ⟨deleted, errors, inserted, replaced, skipped, unchanged, firstError, generatedKeys,
    changes⟩ := s
  dsimp only at h
  subst h
  cases changes <;> cases e <;>
    simp [Call.summarize, start, record, log, fail, absorb, joinChanges]

@[simp] theorem isSome_changes_record (s : Summary) (e : Effect) :
    (s.record e).changes.isSome = s.changes.isSome := by
  cases e <;> simp [record, log, fail]

@[simp] theorem isSome_changes_start (logged : Bool) : (start logged).changes.isSome = logged := by
  cases logged <;> rfl

theorem bounded_single (logged : Bool) (e : Effect) : (Call.summarize logged [e]).Bounded := by
  cases e <;> constructor <;> simp [Call.summarize, start, record, log, fail]

end Summary

namespace Call

/-- The summary that one of the results is read as. -/
def resultSummary (result : Json) : Except Fault Summary :=
  if result.isObject then
    match Summary.ofJson? result with
    | some summary => .ok summary
    | none => .error .unreadableJson
  else .error (.notWriteResult result.kind)

/-- Results are read and absorbed one by one. -/
theorem addSummaries_cons_eq (total : Summary) (result : Json) (rest : List Json) :
    addSummaries total (result :: rest) =
      resultSummary result >>= fun summary => addSummaries (total.absorb summary) rest := by
  unfold addSummaries resultSummary
  rw [List.foldlM_cons]
  by_cases hobject : result.isObject = true
  · simp only [hobject, if_true]
    cases Summary.ofJson? result <;> rfl
  · simp only [hobject]
    rfl

theorem addSummaries_cons {s total : Summary} (hs : s.Bounded) (results : List Json) :
    addSummaries total (s.toJson :: results) = addSummaries (total.absorb s) results := by
  have hresult : resultSummary s.toJson = .ok s := by
    rw [resultSummary, Summary.ofJson?_toJson hs]
    rfl
  rw [addSummaries_cons_eq, hresult]
  rfl

/-- What was added up before stands in front of what the results add up to. -/
theorem addSummaries_absorb (earlier total : Summary) (results : List Json) :
    addSummaries (earlier.absorb total) results =
      (addSummaries total results).map earlier.absorb := by
  induction results generalizing total with
  | nil => rfl
  | cons result rest ih =>
    rw [addSummaries_cons_eq, addSummaries_cons_eq]
    cases resultSummary result with
    | error fault => rfl
    | ok summary =>
      show addSummaries ((earlier.absorb total).absorb summary) rest = _
      rw [Summary.absorb_assoc]
      exact ih (total.absorb summary)

/-- The results of writes with one effect each add up to the summary of all effects. -/
theorem addSummaries_single {s : Summary} {logged : Bool} (h : s.changes.isSome = logged)
    (effects : List Effect) :
    addSummaries s (effects.map fun e => (summarize logged [e]).toJson) =
      .ok (effects.foldl Summary.record s) := by
  induction effects generalizing s with
  | nil => rfl
  | cons e rest ih =>
    rw [List.map_cons, addSummaries_cons (Summary.bounded_single logged e),
      Summary.absorb_summarize h, ih (by rw [Summary.isSome_changes_record, h])]
    rfl

/-- They do so without a log to begin with, if there is a result that brings one. -/
theorem addSummaries_single_of_ne_nil (logged : Bool) {effects : List Effect}
    (h : effects ≠ []) :
    addSummaries {} (effects.map fun e => (summarize logged [e]).toJson) =
      .ok (summarize logged effects) := by
  obtain ⟨e, rest, rfl⟩ := List.exists_cons_of_ne_nil h
  rw [List.map_cons, addSummaries_cons (Summary.bounded_single logged e), Summary.empty_absorb]
  refine addSummaries_single ?_ rest
  show ((Summary.start logged).record e).changes.isSome = logged
  rw [Summary.isSome_changes_record, Summary.isSome_changes_start]

end Call

end DocQuery
