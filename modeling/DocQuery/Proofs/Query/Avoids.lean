import DocQuery.Proofs.Reading

/-! Terms without operations of a kind.

That an operation does not occur in a term can be said in two ways. No array in the term, at
any depth, has its code in front (`Json.lacks`): this can be read off the text, data
included. Or no term that evaluation looks into names it (`Avoids`): this is what the
handles of the term are made of. The first way says more than the second. -/
namespace DocQuery
open Json

/-! ### Codes in front -/

namespace Json

mutual

/-- No array in a value, at any depth, has one of the codes as its first element. -/
def lacks (codes : List Nat) : Json → Bool
  | .array items => !(items.head?.bind natural?).any codes.contains && lacksItems codes items
  | .object fields => lacksFields codes fields
  | _ => true

def lacksItems (codes : List Nat) : List Json → Bool
  | [] => true
  | item :: rest => lacks codes item && lacksItems codes rest

def lacksFields (codes : List Nat) : List (String × Json) → Bool
  | [] => true
  | (_, value) :: rest => lacks codes value && lacksFields codes rest

end

variable {codes : List Nat} {items : List Json}

theorem lacksItems_iff :
    lacksItems codes items = true ↔ ∀ item ∈ items, item.lacks codes = true := by
  induction items with
  | nil => simp [lacksItems]
  | cons item rest ih => simp [lacksItems, ih]

theorem lacksFields_iff {fields : Fields Json} :
    lacksFields codes fields = true ↔ ∀ field ∈ fields, field.2.lacks codes = true := by
  induction fields with
  | nil => simp [lacksFields]
  | cons field rest ih => simp [lacksFields, ih]

theorem lacks_array_iff : (Json.array items).lacks codes = true ↔
    (∀ code, items.head?.bind natural? = some code → code ∉ codes) ∧
      ∀ item ∈ items, item.lacks codes = true := by
  rw [lacks, Bool.and_eq_true, lacksItems_iff]
  cases items.head?.bind natural? <;> simp

theorem lacks_argumentTerms (h : ∀ item ∈ items, item.lacks codes = true) :
    ∀ term ∈ argumentTerms items, term.lacks codes = true := by
  intro term hterm
  unfold argumentTerms at hterm
  split at hterm
  · next terms _ => exact (lacks_array_iff.mp (h (.array terms) (by simp))).2 term hterm
  · rw [List.mem_singleton.mp hterm]
    exact h _ (by simp)
  · cases hterm

theorem lacks_optionTerms (h : ∀ item ∈ items, item.lacks codes = true) :
    ∀ field ∈ optionTerms items, field.2.lacks codes = true := by
  intro field hfield
  unfold optionTerms at hfield
  split at hfield
  · next fields _ =>
    have hfields : lacksFields codes fields = true := h (.object fields) (by simp)
    exact lacksFields_iff.mp hfields field hfield
  · cases hfield

theorem lacks_subterms (h : ∀ item ∈ items, item.lacks codes = true) :
    ∀ term ∈ subterms items, term.lacks codes = true := by
  intro term hterm
  unfold subterms at hterm
  split at hterm
  · cases hterm
  · cases hterm
  · cases hterm
  · exact lacks_argumentTerms h term (List.mem_filter.mp hterm).1
  · obtain ⟨field, hfield, rfl⟩ := List.mem_map.mp hterm
    exact lacks_optionTerms h field hfield
  · exact lacks_argumentTerms h term hterm

end Json

/-! ### Operations that are named -/

/-- No term that evaluation looks into names an operation of the kind. -/
inductive Avoids (kind : Operation → Bool) : Json → Prop
  | literal {v : Json} (h : ∀ items, v ≠ .array items) : Avoids kind v
  | node {items : List Json}
    (head : ∀ op, items.head?.bind Operation.ofHead? = some op → kind op = false)
    (below : ∀ term ∈ subterms items, Avoids kind term) : Avoids kind (.array items)

/-- A number that names an operation is its code. -/
theorem Operation.natural?_of_ofHead? {head : Json} {op : Operation}
    (h : Operation.ofHead? head = some op) : head.natural? = some op.code := by
  obtain ⟨code, hcode, h⟩ := Option.bind_eq_some_iff.mp h
  unfold Operation.ofCode? at h
  have hsame : (op.code == code) = true := by simpa using List.find?_some h
  rw [hcode, eq_of_beq hsame]

namespace Avoids
variable {kind : Operation → Bool} {codes : List Nat}

/-- A term that lacks the codes of the kind avoids it. The induction is on how deep the
arrays nest. -/
theorem of_lacks (hcodes : ∀ op, kind op = true → op.code ∈ codes) (term : Json)
    (h : term.lacks codes = true) : Avoids kind term := by
  by_cases hitems : ∀ items, term ≠ .array items
  · exact .literal hitems
  · obtain ⟨items, rfl⟩ : ∃ items, term = .array items := by simpa using hitems
    obtain ⟨hfront, hbelow⟩ := lacks_array_iff.mp h
    refine .node (fun op hop => ?_) fun sub hsub => ?_
    · obtain ⟨head, hhead, hop⟩ := Option.bind_eq_some_iff.mp hop
      have hcode : items.head?.bind natural? = some op.code := by
        rw [hhead]
        exact Operation.natural?_of_ofHead? hop
      exact Bool.eq_false_iff.mpr fun hkind => hfront op.code hcode (hcodes op hkind)
    · have hlower : sub.height < (Json.array items).height := height_subterms hsub
      exact of_lacks hcodes sub (lacks_subterms hbelow sub hsub)
termination_by term.height
decreasing_by subst_vars; exact hlower

theorem subterm {items : List Json} (h : Avoids kind (.array items)) :
    ∀ term ∈ subterms items, Avoids kind term := by
  cases h with
  | literal h => exact absurd rfl (h items)
  | node head below => exact below

/-- A term that avoids all writes only reads. -/
theorem readOnly {term : Json} (h : Avoids Operation.writes term) : ReadOnly term := by
  induction h with
  | literal h => exact .literal h
  | node head _ ih => exact .node head ih

end Avoids

namespace Policy

/-- No call is of the kind, and no function has a body that names one. -/
def avoiding (kind : Operation → Bool) : Policy where
  Calls op _ := kind op = false
  Functions f := Avoids kind f.body

/-- Databases may be named, since a table without a database is in the one of the settings. -/
theorem avoiding_admits {kind : Operation → Bool} (hdb : kind .db = false) (settings : Settings) :
    (avoiding kind).Admits settings (Avoids kind) where
  below _ h := h.subterm
  call items operator args h hop _ _ := by
    cases h with
    | literal h => exact absurd rfl (h items)
    | node head below => exact head _ (ofItems_eq_ok hop).1
  database := hdb
  unpinned _ _ _ := hdb
  function _ _ body _ h hbody _ _ := h.subterm body hbody

/-- A logic is about operations that name stored data, write it or read the time or random
numbers. If each of these is of the kind or keeps to the rules, so do all calls that avoid it. -/
theorem avoiding_sound {kind : Operation → Bool} {L : Run.Logic} (hlacks : L.Lacks)
    (hfaults : ∀ fault, L.Faults fault) (hdb : kind .db = false)
    (hnamed : ∀ db, L.Holds (Call.named db) L.Datum)
    (hchance : ∀ op, Call.usesChance op = true → kind op = false → L.Chance)
    (htable : kind .table = false → ∀ db table, L.Database db → L.Rows ⟨db, table⟩ [])
    (henter : kind .insert = false → ∀ name documents conflict logged, L.Rows name [] →
      L.Holds (Call.enter name documents conflict logged) L.Datum)
    (hreplay : ∀ op, Call.writesRows op = true → kind op = false → ∀ name writes,
      L.Rows name [] → L.Runs (Call.replay name writes)) :
    (avoiding kind).Sound L where
  supplied := .inl hlacks
  run call op args options hcall hargs := by
    have hcall : kind op = false := hcall
    by_cases hop : op = .db
    · exact Call.holds_run_database hargs hop hnamed (.inl hlacks)
    · have hchance : Call.usesChance op = true → L.Chance := fun h => hchance op h hcall
      refine Call.holds_run hargs hop (fun spliced ha hsame _ receiver hr => ?_) hchance (.inl hlacks)
      have hsame : spliced.op = op := hsame
      have hkind (made : Operation) (h : spliced.op = made) : kind made = false := by
        rwa [← h, hsame]
      refine Call.holds_dispatch ha hr (fun h => ?_) (fun h => ?_) (fun h => ?_) (hsame ▸ hchance)
        (.inl hlacks)
      · exact Call.holds_table ha hr (htable (hkind _ h)) (.inl hlacks)
      · exact Call.holds_insert ha hr (henter (hkind _ h)) (.inl hlacks)
      · exact Call.holds_write ha hr (hreplay _ h (hkind _ rfl)) fun _ => .inl hlacks
  body f args handle hf h := Admits.call_means f (avoiding_admits hdb f.settings) hf h
  fails _ _ _ _ _ := hfaults _

end Policy

end DocQuery
