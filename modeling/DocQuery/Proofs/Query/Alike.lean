import DocQuery.Proofs.Query.Policy

/-! Handles that run alike.

An operation never looks into the functions that it is given: all it can do is to call them.
Two handles that differ in nothing but their functions are thus the same argument, if each
pair of functions has as many parameters and is called to the same effect. -/
namespace DocQuery.Handle

mutual

/-- Handles that are the same but for their functions, which are related one by one. -/
inductive Alike (R : Function → Function → Prop) : Handle → Handle → Prop
  | datum (value : Json) : Alike R (.datum value) (.datum value)
  | array {items items' : List Handle} : AlikeAll R items items' →
    Alike R (.array items) (.array items')
  | object {fields fields' : List (String × Handle)} : AlikeFields R fields fields' →
    Alike R (.object fields) (.object fields')
  | call (op : Operation) {args args' : List Handle} (options : Fields Json) :
    AlikeAll R args args' → Alike R (.call op args options) (.call op args' options)
  | func {f g : Function} : R f g → Alike R (.func f) (.func g)

inductive AlikeAll (R : Function → Function → Prop) : List Handle → List Handle → Prop
  | nil : AlikeAll R [] []
  | cons {a b : Handle} {as bs : List Handle} : Alike R a b → AlikeAll R as bs →
    AlikeAll R (a :: as) (b :: bs)

inductive AlikeFields (R : Function → Function → Prop) :
    List (String × Handle) → List (String × Handle) → Prop
  | nil : AlikeFields R [] []
  | cons (key : String) {a b : Handle} {as bs : List (String × Handle)} : Alike R a b →
    AlikeFields R as bs → AlikeFields R ((key, a) :: as) ((key, b) :: bs)

end

/-- Functions that are called to the same effect. -/
def SameCalls (call call' : Function → List Json → Run Json) (f g : Function) : Prop :=
  f.arity = g.arity ∧ call f = call' g

section
variable {R : Function → Function → Prop} {call call' : Function → List Json → Run Json}

mutual

/-- Handles that run alike are the same argument to an operation. -/
theorem argument_eq (h : ∀ f g, R f g → SameCalls call call' f g) :
    ∀ a b, Alike R a b → a.argument call = b.argument call'
  | .datum _, _, .datum _ => rfl
  | .array items, _, .array halike => by
    rw [argument, argument, arguments_eq h items _ halike]
  | .object fields, _, .object halike => by
    rw [argument, argument, fieldArguments_eq h fields _ halike]
  | .call _ args _, _, .call _ _ halike => by
    rw [argument, argument, arguments_eq h args _ halike]
  | .func _, _, .func hfg => by
    obtain ⟨harity, hcall⟩ := h _ _ hfg
    rw [argument, argument, harity, hcall]

theorem arguments_eq (h : ∀ f g, R f g → SameCalls call call' f g) :
    ∀ as bs, AlikeAll R as bs → arguments call as = arguments call' bs
  | [], _, .nil => rfl
  | a :: as, _, .cons hhead htail => by
    rw [arguments, arguments, argument_eq h a _ hhead, arguments_eq h as _ htail]

theorem fieldArguments_eq (h : ∀ f g, R f g → SameCalls call call' f g) :
    ∀ as bs, AlikeFields R as bs → fieldArguments call as = fieldArguments call' bs
  | [], _, .nil => rfl
  | (_, a) :: as, _, .cons _ hhead htail => by
    rw [fieldArguments, fieldArguments, argument_eq h a _ hhead, fieldArguments_eq h as _ htail]

end

mutual

/-- A handle is like itself if all of its functions are. -/
theorem alike_self {p : Policy} (h : ∀ f, p.Functions f → R f f) :
    ∀ handle, p.Allows handle → Alike R handle handle
  | .datum value, _ => .datum value
  | .array items, hallowed => .array (alikeAll_self h items hallowed.2)
  | .object fields, hallowed => .object (alikeFields_self h fields hallowed)
  | .call op args options, hallowed => .call op options (alikeAll_self h args hallowed.2)
  | .func f, hallowed => .func (h f hallowed)

theorem alikeAll_self {p : Policy} (h : ∀ f, p.Functions f → R f f) :
    ∀ items, p.AllowsAll items → AlikeAll R items items
  | [], _ => .nil
  | handle :: rest, hallowed =>
    .cons (alike_self h handle hallowed.1) (alikeAll_self h rest hallowed.2)

theorem alikeFields_self {p : Policy} (h : ∀ f, p.Functions f → R f f) :
    ∀ fields, p.AllowsFields fields → AlikeFields R fields fields
  | [], _ => .nil
  | (key, handle) :: rest, hallowed =>
    .cons key (alike_self h handle hallowed.1) (alikeFields_self h rest hallowed.2)

end

end

end DocQuery.Handle
