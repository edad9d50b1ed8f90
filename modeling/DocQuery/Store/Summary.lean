import DocQuery.Fault

/-! Summaries of writes.

A write does one thing to each document it is given or finds: that is its `Effect`. A
summary counts effects, keeps the text of the first failure and the keys that were
made up, and may keep a log of the changes. Summaries are values too: they are written
as objects (`toJson`), read back (`ofJson?`), and added up (`absorb`). -/
namespace DocQuery

/-- What a write does with one document. -/
inductive Effect where
  | skipped
  | unchanged
  | inserted (new : Json)
  | replaced (old new : Json)
  | deleted (old : Json)
  | failed (fault : Fault)
  deriving DecidableEq

structure Summary where
  deleted : Nat := 0
  errors : Nat := 0
  inserted : Nat := 0
  replaced : Nat := 0
  skipped : Nat := 0
  unchanged : Nat := 0
  firstError : Option String := none
  generatedKeys : List String := []
  /-- The changes in order, if they are asked for. -/
  changes : Option (List Json) := none
  deriving DecidableEq

instance : Inhabited Summary := ⟨{}⟩

namespace Summary

/-- A summary of nothing, with a log or without. -/
def start (logged : Bool) : Summary := { changes := if logged then some [] else none }

/-! ### Effects -/

/-- An entry of the log: the document before and after, `null` where there is none. -/
def entry (old new : Option Json) : Json :=
  .ofFields [("old_val", old.getD .null), ("new_val", new.getD .null)]

def log (s : Summary) (old new : Option Json) : Summary :=
  { s with changes := s.changes.map (· ++ [entry old new]) }

def fail (s : Summary) (message : String) : Summary :=
  { s with errors := s.errors + 1, firstError := s.firstError <|> some message }

def record (s : Summary) : Effect → Summary
  | .skipped => { s with skipped := s.skipped + 1 }
  | .unchanged => { s with unchanged := s.unchanged + 1 }
  | .inserted new => { s.log none (some new) with inserted := s.inserted + 1 }
  | .replaced old new => { s.log (some old) (some new) with replaced := s.replaced + 1 }
  | .deleted old => { s.log (some old) none with deleted := s.deleted + 1 }
  | .failed fault => s.fail fault.message

/-! ### Adding up -/

/-- The later log after the earlier one; there is a log if either has one. -/
def joinChanges : Option (List Json) → Option (List Json) → Option (List Json)
  | changes, none => changes
  | changes, some more => some (changes.getD [] ++ more)

def absorb (s other : Summary) : Summary where
  deleted := s.deleted + other.deleted
  errors := s.errors + other.errors
  inserted := s.inserted + other.inserted
  replaced := s.replaced + other.replaced
  skipped := s.skipped + other.skipped
  unchanged := s.unchanged + other.unchanged
  firstError := s.firstError <|> other.firstError
  generatedKeys := s.generatedKeys ++ other.generatedKeys
  changes := joinChanges s.changes other.changes

/-! ### As values -/

/-- The object of a summary. Fields that say nothing are left out. -/
def toJson (s : Summary) : Json :=
  .object <|
    ((s.changes.map fun changes => ("changes", Json.array changes)).toList ++
    [("deleted", .ofNat s.deleted), ("errors", .ofNat s.errors)] ++
    (s.firstError.map fun text => ("first_error", Json.string text)).toList ++
    (if s.generatedKeys.isEmpty then []
      else [("generated_keys", .array (s.generatedKeys.map .string))]) ++
    [("inserted", .ofNat s.inserted), ("replaced", .ofNat s.replaced),
      ("skipped", .ofNat s.skipped), ("unchanged", .ofNat s.unchanged)])

def readText? : Json → Option (Option String)
  | .null => some none
  | .string text => some (some text)
  | _ => none

def readKeys? (value : Json) : Option (List String) := do (← value.array?).mapM Json.string?

def readChanges? : Json → Option (Option (List Json))
  | .null => some none
  | .array changes => some (some changes)
  | _ => none

/-- A part read from a value, or the default if there is no value. -/
def readPart? {α : Type} (read? : Json → Option α) (default : α) : Option Json → Option α
  | some value => read? value
  | none => some default

/-- A summary from its parts; those that are missing are those of the empty summary. -/
def ofParts? (part : String → Option Json) : Option Summary := do
  let count (name : String) : Option Nat := readPart? Json.natural? 0 (part name)
  return {
    deleted := ← count "deleted"
    errors := ← count "errors"
    inserted := ← count "inserted"
    replaced := ← count "replaced"
    skipped := ← count "skipped"
    unchanged := ← count "unchanged"
    firstError := ← readPart? readText? none (part "first_error")
    generatedKeys := ← readPart? readKeys? [] (part "generated_keys")
    changes := ← readPart? readChanges? none (part "changes") }

/-- The names of the parts in the order in which a list gives them. -/
def partNames : List String :=
  ["deleted", "errors", "inserted", "replaced", "skipped", "unchanged", "first_error",
    "generated_keys", "changes"]

/-- A summary from an object, whose other fields do not matter, or from a list of its
parts. -/
def ofJson? : Json → Option Summary
  | .object fields => ofParts? (Fields.get? fields)
  | .array items =>
    if items.length ≤ partNames.length then ofParts? (Fields.get? (partNames.zip items))
    else none
  | _ => none

end Summary

end DocQuery
