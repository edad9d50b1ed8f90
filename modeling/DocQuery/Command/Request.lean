import DocQuery.Command.Item
import DocQuery.Query.Handle
import DocQuery.Term.Tree

/-! What a command line asks for.

The items of a command line are taken one after another into a `Draft`. Asking for the
version or for help ends this at once; so does an item that is invalid or given twice,
the verbosity apart. Whether the parts of a draft go together is asked at the end. -/
namespace DocQuery.Command

/-- Why there is no request. -/
inductive Stop where
  | version
  | help
  | refused
  deriving DecidableEq, Repr

/-! ### Requests -/

inductive Source where
  | text (query : String)
  | file (path : String)
  deriving DecidableEq, Repr

/-- What is to be shown. -/
inductive View where
  | tree (order : Tree.Order)
  | nested
  /-- The query as it is composed, not run. -/
  | composed
  | result
  deriving DecidableEq, Repr

structure Request where
  source : Source
  view : View
  settings : Settings
  /-- The folder of the documents. -/
  data? : Option String

/-! ### Drafts -/

/-- What was given so far. -/
structure Draft where
  query? : Option String := none
  file? : Option String := none
  data? : Option String := none
  database? : Option String := none
  order? : Option Tree.Order := none
  nested : Bool := false
  explain : Bool := false
  requestedDatabase : Bool := false

/-- A value for what had none so far. -/
def fresh {α : Type} (given : Option α) (value : α) : Except Stop (Option α) :=
  if given.isSome then .error .refused else .ok (some value)

/-- Raises a flag that was not up. -/
def raised (given : Bool) : Except Stop Bool :=
  if given then .error .refused else .ok true

/-- A path has at least one character. -/
def path (value : String) : Except Stop String :=
  if value.isEmpty then .error .refused else .ok value

def order (name : String) : Except Stop Tree.Order :=
  match name with
  | "postorder" => .ok .postorder
  | "preorder" => .ok .preorder
  | "inorder" => .ok .inorder
  | "levelorder" => .ok .levelorder
  | _ => .error .refused

namespace Draft

def raise (draft : Draft) : Flag → Except Stop Draft
  | .requestedDatabase =>
    return { draft with requestedDatabase := ← raised draft.requestedDatabase }
  | .explain => return { draft with explain := ← raised draft.explain }
  | .nested => return { draft with nested := ← raised draft.nested }
  | .verbose => .ok draft
  | .version => .error .version
  | .help => .error .help

def set (draft : Draft) (value : String) : Setting → Except Stop Draft
  | .data => return { draft with data? := ← fresh draft.data? (← path value) }
  | .file => return { draft with file? := ← fresh draft.file? (← path value) }
  | .database => return { draft with database? := ← fresh draft.database? value }
  | .tree => return { draft with order? := ← fresh draft.order? (← order value) }

def take (draft : Draft) : Item → Except Stop Draft
  | .flag flag => draft.raise flag
  | .setting setting value => draft.set value setting
  | .plain word => return { draft with query? := ← fresh draft.query? word }
  | .invalid => .error .refused

/-- A query comes from one place. -/
def source (draft : Draft) : Except Stop Source :=
  match draft.query?, draft.file? with
  | some query, none => .ok (.text query)
  | none, some path => .ok (.file path)
  | _, _ => .error .refused

/-- A tree is shown in an order or nested, and rather than the composed query. -/
def view (draft : Draft) : Except Stop View :=
  match draft.order?, draft.nested with
  | some _, true => .error .refused
  | some order, false => .ok (.tree order)
  | none, true => .ok .nested
  | none, false => .ok (if draft.explain then .composed else .result)

def settings (draft : Draft) : Settings where
  database := draft.database?.getD "test"
  pinned := !draft.requestedDatabase

def request (draft : Draft) : Except Stop Request :=
  return {
    source := ← draft.source
    view := ← draft.view
    settings := draft.settings
    data? := draft.data? }

end Draft

/-- The request of a command line. -/
def Request.ofWords (words : List String) : Except Stop Request := do
  ((items words).foldlM Draft.take {}) >>= Draft.request

end DocQuery.Command
