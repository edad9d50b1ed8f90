import DocQuery.Command.Request
import DocQuery.Run.Query
import DocQuery.Store.Load

/-! What a command prints.

The term is read first, then it is shown as a tree or composed; documents are read only
to run it. A command that fails prints nothing. -/
namespace DocQuery.Command

structure Outcome where
  code : Nat
  output : String := ""
  /-- What is said apart from the output when a command fails. -/
  complaint : String := ""
  deriving DecidableEq, Repr

def line (text : String) : String := text ++ "\n"

def usage : String := "Usage: reql_query [OPTIONS] [QUERY]"

def versionText : String := line "reql_query 0.1.18"

def helpText : String := String.join <| List.map line [
  "Evaluate ReQL term trees against JSON fixtures",
  "",
  usage,
  "",
  "Arguments:",
  "  [QUERY]  JSON term, e.g. '[39,[[15,[\"bills\"]],\x7b\"credit\":true\x7d]]'",
  "",
  "Options:",
  "  -d, --data <DIRECTORY>  Fixture root laid out as <DIRECTORY>/<db>/<table>.json",
  "      --db <NAME>         Database every query runs against [default: test]",
  "      --requested-db      Honour the database named by DB terms instead of pinning it",
  "      --explain           Print the composed query instead of running it",
  "      --tree <ORDER>      Print the term tree in the given order instead of running it",
  "      --nested            Print the term tree as nested arrays instead of running it",
  "  -f, --file <PATH>       Read the query from a file",
  "  -v...                   Sets the level of verbosity",
  "  -h, --help              Print help",
  "  -V, --version           Print version"]

def Stop.outcome : Stop → Outcome
  | .version => { code := 0, output := versionText }
  | .help => { code := 0, output := helpText }
  | .refused => { code := 2, complaint := line usage }

def Outcome.ofText : Except Fault String → Outcome
  | .ok text => { code := 0, output := text }
  | .error fault => { code := 1, complaint := line fault.message }

def readTerm (source : String) : Except Fault Json :=
  match Json.read? source with
  | some term => .ok term
  | none => .error .unreadableJson

/-- A visited value; a code is shown by its name. -/
def label (value : Json) : String :=
  match Operation.ofHead? value with
  | some op => op.name
  | none => value.compact

namespace Request
variable (request : Request)

/-- What is printed about a term. Documents matter only where it runs. -/
def output (term : Json) (store : Except Fault Store) (context : Run.Context) :
    Except Fault String := do
  let query : Query := ⟨term, request.settings⟩
  match request.view with
  | .tree order => return String.join (((Tree.ofTerm term).visit order).map (line ∘ label))
  | .nested => return line (Tree.ofTerm term).nested.compact
  | .composed => return line (← query.build).toWire.compact
  | .result => return line (← (query.run context ⟨← store, 0⟩).1).pretty

/-- The paths that are read from: the query's, and that of the documents if it runs. -/
def paths : List String :=
  let query :=
    match request.source with
    | .text _ => []
    | .file path => [path]
  if request.view = .result then query ++ request.data?.toList else query

/-- The text of the query. -/
def queryText (look : String → Option FileTree) : Except Fault String :=
  match request.source with
  | .text query => .ok query
  | .file path => ((look path).getD .closed).text

/-- The documents that the query runs against. -/
def documents (look : String → Option FileTree) : Except Fault Store :=
  match request.data? with
  | some path => Store.load ((look path).getD .closed)
  | none => .ok .empty

/-- What a request comes to, given what its paths lead to. -/
def outcome (look : String → Option FileTree) (context : Run.Context) : Outcome :=
  .ofText do
    let term ← readTerm (← request.queryText look)
    request.output term (request.documents look) context

end Request

/-- What a command line comes to. -/
def outcome (words : List String) (look : String → Option FileTree) (context : Run.Context) :
    Outcome :=
  match Request.ofWords words with
  | .ok request => request.outcome look context
  | .error stop => stop.outcome

end DocQuery.Command
