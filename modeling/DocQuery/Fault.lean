import DocQuery.Json.Printer
import DocQuery.Term.Operation

/-! What can go wrong.

A `Fault` is a cause, found while a term is built into a query or while the query
runs. Its `kind` decides how far it reaches: a missing datum (`Kind.notFound`) can be
replaced by a default, a runtime failure is counted by row-wise writes, and every
other kind ends the query. `message` is the only place where a cause becomes text. -/
namespace DocQuery

/-- What a datum is, as messages and `TYPE_OF` name it. -/
inductive Kind where
  | null | bool | number | string | array | object | time | groupedData
  | database | table | stream | row | function
  deriving DecidableEq, Repr

def Kind.text : Kind → String
  | .null => "NULL"
  | .bool => "BOOL"
  | .number => "NUMBER"
  | .string => "STRING"
  | .array => "ARRAY"
  | .object => "OBJECT"
  | .time => "PTYPE<TIME>"
  | .groupedData => "GROUPED_DATA"
  | .database => "DB"
  | .table => "TABLE"
  | .stream => "SELECTION<STREAM>"
  | .row => "SELECTION<OBJECT>"
  | .function => "FUNCTION"

/-- The longest array that an operation may build. -/
def arrayLimit : Nat := 100000

inductive Fault where
  -- terms that are no query
  | unknownTerm (head : Json)
  | illegalOperation (op : Operation)
  | unresolved (id : Nat)
  | implicitAmong (count : Nat)
  | implicitOutside
  | arity (op : Operation) (least : Nat) (most : Option Nat) (found : Nat)
  | optionsNotObject (op : Operation) (found : Json)
  | optionsRefused (op : Operation)
  | receiverMissing (op : Operation)
  | itemsNotArray (found : Json)
  | functionIncomplete
  | parametersNotArray (found : Json)
  | parameterNotId (found : Json)
  | variableNotId (payload : Option Json)
  | tableNameMissing
  | ruleMissing (op : Operation)
  -- data that is not there
  | noAttribute (field : String)
  | noIndex
  | noDatabase (db : String)
  | noTable (db table : String)
  | nullDocument
  -- data of another kind
  | expected (what : String) (found : Kind)
  | expectedTime (found : Json)
  | expectedDocument (found : Json)
  | expectedSlice
  | notSequence (found : Kind)
  | notResult (found : Kind)
  | notSelector (found : Json)
  | notPath (found : Json)
  | notIndexName (found : Json)
  | notBracketKey (found : Kind)
  | notWriteResult (found : Kind)
  | notGroup (found : Json)
  | groupsMissing
  | cannotCoerce (found : Kind) (target : String)
  -- numbers
  | nonFinite (x : Extended)
  | notWhole (x : Extended)
  | notWholeIndex (n : Number)
  | cannotAdd (left right : Kind)
  | cannotSubtract (left right : Kind)
  | cannotMultiply (left right : Kind)
  | divisionByZero
  | moduloZero
  | moduloOverflow
  | randomBounds
  -- arguments
  | argumentMissing (op : Operation) (index : Nat)
  | functionMissing (op : Operation)
  | elseMissing
  | evenBranch
  | oddObject
  | duplicateKey (key : String)
  | extremeOutsideBetween (op : Operation)
  | orderingOutsideOrderBy (op : Operation)
  | orderingMissing
  | selectorMissing
  | boundUnknown (name found : String)
  | conflictUnknown (found : String)
  | infiniteRange
  | arrayTooLong
  | outOfBounds (index : Int) (length : Nat)
  | emptyReduce
  | emptyAverage
  | emptyExtreme (op : Operation)
  | regexInvalid (pattern reason : String)
  | user (message : String)
  -- writes, counted per row
  | keyExists (primaryKey : String) (key : Json)
  | keyChanged (primaryKey : String)
  -- times
  | epochMissing
  | timeOutOfRange (seconds : Extended)
  | zoneInvalid (zone : String)
  | dateFieldCount (found : Nat)
  | dateFieldsInvalid
  | isoInvalid (text reason : String)
  | isoZoneMissing (text : String)
  | localTimeAmbiguous (text : String)
  | dateOutOfRange
  -- what the store does not do
  | unsupported (what : String)
  -- text and files
  | unreadableJson
  | unreadableFile
  -- calls nested deeper than the query allows
  | callDepth
  deriving DecidableEq

/-- How far a fault reaches. -/
inductive Fault.Kind where
  | unknownTerm | unsupportedOperation | scopeResolution | arity | malformed
  | runtime | unsupported | notFound | io | json | callDepth
  deriving DecidableEq, Repr

namespace Fault

def kind : Fault → Fault.Kind
  | unknownTerm _ => .unknownTerm
  | illegalOperation _ => .unsupportedOperation
  | unresolved _ | implicitAmong _ | implicitOutside => .scopeResolution
  | arity .. => .arity
  | optionsNotObject .. | optionsRefused _ | receiverMissing _ | itemsNotArray _
  | functionIncomplete | parametersNotArray _ | parameterNotId _ | variableNotId _
  | tableNameMissing | ruleMissing _ => .malformed
  | noAttribute _ | noIndex | noDatabase _ | noTable .. | nullDocument => .notFound
  | unsupported _ => .unsupported
  | unreadableJson => .json
  | unreadableFile => .io
  | callDepth => .callDepth
  | _ => .runtime

/-- The bounds on a number of arguments, in words. -/
def boundsText (least : Nat) (most : Option Nat) : String :=
  match most with
  | some most => if most = least then toString most else s!"{least} to {most}"
  | none => s!"at least {least}"

def variableName (id : Nat) : String := s!"var_{id}"

def message : Fault → String
  | unknownTerm head => s!"unknown term {head.compact}"
  | illegalOperation op => s!"illegal query {op.name}"
  | unresolved id => s!"cannot resolve {variableName id}"
  | implicitAmong count =>
    s!"cannot resolve implicit variable in a scope of {count} parameters"
  | implicitOutside => "cannot resolve implicit variable outside of a function"
  | arity op least most found =>
    s!"{op.name} expects {boundsText least most} arguments, found {found}"
  | optionsNotObject op found =>
    s!"malformed term: optional arguments of {op.name} must be an object, found {found.compact}"
  | optionsRefused op => s!"malformed term: {op.name} does not take optional arguments"
  | receiverMissing op => s!"malformed term: {op.name} needs a receiver"
  | itemsNotArray found =>
    s!"malformed term: MAKE_ARRAY payload must be an array, found {found.compact}"
  | functionIncomplete => "malformed term: FUNC needs a parameter list and a body"
  | parametersNotArray found =>
    s!"malformed term: FUNC parameters must be a MAKE_ARRAY of ids, found {found.compact}"
  | parameterNotId found => s!"malformed term: invalid parameter id {found.compact}"
  | variableNotId payload =>
    let shown := match payload with
      | some value => s!"Some({value.inspect})"
      | none => "None"
    s!"malformed term: VAR payload must be a variable id, found {shown}"
  | tableNameMissing => "malformed term: TABLE needs a table name"
  | ruleMissing op => s!"malformed term: {op.name} has no dedicated routine"
  | noAttribute field => s!"No attribute `{field}` in object."
  | noIndex => "Index out of bounds."
  | noDatabase db => s!"Database `{db}` does not exist."
  | noTable db table => s!"Table `{db}.{table}` does not exist."
  | nullDocument => "Cannot perform this operation on a non-object non-sequence `null`."
  | expected what found => s!"Expected type {what} but found {found.text}."
  | expectedTime found => s!"Expected type PTYPE<TIME> but found {found.compact}."
  | expectedDocument found => s!"Expected type OBJECT but found {found.compact}."
  | expectedSlice => "Expected type TABLE_SLICE but found ARRAY."
  | notSequence found => s!"Cannot convert {found.text} to SEQUENCE"
  | notResult found =>
    s!"Query result must be of type DATUM, GROUPED_DATA, or STREAM (got {found.text})."
  | notSelector found => s!"Expected a field name or a function but found {found.compact}."
  | notPath found => s!"Invalid path argument `{found.compact}`."
  | notIndexName found => s!"Invalid index `{found.compact}`."
  | notBracketKey found =>
    s!"Expected NUMBER or STRING as second argument to BRACKET but found {found.text}."
  | notWriteResult found => s!"FOR_EACH expects write queries, found {found.text}."
  | notGroup found => s!"Malformed group `{found.compact}`."
  | groupsMissing => "GROUPED_DATA is missing `data`."
  | cannotCoerce found target => s!"Cannot coerce {found.text} to {target}."
  | nonFinite x => s!"Non-finite number: {x.plainText}"
  | notWhole x => s!"Number not an integer: {x.plainText}"
  | notWholeIndex n => s!"Number not an integer: {n.text}"
  | cannotAdd left right => s!"Cannot add {left.text} and {right.text}."
  | cannotSubtract left right => s!"Cannot subtract {right.text} from {left.text}."
  | cannotMultiply left right => s!"Cannot multiply {left.text} and {right.text}."
  | divisionByZero => "Cannot divide by zero."
  | moduloZero => "Cannot take a number modulo 0."
  | moduloOverflow => "Integer overflow in modulo."
  | randomBounds => "Lower bound of RANDOM must be smaller than the upper bound."
  | argumentMissing op index => s!"{op.name} is missing argument {index}"
  | functionMissing op =>
    if op = .map then "MAP needs a function." else s!"{op.name} needs a function"
  | elseMissing => "BRANCH needs an else branch."
  | evenBranch => "BRANCH expects an odd number of arguments."
  | oddObject => "OBJECT expects an even number of arguments."
  | duplicateKey key => s!"Duplicate key `{key}` in object."
  | extremeOutsideBetween op => s!"Cannot use r.{op.method} outside of BETWEEN."
  | orderingOutsideOrderBy op => s!"{op.name} may only be used as an argument to ORDER_BY."
  | orderingMissing => "ORDER_BY needs at least one ordering."
  | selectorMissing => "GROUP needs at least one field or function."
  | boundUnknown name found =>
    s!"Expected `open` or `closed` for {name} (got `{found}`)."
  | conflictUnknown found => s!"Conflict option `{found}` unrecognized."
  | infiniteRange =>
    "Cannot use an infinite stream with an aggregation function or in this context."
  | arrayTooLong => s!"Array over size limit `{arrayLimit}`."
  | outOfBounds index length =>
    s!"Index `{index}` out of bounds for array of size: `{length}`."
  | emptyReduce => "Cannot reduce over an empty stream."
  | emptyAverage => "Cannot take the average of an empty stream."
  | emptyExtreme op =>
    s!"Cannot take the {op.method} of an empty stream. (If you passed `{op.method}` a field " ++
      "name, it may be that no elements of the stream had that field.)"
  | regexInvalid pattern reason => s!"Error in regexp `{pattern}`: {reason}"
  | user message => message
  | keyExists primaryKey key => s!"Duplicate primary key `{primaryKey}`: {key.compact}"
  | keyChanged primaryKey => s!"Primary key `{primaryKey}` cannot be changed."
  | epochMissing => "TIME is missing `epoch_time`."
  | timeOutOfRange seconds => s!"Time out of range: {seconds.plainText}"
  | zoneInvalid zone => s!"Invalid timezone string `{zone}`."
  | dateFieldCount found => s!"Expected 3 or 6 date fields, found {found}."
  | dateFieldsInvalid => "Invalid date or time fields."
  | isoInvalid text reason => s!"Invalid ISO 8601 string `{text}`: {reason}"
  | isoZoneMissing text =>
    s!"ISO 8601 string has no time zone, and no default time zone was provided: `{text}`"
  | localTimeAmbiguous text => s!"Ambiguous local time `{text}`"
  | dateOutOfRange => "Cannot compute the date of this time."
  | unsupported what => s!"{what} is not supported by this store"
  | unreadableJson => "the text is not JSON of the expected form"
  | unreadableFile => "the file or directory cannot be read"
  | callDepth => "functions are nested too deeply"

/-- A missing datum, which defaults can stand in for. -/
def isMissing (fault : Fault) : Bool := fault.kind == .notFound

/-- A fault that a row-wise write counts instead of failing. -/
def isCounted (fault : Fault) : Bool := fault.kind == .runtime || fault.kind == .notFound

end Fault

end DocQuery
