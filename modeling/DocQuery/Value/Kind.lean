import DocQuery.Fault

/-! Kinds of values and the views that operations ask for.

An object with a string under `tagKey` is of a kind of its own: a time, grouped data,
or a literal that replaces instead of merging. A view fails with the kind that was
asked for and the kind that was found. -/
namespace DocQuery

/-- The key of the tag that gives an object another kind. -/
def tagKey : String := "$reql_type$"

namespace Json

def tag? (value : Json) : Option String := (value.field? tagKey).bind string?

def isTime (value : Json) : Bool := value.tag? = some "TIME"

def isGrouped (value : Json) : Bool := value.tag? = some "GROUPED_DATA"

def isLiteral (value : Json) : Bool := value.tag? = some "LITERAL"

def kind : Json → Kind
  | .null => .null
  | .bool _ => .bool
  | .number _ => .number
  | .string _ => .string
  | .array _ => .array
  | .object fields =>
    if (Json.object fields).isTime then .time
    else if (Json.object fields).isGrouped then .groupedData
    else .object

/-- Everything but `null` and `false`. -/
def truthy : Json → Bool
  | .null | .bool false => false
  | _ => true

/-! ### Views -/

def expect (what : String) (value : Json) : Fault := .expected what value.kind

def asNumber : Json → Except Fault Binary64
  | .number n => .ok n.toBinary64
  | value => .error (expect "NUMBER" value)

/-- A whole number as a signed 64-bit integer, the nearest one if it is larger. -/
def asInteger (value : Json) : Except Fault Int := do
  let x ← value.asNumber
  if x.isWhole then return (Extended.finite x).toInt64
  else throw (.notWhole (.finite x))

def asString : Json → Except Fault String
  | .string s => .ok s
  | value => .error (expect "STRING" value)

def asObject : Json → Except Fault (Fields Json)
  | .object fields => .ok fields
  | value => .error (expect "OBJECT" value)

def asArray : Json → Except Fault (List Json)
  | .array items => .ok items
  | value => .error (expect "ARRAY" value)

end Json

/-- A computed number. A whole number below `2 ^ 53` becomes an integer. -/
def Extended.toJson : Extended → Except Fault Json
  | .finite x =>
    if x.isWhole && x.truncated.natAbs < 2 ^ 53 then .ok (.ofInt x.truncated)
    else .ok (.number (.real x))
  | x => .error (.nonFinite x)

end DocQuery
