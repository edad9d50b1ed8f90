import DocQuery.Json.Printer
import DocQuery.Text.Blank
import DocQuery.Text.Case
import DocQuery.Value.Kind

/-! Values of one kind as values of another.

Every value has a string. Strings can be read as numbers, objects are lists of their
fields, and lists of pairs are objects. -/
namespace DocQuery
namespace Json

/-- The text of a value; a string is its own. -/
def asText : Json → String
  | .string text => text
  | value => value.compact

/-- The fields that a list of pairs holds, a later one replacing an earlier one. -/
def fieldsOfPairs? (pairs : List Json) : Option (Fields Json) := do
  let entries ← pairs.mapM fun
    | .array [.string key, value] => some (key, value)
    | _ => none
  return Fields.ofList entries

/-- The value as one of the kind that `target` names, in letters of any case. -/
def coerceTo (value : Json) (target : String) : Except Fault Json :=
  let target := String.ofList (Text.upper target.toList)
  let failed : Except Fault Json := .error (.cannotCoerce value.kind target)
  match target, value with
  | "STRING", value => .ok (.string value.asText)
  | "NUMBER", .string text =>
    match Extended.ofText? (Text.trim text.toList) with
    | some x => x.toJson
    | none => failed
  | "NUMBER", .number n => .ok (.number n)
  | "BOOL", .bool b => .ok (.bool b)
  | "NULL", .null => .ok .null
  | "ARRAY", .array items => .ok (.array items)
  | "ARRAY", .object fields => .ok (.array (fields.map fun (key, v) => .array [.string key, v]))
  | "OBJECT", .object fields => .ok (.object fields)
  | "OBJECT", .array pairs =>
    match fieldsOfPairs? pairs with
    | some fields => .ok (.object fields)
    | none => failed
  | _, _ => failed

end Json

end DocQuery
