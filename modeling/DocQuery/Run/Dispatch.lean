import DocQuery.Regex.Match
import DocQuery.Run.Aggregate
import DocQuery.Run.Control
import DocQuery.Run.Document
import DocQuery.Run.Selection
import DocQuery.Run.Sequence
import DocQuery.Run.Write
import DocQuery.Text.Split
import DocQuery.Value.Coerce

/-! What every operation does.

An operation stands on one of three levels. The outermost ones see all their arguments
unrun. The others run the first argument, their receiver: some of them can do more with
it than with a value, and the rest work on values alone. Given grouped data as their
receiver, many operations run once for each group. -/
namespace DocQuery.Call

/-! ### Operations on values -/

def arithmetic (call : Call) (receiver : Json) (step : Json → Json → Except Fault Json) :
    Run Json :=
  call.rest.foldlM (fun result arg => do step result (← arg.value)) receiver

/-- The relation holds between all neighbours. -/
def chained (relation : Json → Json → Bool) : List Json → Bool
  | a :: b :: rest => relation a b && chained relation (b :: rest)
  | _ => true

def comparison (call : Call) (receiver : Json) (relation : Json → Json → Bool) : Run Bool :=
  return chained relation (receiver :: (← values call.rest))

def isLess (a b : Json) : Bool := a.order b == .lt

def isMore (a b : Json) : Bool := a.order b == .gt

def rounded (receiver : Json) (rule : Extended → Extended) : Except Fault Json := do
  (rule (.finite (← receiver.asNumber))).toJson

def during (call : Call) (receiver : Json) : Run Json := do
  let start ← (← call.arg 1).value
  let stop ← (← call.arg 2).value
  let leftClosed ← call.leftClosed
  Time.during receiver start stop (!leftClosed) (← call.rightClosed)

/-- The zone of a time as it is written in it. -/
def zoneOf (receiver : Json) : Except Fault Json := do
  let _ ← Time.epoch receiver
  return (receiver.field? "timezone").getD (.string "+00:00")

def matchText (call : Call) (receiver : Json) : Run Json := do
  let text ← receiver.asString
  let pattern ← (← call.arg 1).string
  match Regex.firstMatch pattern text with
  | .ok found => return (found.map Regex.Match.toJson).getD .null
  | .error reason => throw (.regexInvalid pattern reason)

/-- Splits at a separator, or at blanks if there is none or `null`. -/
def split (call : Call) (receiver : Json) : Run Json := do
  let separator ← match call.args[1]? with
    | some arg =>
      match ← arg.value with
      | .null => pure none
      | value => some <$> liftExcept value.asString
    | none => pure none
  let limit ← match call.args[2]? with
    | some arg => (fun n => some n.toNat) <$> arg.integer
    | none => pure none
  let text ← receiver.asString
  let pieces := Text.split (separator.map String.toList) limit text.toList
  return .array (pieces.map fun piece => .string (String.ofList piece))

def recased (receiver : Json) (rule : List Char → List Char) : Except Fault Json := do
  return .string (String.ofList (rule (← receiver.asString).toList))

/-- Operations that take their receiver as a value. -/
def compute (call : Call) (receiver : Json) : Run Json :=
  match call.op with
  | .map => call.map receiver
  | .concatMap => call.concatMap receiver
  | .offsetsOf => call.offsetsOf receiver
  | .isEmpty => do return .bool (← receiver.asArray).isEmpty
  | .union => call.union receiver
  | .sample => call.sample receiver
  | .forEach => call.forEach receiver
  | .withFields => call.withFields receiver
  | .reduce => call.reduce receiver
  | .fold => call.fold receiver
  | .count => call.count receiver
  | .sum => call.sum receiver
  | .avg => call.average receiver
  | .min => call.extreme .lt receiver
  | .max => call.extreme .gt receiver
  | .distinct => call.distinct receiver
  | .group => call.group receiver
  | .ungroup => ungroup receiver
  | .contains => call.contains receiver
  | .pluck => call.pluck receiver
  | .without => call.without receiver
  | .merge => call.merge receiver
  | .hasFields => call.hasFields receiver
  | .getField => call.getField receiver
  | .bracket => call.bracket receiver
  | .keys => keys receiver
  | .values => fieldValues receiver
  | .append => call.withValue receiver fun items item => items ++ [item]
  | .prepend => call.withValue receiver fun items item => item :: items
  | .setInsert => call.withValue receiver Json.setInsert
  | .difference => call.withArray receiver Json.difference
  | .setIntersection => call.withArray receiver Json.setIntersection
  | .setUnion => call.withArray receiver Json.setUnion
  | .setDifference => call.withArray receiver Json.setDifference
  | .insertAt => call.insertAt receiver
  | .deleteAt => call.deleteAt receiver
  | .changeAt => call.changeAt receiver
  | .spliceAt => call.spliceAt receiver
  | .add => call.arithmetic receiver Json.add
  | .sub => call.arithmetic receiver Json.sub
  | .mul => call.arithmetic receiver Json.mul
  | .div => call.arithmetic receiver Json.div
  | .mod => call.arithmetic receiver Json.modulo
  | .floor => rounded receiver Extended.floor
  | .ceil => rounded receiver Extended.ceil
  | .round => rounded receiver Extended.round
  | .eq => do return .bool (← call.comparison receiver Json.equals)
  | .ne => do return .bool !(← call.comparison receiver Json.equals)
  | .lt => do return .bool (← call.comparison receiver isLess)
  | .le => do return .bool (← call.comparison receiver fun a b => !isMore a b)
  | .gt => do return .bool (← call.comparison receiver isMore)
  | .ge => do return .bool (← call.comparison receiver fun a b => !isLess a b)
  | .not => return .bool !receiver.truthy
  | .inTimezone => do Time.inZone receiver (← (← call.arg 1).value)
  | .timezone => zoneOf receiver
  | .during => call.during receiver
  | .date => Time.date receiver
  | .timeOfDay => Time.timeOfDay receiver
  | .year | .month | .day | .dayOfWeek | .dayOfYear | .hours | .minutes | .seconds =>
    Time.component receiver call.op.method
  | .toIso8601 => Time.isoText receiver
  | .toEpochTime => do (Extended.finite (← Time.epoch receiver)).toJson
  | .matchText => call.matchText receiver
  | .split => call.split receiver
  | .upcase => recased receiver Text.upper
  | .downcase => recased receiver Text.lower
  | .coerceTo => do receiver.coerceTo (← (← call.arg 1).string)
  | .toJsonString => return .string receiver.compact
  | op => throw (.unsupported op.name)

/-! ### Operations on receivers -/

/-- Operations that can do more with their receiver than with a value. -/
def dispatch (call : Call) (receiver : Datum) : Run Datum :=
  match call.op with
  | .table => call.table receiver
  | .get => call.get receiver
  | .getAll => call.getAll receiver
  | .between | .betweenDeprecated => call.between receiver
  | .filter => call.filter receiver
  | .orderBy => call.orderBy receiver
  | .skip => call.skip receiver
  | .limit => call.limit receiver
  | .slice => call.slice receiver
  | .nth => call.nth receiver
  | .insert => call.insert receiver
  | .update | .replace | .delete => call.write receiver
  | .typeOf => return .value (.string receiver.kind.text)
  | .info => .value <$> info receiver
  | _ => do return .value (← call.compute (← receiver.materialize))

/-- Operations that run once for each group of grouped data. -/
def runsPerGroup : Operation → Bool
  | .count | .sum | .avg | .min | .max | .reduce | .fold | .map | .concatMap | .filter
  | .distinct | .pluck | .without | .merge | .orderBy | .skip | .limit | .slice | .nth
  | .isEmpty | .contains | .withFields | .hasFields | .getField | .bracket => true
  | _ => false

/-- The result for one group, under the key of the group. -/
def onGroup (call : Call) : Json → Run Json
  | .array [key, items] => do
    return .array [key, ← (← call.dispatch (.value items)).materialize]
  | group => throw (.notGroup group)

def perGroup (call : Call) (grouped : Json) : Run Datum := do
  match (grouped.field? "data").bind Json.array? with
  | none => throw .groupsMissing
  | some groups =>
    let results ← groups.mapM call.onGroup
    return .value (.ofFields [(tagKey, .string "GROUPED_DATA"), ("data", .array results)])

def method (call : Call) : Run Datum := do
  match ← (← call.arg 0).run with
  | .value receiver =>
    if runsPerGroup call.op && receiver.isGrouped then call.perGroup receiver
    else call.dispatch (.value receiver)
  | receiver => call.dispatch receiver

/-! ### All operations -/

/-- The number of a day in the week or of a month in the year. -/
def calendarNumber (op first : Operation) : Json := .ofNat (op.code - first.code + 1)

def now : Run Json := do Time.ofMoment (← read).now

/-- The call of an operation whose lists are spliced in. -/
def perform (call : Call) : Run Datum :=
  match call.op with
  | .db => call.database
  | .now => .value <$> now
  | .time => do return .value (← Time.ofArguments (← values call.args))
  | .epochTime => do return .value (← Time.ofEpoch (← (← call.arg 0).value))
  | .iso8601 => do
    return .value (← Time.ofIso (← (← call.arg 0).value) (call.option? "default_timezone"))
  | .monday | .tuesday | .wednesday | .thursday | .friday | .saturday | .sunday =>
    return .value (calendarNumber call.op .monday)
  | .january | .february | .march | .april | .may | .june | .july | .august | .september
  | .october | .november | .december => return .value (calendarNumber call.op .january)
  | .minVal | .maxVal => throw (.extremeOutsideBetween call.op)
  | .asc | .desc => throw (.orderingOutsideOrderBy call.op)
  | .literal => .value <$> call.literal
  | .object => .value <$> call.object
  | .range => .value <$> call.range
  | .random => .value <$> call.random
  | .uuid => .value <$> call.identifier
  | .json => .value <$> call.readJson
  | .args => do return .value (← (← call.arg 0).value)
  | .error => call.error
  | .branch => call.branch
  | .funcall => .value <$> call.invoke
  | .and => .value <$> allHold (.bool true) call.args
  | .or => .value <$> someHolds call.args
  | .default => .value <$> call.default
  | .http => throw (.unsupported call.op.name)
  | _ => call.method

def run (call : Call) : Run Datum := do (← call.splice).perform

end DocQuery.Call
