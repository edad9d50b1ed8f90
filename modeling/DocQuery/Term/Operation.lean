/-! The operations of the query language.

Every operation has a code on the wire, a protocol name, the name of its method in
client libraries, bounds on the number of its arguments and a way of consuming them.
`descriptor` is the one table of these facts; `ofCode?` reads it backward. -/
namespace DocQuery

inductive Operation where
  -- values and variables
  | datum | makeArray | makeObject | var | implicitVar | func | funcall
  -- data-source selection
  | db | table | get | getAll | between | betweenDeprecated | info
  -- sequence transformation
  | filter | map | concatMap | orderBy | asc | desc | skip | limit | slice | nth | offsetsOf
  | isEmpty | union | sample | forEach | withFields
  -- aggregation
  | reduce | fold | count | sum | avg | min | max | distinct | group | ungroup | contains
  -- document manipulation
  | pluck | without | merge | append | prepend | difference | setInsert | setIntersection
  | setUnion | setDifference | getField | bracket | hasFields | insertAt | deleteAt | changeAt
  | spliceAt | keys | values | literal | object
  -- writes
  | insert | update | delete | replace
  -- arithmetic and logic
  | add | sub | mul | div | mod | floor | ceil | round | eq | ne | lt | le | gt | ge | not
  | and | or | random | minVal | maxVal
  -- time
  | now | time | epochTime | iso8601 | inTimezone | timezone | during | date | timeOfDay | year
  | month | day | dayOfWeek | dayOfYear | hours | minutes | seconds | toIso8601 | toEpochTime
  | monday | tuesday | wednesday | thursday | friday | saturday | sunday | january | february
  | march | april | may | june | july | august | september | october | november | december
  -- strings
  | matchText | split | upcase | downcase
  -- control flow and types
  | branch | error | default | range | args | coerceTo | typeOf | json | toJsonString | http
  | uuid
  -- never dispatched
  | javascript | innerJoin | outerJoin | eqJoin | zip | dbCreate | dbDrop | dbList
  | tableCreate | tableDrop | tableList | indexCreate | indexDrop | indexList | indexStatus
  | indexWait | indexRename | sync | config | status | reconfigure | wait | rebalance | grant
  | changes
  deriving DecidableEq, Repr

/-- How an operation consumes its arguments. -/
inductive Consumption where
  /-- It has none. -/
  | nullary
  /-- All are evaluated and handed to the operation together. -/
  | constructor
  /-- The first is the receiver, and the number of the others is fixed. -/
  | fixed
  /-- The first is the receiver, and any number follows. -/
  | variadic
  /-- The first is the receiver, keys follow, and options are taken. -/
  | keyed
  /-- The operation has an evaluation rule of its own. -/
  | special
  /-- The operation is known and never evaluated. -/
  | forbidden
  deriving DecidableEq, Repr

/-- What is known of an operation. No `maxArgs` means that there is no upper bound. -/
structure Descriptor where
  code : Nat
  name : String
  method : String
  minArgs : Nat
  maxArgs : Option Nat
  consumption : Consumption
  deriving DecidableEq, Repr

namespace Operation

def descriptor : Operation → Descriptor
  -- values and variables
  | .datum => ⟨1, "DATUM", "expr", 0, some 1, .special⟩
  | .makeArray => ⟨2, "MAKE_ARRAY", "expr", 0, none, .special⟩
  | .makeObject => ⟨3, "MAKE_OBJ", "expr", 0, some 0, .special⟩
  | .var => ⟨10, "VAR", "var", 1, some 1, .special⟩
  | .implicitVar => ⟨13, "IMPLICIT_VAR", "row", 0, some 0, .special⟩
  | .func => ⟨69, "FUNC", "func", 2, some 2, .special⟩
  | .funcall => ⟨64, "FUNCALL", "do", 1, none, .special⟩
  -- data-source selection
  | .db => ⟨14, "DB", "db", 1, some 1, .special⟩
  | .table => ⟨15, "TABLE", "table", 1, some 2, .special⟩
  | .get => ⟨16, "GET", "get", 2, some 2, .fixed⟩
  | .getAll => ⟨78, "GET_ALL", "getAll", 1, none, .keyed⟩
  | .between => ⟨182, "BETWEEN", "between", 3, some 3, .keyed⟩
  | .betweenDeprecated => ⟨36, "BETWEEN_DEPRECATED", "between", 3, some 3, .keyed⟩
  | .info => ⟨79, "INFO", "info", 1, some 1, .fixed⟩
  -- sequence transformation
  | .filter => ⟨39, "FILTER", "filter", 2, some 2, .keyed⟩
  | .map => ⟨38, "MAP", "map", 2, none, .variadic⟩
  | .concatMap => ⟨40, "CONCAT_MAP", "concatMap", 2, some 2, .fixed⟩
  | .orderBy => ⟨41, "ORDER_BY", "orderBy", 1, none, .keyed⟩
  | .asc => ⟨73, "ASC", "asc", 1, some 1, .constructor⟩
  | .desc => ⟨74, "DESC", "desc", 1, some 1, .constructor⟩
  | .skip => ⟨70, "SKIP", "skip", 2, some 2, .fixed⟩
  | .limit => ⟨71, "LIMIT", "limit", 2, some 2, .fixed⟩
  | .slice => ⟨30, "SLICE", "slice", 2, some 3, .keyed⟩
  | .nth => ⟨45, "NTH", "nth", 2, some 2, .fixed⟩
  | .offsetsOf => ⟨87, "OFFSETS_OF", "offsetsOf", 2, some 2, .fixed⟩
  | .isEmpty => ⟨86, "IS_EMPTY", "isEmpty", 1, some 1, .fixed⟩
  | .union => ⟨44, "UNION", "union", 1, none, .variadic⟩
  | .sample => ⟨81, "SAMPLE", "sample", 2, some 2, .fixed⟩
  | .forEach => ⟨68, "FOR_EACH", "forEach", 2, some 2, .fixed⟩
  | .withFields => ⟨96, "WITH_FIELDS", "withFields", 1, none, .variadic⟩
  -- aggregation
  | .reduce => ⟨37, "REDUCE", "reduce", 2, some 2, .fixed⟩
  | .fold => ⟨187, "FOLD", "fold", 3, some 3, .keyed⟩
  | .count => ⟨43, "COUNT", "count", 1, some 2, .fixed⟩
  | .sum => ⟨145, "SUM", "sum", 1, some 2, .fixed⟩
  | .avg => ⟨146, "AVG", "avg", 1, some 2, .fixed⟩
  | .min => ⟨147, "MIN", "min", 1, some 2, .keyed⟩
  | .max => ⟨148, "MAX", "max", 1, some 2, .keyed⟩
  | .distinct => ⟨42, "DISTINCT", "distinct", 1, some 1, .keyed⟩
  | .group => ⟨144, "GROUP", "group", 1, none, .keyed⟩
  | .ungroup => ⟨150, "UNGROUP", "ungroup", 1, some 1, .fixed⟩
  | .contains => ⟨93, "CONTAINS", "contains", 1, none, .variadic⟩
  -- document manipulation
  | .pluck => ⟨33, "PLUCK", "pluck", 1, none, .variadic⟩
  | .without => ⟨34, "WITHOUT", "without", 1, none, .variadic⟩
  | .merge => ⟨35, "MERGE", "merge", 1, none, .variadic⟩
  | .append => ⟨29, "APPEND", "append", 2, some 2, .fixed⟩
  | .prepend => ⟨80, "PREPEND", "prepend", 2, some 2, .fixed⟩
  | .difference => ⟨95, "DIFFERENCE", "difference", 2, some 2, .fixed⟩
  | .setInsert => ⟨88, "SET_INSERT", "setInsert", 2, some 2, .fixed⟩
  | .setIntersection => ⟨89, "SET_INTERSECTION", "setIntersection", 2, some 2, .fixed⟩
  | .setUnion => ⟨90, "SET_UNION", "setUnion", 2, some 2, .fixed⟩
  | .setDifference => ⟨91, "SET_DIFFERENCE", "setDifference", 2, some 2, .fixed⟩
  | .getField => ⟨31, "GET_FIELD", "getField", 2, some 2, .fixed⟩
  | .bracket => ⟨170, "BRACKET", "bracket", 2, some 2, .fixed⟩
  | .hasFields => ⟨32, "HAS_FIELDS", "hasFields", 1, none, .variadic⟩
  | .insertAt => ⟨82, "INSERT_AT", "insertAt", 3, some 3, .fixed⟩
  | .deleteAt => ⟨83, "DELETE_AT", "deleteAt", 2, some 3, .fixed⟩
  | .changeAt => ⟨84, "CHANGE_AT", "changeAt", 3, some 3, .fixed⟩
  | .spliceAt => ⟨85, "SPLICE_AT", "spliceAt", 3, some 3, .fixed⟩
  | .keys => ⟨94, "KEYS", "keys", 1, some 1, .fixed⟩
  | .values => ⟨186, "VALUES", "values", 1, some 1, .fixed⟩
  | .literal => ⟨137, "LITERAL", "literal", 0, some 1, .constructor⟩
  | .object => ⟨143, "OBJECT", "object", 0, none, .constructor⟩
  -- writes
  | .insert => ⟨56, "INSERT", "insert", 2, some 2, .keyed⟩
  | .update => ⟨53, "UPDATE", "update", 2, some 2, .keyed⟩
  | .delete => ⟨54, "DELETE", "delete", 1, some 1, .keyed⟩
  | .replace => ⟨55, "REPLACE", "replace", 2, some 2, .keyed⟩
  -- arithmetic and logic
  | .add => ⟨24, "ADD", "add", 2, some 2, .fixed⟩
  | .sub => ⟨25, "SUB", "sub", 2, some 2, .fixed⟩
  | .mul => ⟨26, "MUL", "mul", 2, some 2, .fixed⟩
  | .div => ⟨27, "DIV", "div", 2, some 2, .fixed⟩
  | .mod => ⟨28, "MOD", "mod", 2, some 2, .fixed⟩
  | .floor => ⟨183, "FLOOR", "floor", 1, some 1, .fixed⟩
  | .ceil => ⟨184, "CEIL", "ceil", 1, some 1, .fixed⟩
  | .round => ⟨185, "ROUND", "round", 1, some 1, .fixed⟩
  | .eq => ⟨17, "EQ", "eq", 2, none, .variadic⟩
  | .ne => ⟨18, "NE", "ne", 2, none, .variadic⟩
  | .lt => ⟨19, "LT", "lt", 2, none, .variadic⟩
  | .le => ⟨20, "LE", "le", 2, none, .variadic⟩
  | .gt => ⟨21, "GT", "gt", 2, none, .variadic⟩
  | .ge => ⟨22, "GE", "ge", 2, none, .variadic⟩
  | .not => ⟨23, "NOT", "not", 1, some 1, .fixed⟩
  | .and => ⟨67, "AND", "and", 0, none, .variadic⟩
  | .or => ⟨66, "OR", "or", 0, none, .variadic⟩
  | .random => ⟨151, "RANDOM", "random", 0, some 2, .constructor⟩
  | .minVal => ⟨180, "MINVAL", "minval", 0, some 0, .nullary⟩
  | .maxVal => ⟨181, "MAXVAL", "maxval", 0, some 0, .nullary⟩
  -- time
  | .now => ⟨103, "NOW", "now", 0, some 0, .nullary⟩
  | .time => ⟨136, "TIME", "time", 3, some 7, .constructor⟩
  | .epochTime => ⟨101, "EPOCH_TIME", "epochTime", 1, some 1, .constructor⟩
  | .iso8601 => ⟨99, "ISO8601", "ISO8601", 1, some 1, .constructor⟩
  | .inTimezone => ⟨104, "IN_TIMEZONE", "inTimezone", 2, some 2, .fixed⟩
  | .timezone => ⟨127, "TIMEZONE", "timezone", 1, some 1, .fixed⟩
  | .during => ⟨105, "DURING", "during", 3, some 3, .keyed⟩
  | .date => ⟨106, "DATE", "date", 1, some 1, .fixed⟩
  | .timeOfDay => ⟨126, "TIME_OF_DAY", "timeOfDay", 1, some 1, .fixed⟩
  | .year => ⟨128, "YEAR", "year", 1, some 1, .fixed⟩
  | .month => ⟨129, "MONTH", "month", 1, some 1, .fixed⟩
  | .day => ⟨130, "DAY", "day", 1, some 1, .fixed⟩
  | .dayOfWeek => ⟨131, "DAY_OF_WEEK", "dayOfWeek", 1, some 1, .fixed⟩
  | .dayOfYear => ⟨132, "DAY_OF_YEAR", "dayOfYear", 1, some 1, .fixed⟩
  | .hours => ⟨133, "HOURS", "hours", 1, some 1, .fixed⟩
  | .minutes => ⟨134, "MINUTES", "minutes", 1, some 1, .fixed⟩
  | .seconds => ⟨135, "SECONDS", "seconds", 1, some 1, .fixed⟩
  | .toIso8601 => ⟨100, "TO_ISO8601", "toISO8601", 1, some 1, .fixed⟩
  | .toEpochTime => ⟨102, "TO_EPOCH_TIME", "toEpochTime", 1, some 1, .fixed⟩
  | .monday => ⟨107, "MONDAY", "monday", 0, some 0, .nullary⟩
  | .tuesday => ⟨108, "TUESDAY", "tuesday", 0, some 0, .nullary⟩
  | .wednesday => ⟨109, "WEDNESDAY", "wednesday", 0, some 0, .nullary⟩
  | .thursday => ⟨110, "THURSDAY", "thursday", 0, some 0, .nullary⟩
  | .friday => ⟨111, "FRIDAY", "friday", 0, some 0, .nullary⟩
  | .saturday => ⟨112, "SATURDAY", "saturday", 0, some 0, .nullary⟩
  | .sunday => ⟨113, "SUNDAY", "sunday", 0, some 0, .nullary⟩
  | .january => ⟨114, "JANUARY", "january", 0, some 0, .nullary⟩
  | .february => ⟨115, "FEBRUARY", "february", 0, some 0, .nullary⟩
  | .march => ⟨116, "MARCH", "march", 0, some 0, .nullary⟩
  | .april => ⟨117, "APRIL", "april", 0, some 0, .nullary⟩
  | .may => ⟨118, "MAY", "may", 0, some 0, .nullary⟩
  | .june => ⟨119, "JUNE", "june", 0, some 0, .nullary⟩
  | .july => ⟨120, "JULY", "july", 0, some 0, .nullary⟩
  | .august => ⟨121, "AUGUST", "august", 0, some 0, .nullary⟩
  | .september => ⟨122, "SEPTEMBER", "september", 0, some 0, .nullary⟩
  | .october => ⟨123, "OCTOBER", "october", 0, some 0, .nullary⟩
  | .november => ⟨124, "NOVEMBER", "november", 0, some 0, .nullary⟩
  | .december => ⟨125, "DECEMBER", "december", 0, some 0, .nullary⟩
  -- strings
  | .matchText => ⟨97, "MATCH", "match", 2, some 2, .fixed⟩
  | .split => ⟨149, "SPLIT", "split", 1, some 3, .fixed⟩
  | .upcase => ⟨141, "UPCASE", "upcase", 1, some 1, .fixed⟩
  | .downcase => ⟨142, "DOWNCASE", "downcase", 1, some 1, .fixed⟩
  -- control flow and types
  | .branch => ⟨65, "BRANCH", "branch", 3, none, .constructor⟩
  | .error => ⟨12, "ERROR", "error", 0, some 1, .constructor⟩
  | .default => ⟨92, "DEFAULT", "default", 2, some 2, .fixed⟩
  | .range => ⟨173, "RANGE", "range", 0, some 2, .constructor⟩
  | .args => ⟨154, "ARGS", "args", 1, some 1, .constructor⟩
  | .coerceTo => ⟨51, "COERCE_TO", "coerceTo", 2, some 2, .fixed⟩
  | .typeOf => ⟨52, "TYPE_OF", "typeOf", 1, some 1, .fixed⟩
  | .json => ⟨98, "JSON", "json", 1, some 1, .constructor⟩
  | .toJsonString => ⟨172, "TO_JSON_STRING", "toJsonString", 1, some 1, .fixed⟩
  | .http => ⟨153, "HTTP", "http", 1, some 1, .constructor⟩
  | .uuid => ⟨169, "UUID", "uuid", 0, some 1, .constructor⟩
  -- never dispatched
  | .javascript => ⟨11, "JAVASCRIPT", "js", 1, some 1, .forbidden⟩
  | .innerJoin => ⟨48, "INNER_JOIN", "innerJoin", 3, some 3, .forbidden⟩
  | .outerJoin => ⟨49, "OUTER_JOIN", "outerJoin", 3, some 3, .forbidden⟩
  | .eqJoin => ⟨50, "EQ_JOIN", "eqJoin", 3, some 3, .forbidden⟩
  | .zip => ⟨72, "ZIP", "zip", 1, some 1, .forbidden⟩
  | .dbCreate => ⟨57, "DB_CREATE", "dbCreate", 1, some 1, .forbidden⟩
  | .dbDrop => ⟨58, "DB_DROP", "dbDrop", 1, some 1, .forbidden⟩
  | .dbList => ⟨59, "DB_LIST", "dbList", 0, some 0, .forbidden⟩
  | .tableCreate => ⟨60, "TABLE_CREATE", "tableCreate", 1, some 2, .forbidden⟩
  | .tableDrop => ⟨61, "TABLE_DROP", "tableDrop", 1, some 2, .forbidden⟩
  | .tableList => ⟨62, "TABLE_LIST", "tableList", 0, some 1, .forbidden⟩
  | .indexCreate => ⟨75, "INDEX_CREATE", "indexCreate", 2, some 3, .forbidden⟩
  | .indexDrop => ⟨76, "INDEX_DROP", "indexDrop", 2, some 2, .forbidden⟩
  | .indexList => ⟨77, "INDEX_LIST", "indexList", 1, some 1, .forbidden⟩
  | .indexStatus => ⟨139, "INDEX_STATUS", "indexStatus", 1, none, .forbidden⟩
  | .indexWait => ⟨140, "INDEX_WAIT", "indexWait", 1, none, .forbidden⟩
  | .indexRename => ⟨156, "INDEX_RENAME", "indexRename", 3, some 3, .forbidden⟩
  | .sync => ⟨138, "SYNC", "sync", 1, some 1, .forbidden⟩
  | .config => ⟨174, "CONFIG", "config", 1, some 1, .forbidden⟩
  | .status => ⟨175, "STATUS", "status", 1, some 1, .forbidden⟩
  | .reconfigure => ⟨176, "RECONFIGURE", "reconfigure", 1, some 1, .forbidden⟩
  | .wait => ⟨177, "WAIT", "wait", 1, some 1, .forbidden⟩
  | .rebalance => ⟨179, "REBALANCE", "rebalance", 1, some 1, .forbidden⟩
  | .grant => ⟨188, "GRANT", "grant", 2, some 3, .forbidden⟩
  | .changes => ⟨152, "CHANGES", "changes", 1, some 1, .forbidden⟩

/-- Every operation, in the order of the table. -/
def all : List Operation := [
  .datum, .makeArray, .makeObject, .var, .implicitVar, .func, .funcall, .db, .table, .get,
  .getAll, .between, .betweenDeprecated, .info, .filter, .map, .concatMap, .orderBy, .asc,
  .desc, .skip, .limit, .slice, .nth, .offsetsOf, .isEmpty, .union, .sample, .forEach,
  .withFields, .reduce, .fold, .count, .sum, .avg, .min, .max, .distinct, .group, .ungroup,
  .contains, .pluck, .without, .merge, .append, .prepend, .difference, .setInsert,
  .setIntersection, .setUnion, .setDifference, .getField, .bracket, .hasFields, .insertAt,
  .deleteAt, .changeAt, .spliceAt, .keys, .values, .literal, .object, .insert, .update,
  .delete, .replace, .add, .sub, .mul, .div, .mod, .floor, .ceil, .round, .eq, .ne, .lt, .le,
  .gt, .ge, .not, .and, .or, .random, .minVal, .maxVal, .now, .time, .epochTime, .iso8601,
  .inTimezone, .timezone, .during, .date, .timeOfDay, .year, .month, .day, .dayOfWeek,
  .dayOfYear, .hours, .minutes, .seconds, .toIso8601, .toEpochTime, .monday, .tuesday,
  .wednesday, .thursday, .friday, .saturday, .sunday, .january, .february, .march, .april,
  .may, .june, .july, .august, .september, .october, .november, .december, .matchText, .split,
  .upcase, .downcase, .branch, .error, .default, .range, .args, .coerceTo, .typeOf, .json,
  .toJsonString, .http, .uuid, .javascript, .innerJoin, .outerJoin, .eqJoin, .zip, .dbCreate,
  .dbDrop, .dbList, .tableCreate, .tableDrop, .tableList, .indexCreate, .indexDrop, .indexList,
  .indexStatus, .indexWait, .indexRename, .sync, .config, .status, .reconfigure, .wait,
  .rebalance, .grant, .changes]

def code (op : Operation) : Nat := op.descriptor.code

/-- The protocol name. -/
def name (op : Operation) : String := op.descriptor.name

/-- The name of the operation in client libraries. -/
def method (op : Operation) : String := op.descriptor.method

def consumption (op : Operation) : Consumption := op.descriptor.consumption

/-- The operation with a code, if there is one. -/
def ofCode? (code : Nat) : Option Operation := all.find? fun op => op.code == code

theorem ofCode?_code (op : Operation) : ofCode? op.code = some op := by
  cases op <;> decide +kernel

def isForbidden (op : Operation) : Bool := op.consumption == .forbidden

/-- The payload of an array or a variable is data, never a list of argument terms. -/
def keepsPayload (op : Operation) : Bool := op == .makeArray || op == .var

end Operation

namespace Descriptor

/-- The number of arguments is within the bounds. -/
def accepts (d : Descriptor) (count : Nat) : Bool :=
  d.minArgs ≤ count && d.maxArgs.all (count ≤ ·)

/-- A non-empty set of options is allowed. -/
def takesOptions (d : Descriptor) : Bool :=
  d.consumption == .keyed || d.consumption == .constructor || d.consumption == .special

end Descriptor

end DocQuery
