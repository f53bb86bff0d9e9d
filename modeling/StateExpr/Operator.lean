/-!
# The operators of the language

The fixed vocabulary of operators and functions, with the canonical spelling of each.  Aliases are
no operators of their own; they are registered beside them in the function table.

Main statements: `ofName?_name` and `name_injective`, that the spelling determines the operator.
-/

namespace StateExpr

/-- An operator or a built-in function. -/
inductive Operator where
  -- arithmetic
  | add | subtract | multiply | divide | min | max | power | mod | average | sum | count
  | range | floor | ceiling | round | abs | sqrt
  -- comparison
  | lessThan | lessThanOrEqual | equal | notEqual | greaterThan | greaterThanOrEqual | isPresent
  | contains | empty
  -- logic
  | and | or | not
  -- text
  | concat | length | replace | replaceIgnoreCase | split | substring | toLower | toUpper
  | trim | join | endsWith | startsWith | countWord | addOrdinal | newGuid | indexOf
  | lastIndexOf | eol | sentenceCase | titleCase | formatNumber
  -- time
  | addDays | addHours | addMinutes | addSeconds | dayOfMonth | dayOfWeek | dayOfYear | month
  | date | year | utcNow | formatDateTime | formatEpoch | formatTicks | subtractFromTime
  | dateReadBack | getTimeOfDay | getFutureTime | getPastTime | convertFromUtc | convertToUtc
  | addToTime | startOfDay | startOfHour | startOfMonth | ticks | ticksToDays | ticksToHours
  | ticksToMinutes | dateTimeDiff
  -- conversion
  | float | int | string | bool | binary | base64 | base64ToBinary | base64ToString | dataUri
  | dataUriToBinary | dataUriToString | uriComponent | uriComponentToString | jsonStringify
  -- access and collections
  | accessor | element | createArray | array | first | last | foreach | select | filter | anyOf
  | allOf | union | intersection | skip | take | subArray | sortBy | sortByDescending
  | indicesAndValues | flatten | unique | reverse
  -- objects and others
  | constant | lambda | ifElse | rand | json | addProperty | removeProperty | setProperty
  | getProperty | coalesce | jPath | setPathToValue | merge | simpleEntity | callstack
  -- type tests
  | isString | isInteger | isFloat | isArray | isObject | isBoolean | isDateTime
  -- XML
  | xml | xPath
  -- addresses
  | uriHost | uriPath | uriPathAndQuery | uriPort | uriQuery | uriScheme
  -- patterns
  | isMatch
deriving Repr, DecidableEq

namespace Operator

/-- Every operator, in order. -/
def all : List Operator :=
  [.add, .subtract, .multiply, .divide, .min, .max, .power, .mod, .average, .sum, .count,
    .range, .floor, .ceiling, .round, .abs, .sqrt, .lessThan, .lessThanOrEqual, .equal,
    .notEqual, .greaterThan, .greaterThanOrEqual, .isPresent, .contains, .empty, .and, .or,
    .not, .concat, .length, .replace, .replaceIgnoreCase, .split, .substring, .toLower,
    .toUpper, .trim, .join, .endsWith, .startsWith, .countWord, .addOrdinal, .newGuid,
    .indexOf, .lastIndexOf, .eol, .sentenceCase, .titleCase, .formatNumber, .addDays,
    .addHours, .addMinutes, .addSeconds, .dayOfMonth, .dayOfWeek, .dayOfYear, .month, .date,
    .year, .utcNow, .formatDateTime, .formatEpoch, .formatTicks, .subtractFromTime,
    .dateReadBack, .getTimeOfDay, .getFutureTime, .getPastTime, .convertFromUtc,
    .convertToUtc, .addToTime, .startOfDay, .startOfHour, .startOfMonth, .ticks,
    .ticksToDays, .ticksToHours, .ticksToMinutes, .dateTimeDiff, .float, .int, .string,
    .bool, .binary, .base64, .base64ToBinary, .base64ToString, .dataUri, .dataUriToBinary,
    .dataUriToString, .uriComponent, .uriComponentToString, .jsonStringify, .accessor,
    .element, .createArray, .array, .first, .last, .foreach, .select, .filter, .anyOf, .allOf,
    .union, .intersection, .skip, .take, .subArray, .sortBy, .sortByDescending,
    .indicesAndValues, .flatten, .unique, .reverse, .constant, .lambda, .ifElse, .rand,
    .json, .addProperty, .removeProperty, .setProperty, .getProperty, .coalesce, .jPath,
    .setPathToValue, .merge, .simpleEntity, .callstack, .isString, .isInteger, .isFloat,
    .isArray, .isObject, .isBoolean, .isDateTime, .xml, .xPath, .uriHost, .uriPath,
    .uriPathAndQuery, .uriPort, .uriQuery, .uriScheme, .isMatch]

/-- The canonical spelling. -/
def name : Operator → String
  | add => "+"
  | subtract => "-"
  | multiply => "*"
  | divide => "/"
  | min => "min"
  | max => "max"
  | power => "^"
  | mod => "%"
  | average => "average"
  | sum => "sum"
  | count => "count"
  | range => "range"
  | floor => "floor"
  | ceiling => "ceiling"
  | round => "round"
  | abs => "abs"
  | sqrt => "sqrt"
  | lessThan => "<"
  | lessThanOrEqual => "<="
  | equal => "=="
  | notEqual => "!="
  | greaterThan => ">"
  | greaterThanOrEqual => ">="
  | isPresent => "exists"
  | contains => "contains"
  | empty => "empty"
  | and => "&&"
  | or => "||"
  | not => "!"
  | concat => "&"
  | length => "length"
  | replace => "replace"
  | replaceIgnoreCase => "replaceIgnoreCase"
  | split => "split"
  | substring => "substring"
  | toLower => "toLower"
  | toUpper => "toUpper"
  | trim => "trim"
  | join => "join"
  | endsWith => "endsWith"
  | startsWith => "startsWith"
  | countWord => "countWord"
  | addOrdinal => "addOrdinal"
  | newGuid => "newGuid"
  | indexOf => "indexOf"
  | lastIndexOf => "lastIndexOf"
  | eol => "EOL"
  | sentenceCase => "sentenceCase"
  | titleCase => "titleCase"
  | formatNumber => "formatNumber"
  | addDays => "addDays"
  | addHours => "addHours"
  | addMinutes => "addMinutes"
  | addSeconds => "addSeconds"
  | dayOfMonth => "dayOfMonth"
  | dayOfWeek => "dayOfWeek"
  | dayOfYear => "dayOfYear"
  | month => "month"
  | date => "date"
  | year => "year"
  | utcNow => "utcNow"
  | formatDateTime => "formatDateTime"
  | formatEpoch => "formatEpoch"
  | formatTicks => "formatTicks"
  | subtractFromTime => "subtractFromTime"
  | dateReadBack => "dateReadBack"
  | getTimeOfDay => "getTimeOfDay"
  | getFutureTime => "getFutureTime"
  | getPastTime => "getPastTime"
  | convertFromUtc => "convertFromUTC"
  | convertToUtc => "convertToUTC"
  | addToTime => "addToTime"
  | startOfDay => "startOfDay"
  | startOfHour => "startOfHour"
  | startOfMonth => "startOfMonth"
  | ticks => "ticks"
  | ticksToDays => "ticksToDays"
  | ticksToHours => "ticksToHours"
  | ticksToMinutes => "ticksToMinutes"
  | dateTimeDiff => "dateTimeDiff"
  | float => "float"
  | int => "int"
  | string => "string"
  | bool => "bool"
  | binary => "binary"
  | base64 => "base64"
  | base64ToBinary => "base64ToBinary"
  | base64ToString => "base64ToString"
  | dataUri => "dataUri"
  | dataUriToBinary => "dataUriToBinary"
  | dataUriToString => "dataUriToString"
  | uriComponent => "uriComponent"
  | uriComponentToString => "uriComponentToString"
  | jsonStringify => "jsonStringify"
  | accessor => "Accessor"
  | element => "Element"
  | createArray => "createArray"
  | array => "array"
  | first => "first"
  | last => "last"
  | foreach => "foreach"
  | select => "select"
  | filter => "where"
  | anyOf => "any"
  | allOf => "all"
  | union => "union"
  | intersection => "intersection"
  | skip => "skip"
  | take => "take"
  | subArray => "subArray"
  | sortBy => "sortBy"
  | sortByDescending => "sortByDescending"
  | indicesAndValues => "indicesAndValues"
  | flatten => "flatten"
  | unique => "unique"
  | reverse => "reverse"
  | constant => "Constant"
  | lambda => "Lambda"
  | ifElse => "if"
  | rand => "rand"
  | json => "json"
  | addProperty => "addProperty"
  | removeProperty => "removeProperty"
  | setProperty => "setProperty"
  | getProperty => "getProperty"
  | coalesce => "coalesce"
  | jPath => "jPath"
  | setPathToValue => "setPathToValue"
  | merge => "merge"
  | simpleEntity => "simpleEntity"
  | callstack => "callstack"
  | isString => "isString"
  | isInteger => "isInteger"
  | isFloat => "isFloat"
  | isArray => "isArray"
  | isObject => "isObject"
  | isBoolean => "isBoolean"
  | isDateTime => "isDateTime"
  | xml => "xml"
  | xPath => "xPath"
  | uriHost => "uriHost"
  | uriPath => "uriPath"
  | uriPathAndQuery => "uriPathAndQuery"
  | uriPort => "uriPort"
  | uriQuery => "uriQuery"
  | uriScheme => "uriScheme"
  | isMatch => "isMatch"

/-- The operator with a canonical spelling. -/
def ofName? (s : String) : Option Operator := all.find? fun op => op.name == s

theorem mem_all (op : Operator) : op ∈ all := by
  have h : all[op.ctorIdx]? = some op := by cases op <;> rfl
  exact List.mem_of_getElem? h

theorem ofName?_name (op : Operator) : ofName? op.name = some op := by
  have h : ∀ op ∈ all, ofName? op.name = some op := by decide +kernel
  exact h op (mem_all op)

theorem name_injective {a b : Operator} (h : a.name = b.name) : a = b :=
  Option.some.inj (by rw [← ofName?_name a, h, ofName?_name b])

/-- The operators that bind a name over their third child. -/
def isComprehension : Operator → Bool
  | foreach | select | filter | anyOf | allOf => true
  | _ => false

end Operator

end StateExpr
