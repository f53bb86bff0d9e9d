import StateExpr.Calendar.UserFormat
import StateExpr.Expr.Basic
import StateExpr.Function.Arithmetic
import StateExpr.Function.Chance
import StateExpr.Function.Collection
import StateExpr.Function.Comparison
import StateExpr.Function.Conversion
import StateExpr.Function.Object
import StateExpr.Function.Query
import StateExpr.Function.Text
import StateExpr.Function.Time
import StateExpr.Function.Uri
/-!
# The built-in functions

`Operator.evaluator` gives every operator its behaviour: how it computes, the type of its value, the
shape of its children and the check on its arguments.
-/

namespace StateExpr

namespace Signature

/-- Any number of children from one on. -/
def atLeastOne : Signature := arity 1 none []

/-- So many children of any type. -/
def exactly (count : Nat) : Signature := arity count (some count) []

/-- So many children, each of a type that is known to be allowed. -/
def exactlyOf (count : Nat) (types : List ReturnType) : Signature := arity count (some count) types

end Signature

namespace Operator

open Signature (atLeastOne exactly exactlyOf order)

/-- A function of checked arguments. -/
def applying (op : Operator) (f : List Value → Value) (type : ReturnType) (signature : Signature)
    (check : Option Check) : Evaluator :=
  ⟨op.name, .apply f check, type, some signature⟩

/-- A function of checked arguments that can fail. -/
def trying (op : Operator) (f : List Value → Except String Value) (type : ReturnType)
    (signature : Signature) (check : Option Check) : Evaluator :=
  ⟨op.name, .applyWithError f check, type, some signature⟩

/-- A test of checked arguments. -/
def testing (op : Operator) (f : List Value → Bool) (signature : Signature)
    (check : Option Check) : Evaluator :=
  ⟨op.name, .comparison f check, .boolean, some signature⟩

/-- A special form. -/
def forming (op : Operator) (form : Form) (type : ReturnType) (signature : Signature) :
    Evaluator :=
  ⟨op.name, .special form, type, some signature⟩

/-- A fold over two or more numbers. -/
def folding (op : Operator) (f : Value → Value → Value) (check : Check) : Evaluator :=
  ⟨op.name, .sequence f (some check), .number, some (.arity 2 none [.number])⟩

/-- An order of two numbers or two texts. -/
def relating (op : Operator) (f : List Value → Bool) : Evaluator :=
  op.testing f (exactlyOf 2 [.number, .string]) (some .numberOrString)

/-- A test of one value of any kind. -/
def examining (op : Operator) (f : List Value → Bool) : Evaluator := op.testing f (exactly 1) none

/-- A function of one number. -/
def ofNumber (op : Operator) (f : List Value → Value) : Evaluator :=
  op.applying f .number (exactlyOf 1 [.number]) (some .number)

/-- A text from one text or null. -/
def ofText (op : Operator) (f : List Value → Value) : Evaluator :=
  op.applying f .string (exactlyOf 1 [.string]) (some .stringOrNull)

/-- A text through a codec. -/
def encoding (op : Operator) (f : String → String) : Evaluator :=
  op.applying (Conversion.encoded f) .string (exactly 1) (some .string)

/-- A text through a codec that may refuse it. -/
def decoding (op : Operator) (f : String → Except Codec.Fault String) : Evaluator :=
  op.trying (Conversion.decoded f) .string (exactly 1) (some .string)

/-- A part of a strict timestamp. -/
def ofTimestamp (op : Operator) (f : List Value → Except String Value) (type : ReturnType) :
    Evaluator :=
  op.trying f type (exactlyOf 1 [.string]) (some .string)

/-- The start of something around a strict timestamp, perhaps in a format. -/
def starting (op : Operator) (f : Moment → Option Moment) : Evaluator :=
  op.trying (Time.startOf f) .string (order [.string] [.string]) (some .string)

/-- Ticks as a number of longer units. -/
def ofTicks (op : Operator) (ticksPerUnit : Int) : Evaluator :=
  op.applying (Time.ticksTo ticksPerUnit) .number (exactlyOf 1 [.number]) (some .integer)

/-- A part of an address. -/
def ofUri (op : Operator) (f : Url → String) : Evaluator :=
  op.trying (Uri.part f) .string (exactlyOf 1 [.string]) (some .string)

/-- What an operator does. -/
def evaluator (ambient : Ambient) (op : Operator) : Evaluator :=
  match op with
  | add => op.folding Arithmetic.add .number
  | subtract => op.folding Arithmetic.subtract .number
  | multiply => op.folding Arithmetic.multiply .number
  | divide => op.folding Arithmetic.divide .divisor
  | min => op.trying Arithmetic.minimum .number atLeastOne (some .numericListOrNumber)
  | max => op.trying Arithmetic.maximum .number atLeastOne (some .numericListOrNumber)
  | power => op.folding Arithmetic.power .number
  | mod => op.trying Arithmetic.remainder .number (exactlyOf 2 [.number]) (some .integer)
  | average => op.trying Arithmetic.average .number (exactly 1) (some .numericList)
  | sum => op.applying Arithmetic.sum .number (exactly 1) (some .numericList)
  | count => op.applying Arithmetic.count .number (exactly 1) (some .container)
  | range => op.trying Arithmetic.range .object (exactlyOf 2 [.number]) (some .integer)
  | floor => op.ofNumber Arithmetic.floor
  | ceiling => op.ofNumber Arithmetic.ceiling
  | round => op.trying Arithmetic.round .number (order [.number] [.number]) (some .number)
  | abs => op.ofNumber Arithmetic.absolute
  | sqrt => op.trying Arithmetic.squareRoot .number (exactlyOf 1 [.number]) (some .number)
  | lessThan => op.relating Comparison.lessThan
  | lessThanOrEqual => op.relating Comparison.lessThanOrEqual
  | equal => op.testing (Comparison.equal ambient.shared) (exactly 2) none
  | notEqual => op.testing (Comparison.notEqual ambient.shared) (exactly 2) none
  | greaterThan => op.relating Comparison.greaterThan
  | greaterThanOrEqual => op.relating Comparison.greaterThanOrEqual
  | isPresent => op.examining Comparison.isPresent
  | contains => op.forming (.contains (Value.beqIn ambient.shared)) .boolean (exactly 2)
  | empty => op.examining Comparison.empty
  | and => op.forming .and .boolean atLeastOne
  | or => op.forming .or .boolean atLeastOne
  | not => op.forming .not .boolean (exactly 1)
  | concat =>
    op.applying Texts.concat .string (.arity 1 none [.string, .number]) (some .numberOrStringOrNull)
  | length => op.applying Texts.length .number (exactlyOf 1 [.string]) (some .stringOrNull)
  | replace => op.trying Texts.replace .string (exactlyOf 3 [.string]) (some .stringOrNull)
  | replaceIgnoreCase =>
    op.trying Texts.replaceIgnoreCase .string (exactlyOf 3 [.string]) (some .stringOrNull)
  | split => op.applying Texts.split .object (.arity 1 (some 2) [.string]) (some .stringOrNull)
  | substring => op.forming .substring .string (order [.string, .number] [.number])
  | toLower => op.ofText Texts.toLower
  | toUpper => op.ofText Texts.toUpper
  | trim => op.ofText Texts.trim
  | join => op.forming .join .string (order [.object, .string] [.string])
  | endsWith => op.applying Texts.endsWith .boolean (exactlyOf 2 [.string]) (some .stringOrNull)
  | startsWith => op.applying Texts.startsWith .boolean (exactlyOf 2 [.string]) (some .stringOrNull)
  | countWord => op.applying Texts.countWord .number (exactlyOf 1 [.string]) (some .stringOrNull)
  | addOrdinal => op.applying Texts.addOrdinal .string (exactlyOf 1 [.number]) (some .integer)
  | newGuid => op.applying (Texts.newGuid ambient) .string (exactly 0) none
  | indexOf => op.trying (Texts.indexOf ambient.shared) .number (exactly 2) none
  | lastIndexOf => op.trying (Texts.lastIndexOf ambient.shared) .number (exactly 2) none
  | eol => op.applying Texts.eol .string (exactly 0) none
  | sentenceCase => op.ofText Texts.sentenceCase
  | titleCase => op.ofText Texts.titleCase
  | formatNumber => op.trying Texts.formatNumber .string (order [.number, .number] [.string]) none
  | addDays => .timeTransform op.name TimeUnit.day.add
  | addHours => .timeTransform op.name TimeUnit.hour.add
  | addMinutes => .timeTransform op.name TimeUnit.minute.add
  | addSeconds => .timeTransform op.name TimeUnit.second.add
  | dayOfMonth => op.ofTimestamp (Time.part fun m => m.date.day) .number
  | dayOfWeek => op.ofTimestamp (Time.part fun m => m.date.weekday) .number
  | dayOfYear => op.ofTimestamp (Time.part fun m => m.date.ordinal) .number
  | month => op.ofTimestamp (Time.part fun m => m.date.month) .number
  | date => op.ofTimestamp Time.date .string
  | year => op.ofTimestamp (Time.part fun m => m.date.year) .number
  | utcNow => op.trying (Time.utcNow ambient) .string (order [] [.string]) (some .string)
  | formatDateTime => op.trying Time.formatDateTime .string (order [.object] [.string]) none
  | formatEpoch => op.trying Time.formatEpoch .string (order [.number] [.string]) none
  | formatTicks => op.trying Time.formatTicks .string (order [.number] [.string]) none
  | subtractFromTime =>
    op.forming (.shiftTime false UserFormat.isoPattern) .string
      (order [.string, .number, .string] [.string])
  | dateReadBack => op.trying Time.readBack .string (order [.string, .string] []) (some .string)
  | getTimeOfDay => op.ofTimestamp Time.timeOfDay .string
  | getFutureTime =>
    op.forming (.shiftNow ambient.now true) .string (order [.number, .string] [.string])
  | getPastTime =>
    op.forming (.shiftNow ambient.now false) .string (order [.number, .string] [.string])
  | convertFromUtc =>
    op.forming (.convertFromUtc ambient.zones) .string (order [.string, .string] [.string])
  | convertToUtc =>
    op.forming (.convertToUtc ambient.zones) .string (order [.string, .string] [.string])
  | addToTime =>
    op.forming (.shiftTime true UserFormat.defaultPattern) .string
      (order [.string, .number, .string] [.string])
  | startOfDay => op.starting Moment.startOfDay?
  | startOfHour => op.starting Moment.startOfHour?
  | startOfMonth => op.starting Moment.startOfMonth?
  | ticks => op.ofTimestamp Time.ticks .number
  | ticksToDays => op.ofTicks Time.ticksPerDay
  | ticksToHours => op.ofTicks Time.ticksPerHour
  | ticksToMinutes => op.ofTicks Time.ticksPerMinute
  | dateTimeDiff =>
    op.trying Time.difference .number (order [.string, .string] []) (some .timestamp)
  | float => op.trying Conversion.float .number (exactly 1) none
  | int => op.trying Conversion.int .number (exactly 1) none
  | string => op.applying Conversion.string .string (exactly 1) none
  | bool => op.examining Comparison.isTrue
  | binary => op.encoding Codec.binary
  | base64 => op.encoding Base64.encode
  | base64ToBinary => op.encoding Codec.binary
  | base64ToString => op.decoding Codec.base64Decode
  | dataUri => op.encoding Codec.dataUriEncode
  | dataUriToBinary => op.encoding Codec.binary
  | dataUriToString => op.decoding Codec.dataUriDecode
  | uriComponent => op.encoding Percent.encode
  | uriComponentToString => op.decoding Codec.uriComponentDecode
  | jsonStringify =>
    op.trying (fun args => .ok (Conversion.jsonStringify args)) .string (exactly 1) none
  | accessor => .accessor
  | element => op.forming .element .object (exactly 2)
  | createArray => op.applying Collection.createArray .object (.arity 0 none []) none
  | array => op.applying Collection.createArray .object (exactly 1) (some .string)
  | first => op.applying Collection.first .object (exactly 1) none
  | last => op.applying Collection.last .object (exactly 1) none
  | foreach => op.forming .foreach .object .comprehension
  | select => op.forming .foreach .object .comprehension
  | filter => op.forming .filter .object .comprehension
  | anyOf => op.forming (.quantified .anyItem) .boolean .comprehension
  | allOf => op.forming (.quantified .allItems) .boolean .comprehension
  | union => op.applying (Collection.union ambient.shared) .object atLeastOne (some .list)
  | intersection =>
    op.applying (Collection.intersection ambient.shared) .object atLeastOne (some .list)
  | skip =>
    op.applying Collection.skip .object (order [.object, .number] []) (some .listThenIntegers)
  | take =>
    op.applying Collection.take .object (order [.object, .number] []) (some .sequenceThenIntegers)
  | subArray => op.forming .subArray .object (order [.object, .number] [.number])
  | sortBy => op.trying Collection.sortBy .object (order [.object] [.string]) none
  | sortByDescending =>
    op.trying Collection.sortByDescending .object (order [.object] [.string]) none
  | indicesAndValues => op.applying Collection.indicesAndValues .object (exactly 1) (some .list)
  | flatten =>
    op.applying Collection.flatten .object (order [.object] [.number]) (some .listThenIntegers)
  | unique => op.applying (Collection.unique ambient.shared) .object (exactly 1) (some .list)
  | reverse => op.applying Collection.reverse .object (exactly 1) (some .sequence)
  | constant => .constant .null
  | lambda => .lambda fun _ => .error "Lambda has no body."
  | ifElse => op.forming .ifElse .object (exactly 3)
  | rand => op.trying (Chance.rand ambient) .number (exactlyOf 2 [.number]) (some .integer)
  | json => op.trying Conversion.json .object (exactlyOf 1 [.string]) (some .string)
  | addProperty =>
    op.trying Object.addProperty .object (order [.object, .string, .object] [])
      (some .objectThenName)
  | removeProperty =>
    op.applying Object.removeProperty .object (order [.object, .string] []) (some .objectThenName)
  | setProperty =>
    op.applying Object.setProperty .object (order [.object, .string, .object] [])
      (some .objectThenName)
  | getProperty => op.forming .getProperty .object (order [.object] [.string])
  | coalesce => op.applying Object.coalesce .object atLeastOne none
  | jPath => op.trying Query.jPath .object (order [.object, .string] []) none
  | setPathToValue => op.forming .setPathToValue .object (exactly 2)
  | merge => op.applying Object.merge .object atLeastOne (some .object)
  | simpleEntity => op.applying Object.simpleEntity .object (exactly 1) none
  | callstack => op.forming .callstack .object (exactly 1)
  | isString => op.examining Comparison.isString
  | isInteger => op.examining Comparison.isInteger
  | isFloat => op.examining Comparison.isFloat
  | isArray => op.examining Comparison.isArray
  | isObject => op.examining Comparison.isObject
  | isBoolean => op.examining Comparison.isBoolean
  | isDateTime => op.examining Comparison.isDateTime
  | xml => op.trying Query.xml .string (exactly 1) none
  | xPath => op.trying Query.xPath .object (order [.string, .string] []) (some .string)
  | uriHost => op.ofUri Url.hostText
  | uriPath => op.ofUri Url.pathText
  | uriPathAndQuery => op.ofUri Url.pathAndQueryText
  | uriPort => op.ofUri Url.portText
  | uriQuery => op.ofUri Url.queryText
  | uriScheme => op.ofUri Url.scheme
  | isMatch => op.trying Texts.isMatch .boolean .pattern (some .stringOrNull)

end Operator

end StateExpr
