import StateExpr.Calendar.Moment
/-!
# Patterns for moments

A pattern is a text in which a percent sign starts a specifier.  `Pattern.items?` reads a pattern
and `Pattern.render?` writes a moment through it; both fail on a specifier that does not exist, on
flags where none are allowed, and on a percent sign at the end.
-/

namespace StateExpr

/-- How a number is filled up to its width. -/
inductive Padding where
  | none | zero | blank
deriving Repr, DecidableEq

/-- The numbers of a moment. -/
inductive NumberField where
  | year | century | yearOfCentury | isoYear | isoYearOfCentury | quarter | month | day
  | weekFromSunday | weekFromMonday | isoWeek | weekdayFromSunday | weekdayFromMonday | ordinal
  | hour | hourOfTwelve | minute | second | nanosecond | timestamp
deriving Repr, DecidableEq

/-- How an offset from universal time is written. -/
inductive OffsetStyle where
  | plain | colon | seconds | hours
deriving Repr, DecidableEq

/-- The texts of a moment. -/
inductive TextField where
  | shortMonth | longMonth | shortWeekday | longWeekday | lowerHalf | upperHalf
  /-- A point and as many groups of three digits as are needed. -/
  | fraction
  /-- Three, six or nine digits, with or without a point in front. -/
  | fractionDigits (groups : Nat) (point : Bool)
  | zoneName
  | offset (style : OffsetStyle)
deriving Repr, DecidableEq

/-- A piece of a pattern. -/
inductive PatternItem where
  | literal (c : Char)
  | number (field : NumberField) (padding : Padding)
  | text (field : TextField)
deriving Repr, DecidableEq

namespace Pattern

open PatternItem

/-- Numbers by their letter, with the padding they have without a flag. -/
def numberField? : Char → Option (NumberField × Padding)
  | 'Y' => some (.year, .zero)
  | 'C' => some (.century, .zero)
  | 'y' => some (.yearOfCentury, .zero)
  | 'G' => some (.isoYear, .zero)
  | 'g' => some (.isoYearOfCentury, .zero)
  | 'q' => some (.quarter, .none)
  | 'm' => some (.month, .zero)
  | 'd' => some (.day, .zero)
  | 'e' => some (.day, .blank)
  | 'U' => some (.weekFromSunday, .zero)
  | 'W' => some (.weekFromMonday, .zero)
  | 'V' => some (.isoWeek, .zero)
  | 'w' => some (.weekdayFromSunday, .none)
  | 'u' => some (.weekdayFromMonday, .none)
  | 'j' => some (.ordinal, .zero)
  | 'H' => some (.hour, .zero)
  | 'k' => some (.hour, .blank)
  | 'I' => some (.hourOfTwelve, .zero)
  | 'l' => some (.hourOfTwelve, .blank)
  | 'M' => some (.minute, .zero)
  | 'S' => some (.second, .zero)
  | 'f' => some (.nanosecond, .zero)
  | 's' => some (.timestamp, .none)
  | _ => none

/-- Texts by their letter. -/
def textField? : Char → Option TextField
  | 'A' => some .longWeekday
  | 'a' => some .shortWeekday
  | 'B' => some .longMonth
  | 'b' => some .shortMonth
  | 'h' => some .shortMonth
  | 'P' => some .lowerHalf
  | 'p' => some .upperHalf
  | 'Z' => some .zoneName
  | 'z' => some (.offset .plain)
  | _ => none

def zeroed (field : NumberField) : PatternItem := number field .zero

/-- Hours, minutes and seconds with colons. -/
def clock : List PatternItem :=
  [zeroed .hour, literal ':', zeroed .minute, literal ':', zeroed .second]

/-- Year, month and day with hyphens. -/
def isoDate : List PatternItem :=
  [zeroed .year, literal '-', zeroed .month, literal '-', zeroed .day]

/-- Month, day and year of the century with strokes. -/
def shortDate : List PatternItem :=
  [zeroed .month, literal '/', zeroed .day, literal '/', zeroed .yearOfCentury]

/-- Letters that stand for several pieces. -/
def composite? : Char → Option (List PatternItem)
  | 'D' => some shortDate
  | 'x' => some shortDate
  | 'F' => some isoDate
  | 'R' => some [zeroed .hour, literal ':', zeroed .minute]
  | 'T' => some clock
  | 'X' => some clock
  | 'r' => some ([zeroed .hourOfTwelve, literal ':', zeroed .minute, literal ':', zeroed .second,
      literal ' ', text .upperHalf])
  | 'c' => some ([text .shortWeekday, literal ' ', text .shortMonth, literal ' ',
      number .day .blank, literal ' '] ++ clock ++ [literal ' ', zeroed .year])
  | 'v' => some [number .day .blank, literal '-', text .shortMonth, literal '-', zeroed .year]
  | '+' => some (isoDate ++ [literal 'T'] ++ clock ++ [text .fraction, text (.offset .colon)])
  | 'n' => some [literal '\n']
  | 't' => some [literal '\t']
  | '%' => some [literal '%']
  | _ => none

/-- A specifier behind its percent sign and flag: its pieces and the rest of the pattern. -/
def unflagged? : List Char → Option (List PatternItem × List Char)
  | ':' :: ':' :: ':' :: 'z' :: rest => some ([text (.offset .hours)], rest)
  | ':' :: ':' :: 'z' :: rest => some ([text (.offset .seconds)], rest)
  | ':' :: 'z' :: rest => some ([text (.offset .colon)], rest)
  | '.' :: '3' :: 'f' :: rest => some ([text (.fractionDigits 1 true)], rest)
  | '.' :: '6' :: 'f' :: rest => some ([text (.fractionDigits 2 true)], rest)
  | '.' :: '9' :: 'f' :: rest => some ([text (.fractionDigits 3 true)], rest)
  | '.' :: 'f' :: rest => some ([text .fraction], rest)
  | '3' :: 'f' :: rest => some ([text (.fractionDigits 1 false)], rest)
  | '6' :: 'f' :: rest => some ([text (.fractionDigits 2 false)], rest)
  | '9' :: 'f' :: rest => some ([text (.fractionDigits 3 false)], rest)
  | c :: rest =>
    match numberField? c with
    | some (field, padding) => some ([number field padding], rest)
    | none =>
      match textField? c with
      | some field => some ([text field], rest)
      | none => (composite? c).map fun items => (items, rest)
  | [] => none

/-- Flags and the padding they ask for. -/
def flag? : Char → Option Padding
  | '-' => some .none
  | '0' => some .zero
  | '_' => some .blank
  | _ => none

/-- A specifier behind its percent sign; a flag must be followed by the letter of a number. -/
def specifier? : List Char → Option (List PatternItem × List Char)
  | [] => none
  | c :: rest =>
    match flag? c with
    | none => unflagged? (c :: rest)
    | some padding =>
      match rest with
      | [] => none
      | d :: tail => (numberField? d).map fun f => ([number f.1 padding], tail)

/-- The pieces of a pattern, read with at most `fuel` steps. -/
def itemsFrom? : (fuel : Nat) → List Char → Option (List PatternItem)
  | _, [] => some []
  | 0, _ :: _ => none
  | fuel + 1, '%' :: rest => do
    let (items, tail) ← specifier? rest
    let more ← itemsFrom? fuel tail
    some (items ++ more)
  | fuel + 1, c :: rest => (itemsFrom? fuel rest).map (literal c :: ·)

/-- The pieces of a pattern, if all its specifiers exist. -/
def items? (pattern : String) : Option (List PatternItem) :=
  itemsFrom? pattern.toList.length pattern.toList

end Pattern

/-- A moment with the clock it was read from. -/
structure Stamp where
  moment : Moment
  /-- Seconds by which the clock is ahead of universal time. -/
  offset : Int
  zoneName : String
deriving Repr

namespace Stamp

/-- An instant on the clock of universal time. -/
def utc (m : Moment) : Stamp := ⟨m, 0, "UTC"⟩

end Stamp

def monthNames : List String :=
  ["January", "February", "March", "April", "May", "June", "July", "August", "September",
    "October", "November", "December"]

def weekdayNames : List String :=
  ["Sunday", "Monday", "Tuesday", "Wednesday", "Thursday", "Friday", "Saturday"]

/-- The name of a month by its number. -/
def monthName (month : Nat) : String := monthNames.getD (month - 1) ""

/-- The name of a weekday by its number, Sunday being 0. -/
def weekdayName (weekday : Nat) : String := weekdayNames.getD weekday ""

/-- The first three letters of a name. -/
def shortName (name : String) : String := String.ofList (name.toList.take 3)

/-- A natural number filled up to a width. -/
def padded (width : Nat) (padding : Padding) (n : Nat) : List Char :=
  let digits := Nat.toDigits 10 n
  match padding with
  | .none => digits
  | .zero => List.replicate (width - digits.length) '0' ++ digits
  | .blank => List.replicate (width - digits.length) ' ' ++ digits

/-- An integer with its sign, a plus too, filled up to a width that counts the sign. -/
def paddedSigned (width : Nat) (padding : Padding) (n : Int) : List Char :=
  let sign := if n < 0 then '-' else '+'
  let digits := Nat.toDigits 10 n.natAbs
  match padding with
  | .none => sign :: digits
  | .zero => sign :: List.replicate (width - 1 - digits.length) '0' ++ digits
  | .blank => List.replicate (width - 1 - digits.length) ' ' ++ sign :: digits

/-- A year: four places, and beyond those a sign and five. -/
def yearText (padding : Padding) (year : Int) : List Char :=
  if 0 ≤ year ∧ year ≤ 9999 then padded 4 padding year.toNat else paddedSigned 5 padding year

/-- A number of at most two places; what stands before the last place is one character, even where
it exceeds nine. -/
def twoPlaces (padding : Padding) (n : Nat) : List Char :=
  let last := Char.ofNat (48 + n % 10)
  match n / 10, padding with
  | 0, .none => [last]
  | 0, .blank => [' ', last]
  | tens, _ => [Char.ofNat (48 + tens), last]

/-- The hour on a clock of twelve. -/
def twelveHour (hour : Nat) : Nat := if hour % 12 = 0 then 12 else hour % 12

/-- The centuries of a year on a counter of 256. -/
def centuryCount (year : Int) : Nat := (year / 100 % 256).toNat

/-- A number of a moment. -/
def NumberField.render (field : NumberField) (padding : Padding) (s : Stamp) : List Char :=
  let m := s.moment
  let date := m.date
  match field with
  | .year => yearText padding date.year
  | .century => twoPlaces padding (centuryCount date.year)
  | .yearOfCentury => twoPlaces padding (date.year % 100).toNat
  | .isoYear => yearText padding date.isoWeek.1
  | .isoYearOfCentury => twoPlaces padding (date.isoWeek.1 % 100).toNat
  | .quarter => Nat.toDigits 10 ((date.month - 1) / 3 + 1)
  | .month => twoPlaces padding date.month
  | .day => twoPlaces padding date.day
  | .weekFromSunday => twoPlaces padding (date.weekFrom 0)
  | .weekFromMonday => twoPlaces padding (date.weekFrom 1)
  | .isoWeek => twoPlaces padding date.isoWeek.2
  | .weekdayFromSunday => Nat.toDigits 10 date.weekday
  | .weekdayFromMonday => Nat.toDigits 10 ((date.weekday + 6) % 7 + 1)
  | .ordinal => padded 3 padding date.ordinal
  | .hour => twoPlaces padding m.hour
  | .hourOfTwelve => twoPlaces padding (twelveHour m.hour)
  | .minute => twoPlaces padding m.minute
  | .second => twoPlaces padding (m.second % 60 + m.nanos / 1000000000)
  | .nanosecond => padded 9 padding (m.nanos % 1000000000)
  | .timestamp =>
    let t := m.timestamp - s.offset
    if t < 0 then paddedSigned 9 padding t
    else padded 9 padding t.toNat

/-- A point and the fewest groups of three digits that write the nanoseconds; nothing for none. -/
def fractionText (nanos : Nat) : List Char :=
  if nanos = 0 then []
  else if nanos % 1000000 = 0 then '.' :: padded 3 .zero (nanos / 1000000)
  else if nanos % 1000 = 0 then '.' :: padded 6 .zero (nanos / 1000)
  else '.' :: padded 9 .zero nanos

/-- An offset from universal time. -/
def OffsetStyle.render (style : OffsetStyle) (offset : Int) : List Char :=
  let sign := if offset < 0 then '-' else '+'
  let size := offset.natAbs
  match style with
  | .hours => sign :: twoPlaces .zero (size / 3600)
  | .seconds =>
    sign :: twoPlaces .zero (size / 3600) ++ ':' :: twoPlaces .zero (size / 60 % 60)
      ++ ':' :: twoPlaces .zero (size % 60)
  | .colon =>
    let minutes := (size + 30) / 60
    sign :: twoPlaces .zero (minutes / 60) ++ ':' :: twoPlaces .zero (minutes % 60)
  | .plain =>
    let minutes := (size + 30) / 60
    sign :: twoPlaces .zero (minutes / 60) ++ twoPlaces .zero (minutes % 60)

/-- A text of a moment. -/
def TextField.render (field : TextField) (s : Stamp) : List Char :=
  let m := s.moment
  let nanos := m.nanos % 1000000000
  match field with
  | .shortMonth => (shortName (monthName m.date.month)).toList
  | .longMonth => (monthName m.date.month).toList
  | .shortWeekday => (shortName (weekdayName m.date.weekday)).toList
  | .longWeekday => (weekdayName m.date.weekday).toList
  | .lowerHalf => (if m.hour < 12 then "am" else "pm").toList
  | .upperHalf => (if m.hour < 12 then "AM" else "PM").toList
  | .fraction => fractionText nanos
  | .fractionDigits groups point =>
    let digits := padded (3 * groups) .zero (nanos / Nat.pow 10 (9 - 3 * groups))
    if point then '.' :: digits else digits
  | .zoneName => s.zoneName.toList
  | .offset style => style.render s.offset

def PatternItem.render (s : Stamp) : PatternItem → List Char
  | .literal c => [c]
  | .number field padding => field.render padding s
  | .text field => field.render s

namespace Pattern

/-- A moment through the pieces of a pattern. -/
def renderItems (s : Stamp) (items : List PatternItem) : String :=
  String.ofList (items.flatMap (PatternItem.render s))

/-- A moment through a pattern. -/
def render? (pattern : String) (s : Stamp) : Option String := (items? pattern).map (renderItems s)

end Pattern

end StateExpr
