import StateExpr.Calendar.Date
import StateExpr.Number.Dyadic
/-!
# Moments

A reading of calendar and clock.  Read in universal time it is an instant.  During a leap second the
clock stands at the second before it and the nanoseconds run on beyond a billion.

Main definitions: `Moment.timestamp`, `Moment.addSeconds`, `Moment.addMonths`, the units of
`TimeUnit`, and the truncations `startOfDay?`, `startOfHour?` and `startOfMonth?`, which set one part
of the reading after the other.
-/

namespace StateExpr

/-- A day, the second within it and the nanoseconds within that. -/
structure Moment where
  /-- The number of the day. -/
  day : Int
  second : Nat
  nanos : Nat
deriving Repr, DecidableEq

namespace Moment

def date (m : Moment) : Date := Date.ofDayNumber m.day

def hour (m : Moment) : Nat := m.second / 3600

def minute (m : Moment) : Nat := m.second / 60 % 60

/-- Whole seconds since the start of 1970. -/
def timestamp (m : Moment) : Int := m.day * 86400 + m.second

/-- Milliseconds since the start of 1970, those of a leap second counted on. -/
def milliseconds (m : Moment) : Int := m.timestamp * 1000 + (m.nanos / 1000000 : Nat)

/-- The day lies in a year that is kept. -/
def inRange (m : Moment) : Bool :=
  decide (Date.dayNumber ⟨Date.minYear, 1, 1⟩ ≤ m.day
    ∧ m.day ≤ Date.dayNumber ⟨Date.maxYear, 12, 31⟩)

/-- The moment, if its year is kept. -/
def checked (m : Moment) : Option Moment := if m.inRange then some m else none

/-- The moment at a count of seconds, with its nanoseconds. -/
def ofTimestamp (seconds : Int) (nanos : Nat) : Moment :=
  ⟨seconds / 86400, (seconds % 86400).toNat, nanos⟩

/-- The moment at a count of milliseconds. -/
def ofMilliseconds (ms : Int) : Option Moment :=
  (ofTimestamp (ms / 1000) ((ms % 1000).toNat * 1000000)).checked

/-- The clock reading moved by a difference between two clocks, nanoseconds untouched. -/
def moveClock (m : Moment) (seconds : Int) : Moment := ofTimestamp (m.timestamp + seconds) m.nanos

/-- The moment some seconds later, if its year is kept.  Leaving a leap second forward starts at its
own second, leaving it backward starts at the second after. -/
def addSeconds (m : Moment) (seconds : Int) : Option Moment :=
  if m.nanos < 1000000000 ∨ seconds = 0 then (m.moveClock seconds).checked
  else
    let start : Moment := ⟨m.day, m.second, m.nanos - 1000000000⟩
    (start.moveClock (if seconds < 0 then seconds + 1 else seconds)).checked

/-- The moment some months later, at the same time of the day, if its year is kept. -/
def addMonths (m : Moment) (months : Int) : Option Moment :=
  if 2147483648 ≤ months.natAbs then none
  else (⟨(m.date.addMonths months).dayNumber, m.second, m.nanos⟩ : Moment).checked

/-- The same time on another day of the month, if the month has that day. -/
def withDay? (m : Moment) (day : Nat) : Option Moment := do
  let date ← ({ m.date with day } : Date).checked
  (⟨date.dayNumber, m.second, m.nanos⟩ : Moment).checked

/-- The reading with another hour, if it is one of the clock. -/
def withHour? (m : Moment) (hour : Nat) : Option Moment :=
  if hour < 24 then (⟨m.day, hour * 3600 + m.second % 3600, m.nanos⟩ : Moment).checked else none

/-- The reading with another minute, if it is one of the hour. -/
def withMinute? (m : Moment) (minute : Nat) : Option Moment :=
  if minute < 60 then
    (⟨m.day, m.hour * 3600 + minute * 60 + m.second % 60, m.nanos⟩ : Moment).checked
  else none

/-- The reading with another second, if it is one of the minute. -/
def withSecond? (m : Moment) (second : Nat) : Option Moment :=
  if second < 60 then (⟨m.day, m.second / 60 * 60 + second, m.nanos⟩ : Moment).checked else none

/-- The reading with other nanoseconds, those of a leap second included. -/
def withNanosecond? (m : Moment) (nanos : Nat) : Option Moment :=
  if nanos < 2000000000 then (⟨m.day, m.second, nanos⟩ : Moment).checked else none

/-- Cut off what is less than an hour. -/
def startOfHour? (m : Moment) : Option Moment := do
  let m ← m.withMinute? 0
  let m ← m.withSecond? 0
  m.withNanosecond? 0

/-- Cut off what is less than a day. -/
def startOfDay? (m : Moment) : Option Moment := do
  let m ← m.withHour? 0
  let m ← m.withMinute? 0
  let m ← m.withSecond? 0
  m.withNanosecond? 0

/-- Cut off what is less than a month. -/
def startOfMonth? (m : Moment) : Option Moment := do
  let m ← m.withDay? 1
  m.startOfDay?

/-- The first moment of the day. -/
def startOfDay (m : Moment) : Moment := ⟨m.day, 0, 0⟩

/-- The first moment of the hour. -/
def startOfHour (m : Moment) : Moment := ⟨m.day, m.hour * 3600, 0⟩

/-- The first moment of the month. -/
def startOfMonth (m : Moment) : Moment := ⟨({ m.date with day := 1 } : Date).dayNumber, 0, 0⟩

/-- Ticks of 100 nanoseconds from the start of year one to that of 1970. -/
def epochTicks : Int := 621355968000000000

def ticksPerMillisecond : Int := 10000

/-- The ticks since the start of year one, in whole milliseconds, if they fit 64 bits. -/
def ticks? (m : Moment) : Option Int := do
  let sinceEpoch ← fitInt64 (m.milliseconds * ticksPerMillisecond)
  fitInt64 (sinceEpoch + epochTicks)

/-- The moment of a tick; what is less than a millisecond is cut off toward 1970. -/
def ofTicks (ticks : Int) : Option Moment := do
  let sinceEpoch ← fitInt64 (ticks - epochTicks)
  ofMilliseconds (sinceEpoch.tdiv ticksPerMillisecond)

end Moment

/-- Units of time. -/
inductive TimeUnit where
  | second | minute | hour | day | week | month | year
deriving Repr, DecidableEq

namespace TimeUnit

/-- The unit with a name. -/
def ofName? : String → Option TimeUnit
  | "Second" => some second
  | "Minute" => some minute
  | "Hour" => some hour
  | "Day" => some day
  | "Week" => some week
  | "Month" => some month
  | "Year" => some year
  | _ => none

/-- The moment some units later, if its year is kept. -/
def add (unit : TimeUnit) (m : Moment) (amount : Int) : Option Moment :=
  match unit with
  | second => m.addSeconds amount
  | minute => m.addSeconds (amount * 60)
  | hour => m.addSeconds (amount * 3600)
  | day => m.addSeconds (amount * 86400)
  | week => m.addSeconds (amount * 604800)
  | month => m.addMonths amount
  | year => (fitInt64 (amount * 12)).bind m.addMonths

end TimeUnit

end StateExpr
