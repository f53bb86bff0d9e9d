import StateExpr.Function.Arguments
import StateExpr.Function.Ambient
import StateExpr.Calendar.Fault
import StateExpr.Calendar.Speech
/-!
# Functions of time

Parts of timestamps, formats, truncations and ticks.  Most of them take timestamps in the strict
form only.
-/

namespace StateExpr.Time

/-- The message of a fault in place of the fault. -/
def withMessage {α : Type} (result : Except TimestampFault α) : Except String α :=
  result.mapError TimestampFault.message

/-- The instant of an argument in the strict form. -/
def iso (args : List Value) (position : Nat) : Except String Moment :=
  withMessage (Timestamp.readIso (argument args position).textOrEmpty)

/-- The instant of an argument in any form. -/
def lenient (args : List Value) (position : Nat) : Except String Moment :=
  withMessage (Timestamp.readLenient (argument args position).textOrEmpty)

/-- A clock reading by the user format at a position, or by a pattern. -/
def render (args : List Value) (position : Nat) (default : String) (stamp : Stamp) :
    Except String Value :=
  (withMessage (Timestamp.writeAs (args[position]?.bind Value.asText?) default stamp)).map .text

/-- A part of a timestamp as a number. -/
def part (f : Moment → Int) (args : List Value) : Except String Value :=
  (iso args 0).map fun m => .ofInt (f m)

/-- A date as month, day and year. -/
def date (args : List Value) : Except String Value := do
  let d := (← iso args 0).date
  pure (.text (toString d.month ++ "/" ++ toString d.day ++ "/" ++ toString d.year))

def timeOfDay (args : List Value) : Except String Value := do
  let m ← iso args 0
  pure (.text (Speech.timeOfDay m.hour m.minute))

/-- What is said of a moment or a number outside the range that is kept. -/
def outOfRange (shown : String) : String := shown ++ " is out of the datetime range."

def ticks (args : List Value) : Except String Value := do
  let m ← iso args 0
  match m.ticks? with
  | some n => pure (.ofInt n)
  | none => throw (outOfRange (Timestamp.shown m))

def readBack (args : List Value) : Except String Value := do
  let reference ← iso args 0
  let target ← iso args 1
  pure (.text (Speech.readBack reference.date target.date))

def utcNow (ambient : Ambient) (args : List Value) : Except String Value :=
  render args 0 UserFormat.isoPattern (.utc ambient.now)

/-- The moment of a number of seconds, to the millisecond. -/
def ofSeconds (seconds : Float) : Except String Moment :=
  match Moment.ofMilliseconds (saturateInt64 (roundedAway (seconds * 1000))) with
  | some m => .ok m
  | none => .error (outOfRange (positionalText seconds))

/-- A timestamp in any form, or a number of seconds, in a user format. -/
def formatDateTime (args : List Value) : Except String Value := do
  let m ← match argument args 0 with
    | .number seconds => ofSeconds seconds
    | .text _ => lenient args 0
    | v => throw (TimestampFault.unreadable v.display).message
  render args 1 UserFormat.isoPattern (.utc m)

def formatEpoch (args : List Value) : Except String Value := do
  let m ← match argument args 0 with
    | .number seconds => ofSeconds seconds
    | v => throw (v.display ++ " is not a number.")
  render args 1 UserFormat.isoPattern (.utc m)

def formatTicks (args : List Value) : Except String Value := do
  match (argument args 0).integer? with
  | none => throw ((argument args 0).display ++ " is not a integer.")
  | some ticks =>
    match Moment.ofTicks ticks with
    | none => throw (outOfRange (toString ticks))
    | some m => render args 1 UserFormat.isoPattern (.utc m)

/-- A moment moved to the start of something. -/
def startOf (f : Moment → Option Moment) (args : List Value) : Except String Value := do
  let m ← iso args 0
  match f m with
  | some truncated => render args 1 UserFormat.defaultPattern (.utc truncated)
  | none => throw ((argument args 0).display ++ " cannot be truncated.")

/-- Ticks as a number of longer units. -/
def ticksTo (ticksPerUnit : Int) (args : List Value) : Value :=
  .number ((argument args 0).numberOrZero / numberOfInt ticksPerUnit)

def ticksPerMinute : Int := 600000000

def ticksPerHour : Int := 60 * ticksPerMinute

def ticksPerDay : Int := 24 * ticksPerHour

/-- The ticks from the second timestamp to the first. -/
def difference (args : List Value) : Except String Value := do
  let first ← lenient args 0
  let second ← lenient args 1
  match first.ticks?, second.ticks? with
  | some a, some b =>
    match fitInt64 (a - b) with
    | some n => pure (.ofInt n)
    | none => throw (tooFar first second)
  | _, _ => throw (tooFar first second)
where
  tooFar (first second : Moment) : String :=
    outOfRange <| "The difference between " ++ Timestamp.shown first ++ " and "
      ++ Timestamp.shown second

end StateExpr.Time
