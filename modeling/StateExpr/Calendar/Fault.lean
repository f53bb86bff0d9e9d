import StateExpr.Calendar.Reading
/-!
# Faults of timestamps

Reading and writing timestamps, units and formats with the reason when it fails.
-/

namespace StateExpr

/-- Why a timestamp could not be read or written. -/
inductive TimestampFault where
  | unreadable (text : String)
  | notIso (text : String)
  | unknownUnit (name : String)
  | badPattern (pattern : String)
deriving Repr, DecidableEq

def TimestampFault.message : TimestampFault → String
  | unreadable text => text ++ " is not a valid datetime string."
  | notIso text => text ++ " is not a ISO format datetime string."
  | unknownUnit name => name ++ " is not a valid time unit."
  | badPattern pattern => "Format error: " ++ pattern ++ " is not a valid format"

namespace Timestamp

/-- The instant of a text in any of the known ways. -/
def readLenient (text : String) : Except TimestampFault Moment :=
  match lenient? text with
  | some m => .ok m
  | none => .error (.unreadable text)

/-- The instant of a text in the one strict way. -/
def readIso (text : String) : Except TimestampFault Moment :=
  match iso? text with
  | some m => .ok m
  | none => .error (.notIso text)

/-- The unit of time with a name. -/
def readUnit (name : String) : Except TimestampFault TimeUnit :=
  match TimeUnit.ofName? name with
  | some unit => .ok unit
  | none => .error (.unknownUnit name)

/-- A clock reading by a pattern. -/
def write (pattern : String) (stamp : Stamp) : Except TimestampFault String :=
  match Pattern.render? pattern stamp with
  | some text => .ok text
  | none => .error (.badPattern pattern)

/-- A clock reading by a user format, or by a pattern when there is none. -/
def writeAs (format : Option String) (default : String) (stamp : Stamp) :
    Except TimestampFault String :=
  match format with
  | some format => write (UserFormat.toPattern format) stamp
  | none => write default stamp

/-- An instant as messages show it. -/
def shown (m : Moment) : String :=
  (Pattern.render? "%Y-%m-%d %H:%M:%S%.f UTC" (.utc m)).getD ""

end Timestamp

end StateExpr
