import StateExpr.Calendar.Pattern
/-!
# Dates in words

A date told relative to another one, and the part of the day of a clock reading.
-/

namespace StateExpr.Speech

/-- The ending of a day of the month, by its last digit alone. -/
def dayEnding (day : Nat) : String :=
  match day % 10 with
  | 1 => "st"
  | 2 => "nd"
  | 3 => "rd"
  | _ => "th"

/-- A date in full. -/
def fullDate (date : Date) : String :=
  toString date.day ++ dayEnding date.day ++ " " ++ monthName date.month ++ " "
    ++ toString date.year

/-- A date as someone would call it on the reference date: a day next to it, a weekday of the weeks
around it, which start on Sunday, or the date in full. -/
def readBack (reference date : Date) : String :=
  let days := date.dayNumber - reference.dayNumber
  let inWeek := days + reference.weekday
  let weekday := weekdayName date.weekday
  if days = 0 then "today"
  else if days = 1 then "tomorrow"
  else if days = -1 then "yesterday"
  else if 0 ≤ inWeek ∧ inWeek ≤ 6 then "this " ++ weekday
  else if 7 ≤ inWeek ∧ inWeek ≤ 13 then "next " ++ weekday
  else if -7 ≤ inWeek ∧ inWeek ≤ -1 then "last " ++ weekday
  else fullDate date

/-- The part of the day of a clock reading. -/
def timeOfDay (hour minute : Nat) : String :=
  let clock := hour * 100 + minute
  if clock = 0 then "midnight"
  else if clock < 1200 then "morning"
  else if clock = 1200 then "noon"
  else if clock < 1800 then "afternoon"
  else if clock ≤ 2200 then "evening"
  else "night"

end StateExpr.Speech
