import StateExpr.Function.Arguments
import StateExpr.Function.Ambient
/-!
# Chance

A random integer of a range.
-/

namespace StateExpr.Chance

/-- An integer from the first argument on and below the second; the first itself when the two are
equal. -/
def rand (ambient : Ambient) (args : List Value) : Except String Value :=
  let low := (argument args 0).integer?.getD 0
  let high := (argument args 1).integer?.getD 0
  if high < low then
    .error ("Min value " ++ toString low ++ " cannot be greater than max value " ++ toString high
      ++ ".")
  else if low = high then .ok (.ofInt low)
  else .ok (.ofInt (low + ambient.entropy % (high - low)))

end StateExpr.Chance
