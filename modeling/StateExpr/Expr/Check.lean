import StateExpr.Expr.Text
import StateExpr.Value.Access
import StateExpr.Calendar.Fault
/-!
# Checks on arguments

A check looks at the value of an argument, at the expression that gave it and at its position, and
gives a message when the value does not fit.
-/

namespace StateExpr

namespace Check

/-- The message, unless the value fits. -/
def expect (fits : Bool) (e : Expr) (message : String) : Option String :=
  if fits then none else some (e.display ++ message)

/-- The first item of a list that is no number. -/
def numericListFault? (value : Value) (e : Expr) : Option String :=
  match value with
  | .list items =>
    (items.find? fun v => !v.isNumber).map fun v =>
      v.display ++ " is not a number in " ++ e.display ++ "."
  | _ => some (e.display ++ " is not a list.")

/-- The message of a timestamp that could not be read. -/
def faultOf (reading : Except TimestampFault Moment) : Option String :=
  match reading with
  | .ok _ => none
  | .error fault => some fault.message

/-- Why the value of an argument does not fit. -/
def fault? (check : Check) (value : Value) (e : Expr) (position : Nat) : Option String :=
  let numberFault := expect value.isNumber e " is not a number."
  let listFault := expect value.isList e " is not a list or array."
  let integerFault := expect value.isInteger e " is not a integer."
  let stringFault := expect value.isText e " is not a string."
  let objectFault := expect value.isMap e " is not an object."
  let sequenceFault := expect (value.isList || value.isText) e " is not a list or string."
  match check with
  | number => numberFault
  | numericList => numericListFault? value e
  | numericListOrNumber => if value.isNumber then none else numericListFault? value e
  | container =>
    expect (value.isText || value.isList || value.isMap) e " must be a string or list or map."
  | integer => integerFault
  | list => listFault
  | string => stringFault
  | stringOrNull =>
    expect (value.isText || value.isNull) e " is neither a string nor a null object."
  | numberOrString => expect (value.isNumber || value.isText) e " is not string or number."
  | numberOrStringOrNull =>
    expect (value.isNumber || value.isText || value.isNull) e " is neither a number nor string"
  | boolean => expect value.isBool e " is not a boolean."
  | timestamp =>
    match value with
    | .text s => faultOf (Timestamp.readLenient s)
    | v => some (TimestampFault.unreadable v.display).message
  | isoTimestamp =>
    match value with
    | .text s => faultOf (Timestamp.readIso s)
    | v => some (TimestampFault.notIso v.display).message
  | divisor =>
    numberFault.orElse fun _ =>
      if 0 < position && value.numberOrZero == 0 then
        some ("Cannot divide by 0 from " ++ e.display)
      else none
  | sequence => sequenceFault
  | listThenIntegers => if position = 0 then listFault else integerFault
  | sequenceThenIntegers => if position = 0 then sequenceFault else integerFault
  | object => objectFault
  | objectThenName =>
    if position = 0 then objectFault else if position = 1 then stringFault else none

end Check

end StateExpr
