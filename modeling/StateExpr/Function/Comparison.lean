import StateExpr.Function.Arguments
import StateExpr.Value.Order
import StateExpr.Calendar.Reading
/-!
# Comparisons and tests

Two numbers or two texts have an order, nothing else has.  Equality is that of values, some of which
are shared.
-/

namespace StateExpr.Comparison

/-- The order of the first two arguments. -/
def order? (args : List Value) : Option Ordering :=
  match argument args 0, argument args 1 with
  | .number a, .number b => compareNumber? a b
  | .text a, .text b => some (compareText a b)
  | _, _ => none

def lessThan (args : List Value) : Bool := order? args == some .lt

def lessThanOrEqual (args : List Value) : Bool :=
  order? args == some .lt || order? args == some .eq

def greaterThan (args : List Value) : Bool := order? args == some .gt

def greaterThanOrEqual (args : List Value) : Bool :=
  order? args == some .gt || order? args == some .eq

/-- Equality of values.  Two empty lists are equal without a look into them, and so are two empty
maps. -/
def equal (shared : Value → Bool) (args : List Value) : Bool :=
  match argument args 0, argument args 1 with
  | .list [], .list [] => true
  | .map [], .map [] => true
  | v, w => v.beqIn shared w

def notEqual (shared : Value → Bool) (args : List Value) : Bool := !equal shared args

def isPresent (args : List Value) : Bool := !(argument args 0).isNull

def empty (args : List Value) : Bool := (argument args 0).isEmpty

def isTrue (args : List Value) : Bool := (argument args 0).isTrue

def isString (args : List Value) : Bool := (argument args 0).isText

def isInteger (args : List Value) : Bool := (argument args 0).isInteger

/-- A number that is no integer. -/
def isFloat (args : List Value) : Bool :=
  (argument args 0).isNumber && !(argument args 0).isInteger

def isArray (args : List Value) : Bool := (argument args 0).isList

def isObject (args : List Value) : Bool := (argument args 0).isMap

def isBoolean (args : List Value) : Bool := (argument args 0).isBool

/-- A timestamp in its strict form. -/
def isDateTime (args : List Value) : Bool :=
  match argument args 0 with
  | .text s => (Timestamp.iso? s).isSome
  | _ => false

end StateExpr.Comparison
