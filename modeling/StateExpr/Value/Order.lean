import StateExpr.Value.Access
/-!
# Sorting values

Values are ordered by kind, from null over booleans, numbers, texts and lists to maps, and within
booleans, numbers and texts by their own order.  Lists are not told apart from each other, nor are
maps, nor is NaN from any number.
-/

namespace StateExpr

/-- Order of texts by their characters. -/
def compareText (a b : String) : Ordering :=
  if a < b then .lt else if b < a then .gt else .eq

/-- Order of numbers; NaN has none. -/
def compareNumber? (a b : Float) : Option Ordering :=
  if a < b then some .lt else if b < a then some .gt else if a == b then some .eq else none

namespace Value

/-- The place of a value's kind in the order. -/
def rank : Value → Nat
  | null => 0
  | bool _ => 1
  | number _ => 2
  | text _ => 3
  | list _ => 4
  | map _ => 5

/-- The order of two values for sorting. -/
def compare : Value → Value → Ordering
  | number a, number b => (compareNumber? a b).getD .eq
  | text a, text b => compareText a b
  | bool a, bool b => Ord.compare a.toNat b.toNat
  | a, b => Ord.compare a.rank b.rank

/-- `a` need not stand behind `b`. -/
def notAfter (a b : Value) : Bool := a.compare b != .gt

/-- The items in order, equal ones as they stood. -/
def sorted (items : List Value) : List Value := items.mergeSort notAfter

/-- The items in the order of one of their properties, equal ones as they stood. -/
def sortedBy (name : String) (items : List Value) : List Value :=
  items.mergeSort fun a b => notAfter (a.property name) (b.property name)

end Value

end StateExpr
