import StateExpr.Value.Text
/-!
# Reading and editing containers

Properties are found under their exact name first and then under the first name that differs only
in the case of ASCII letters.  What is not there reads as null; only an index outside its list, or
an index into a value that is no list, is a fault.
-/

namespace StateExpr

/-- Two names that differ at most in the case of ASCII letters. -/
def sameIgnoringCase (a b : String) : Bool := a.toList.map Char.toLower == b.toList.map Char.toLower

/-- The value of a property among entries, by exact name first. -/
def Entries.property (es : Entries) (name : String) : Value :=
  match Entries.get? name es with
  | some v => v
  | none =>
    match es.find? (fun e => sameIgnoringCase e.1 name) with
    | some e => e.2
    | none => .null

namespace Value

/-- The value of a property; only maps have any. -/
def property (v : Value) (name : String) : Value :=
  match v with
  | map entries => Entries.property entries name
  | _ => null

/-- Why an index gives nothing. -/
inductive IndexFault where
  | outOfRange (index : Int) (container : Value)
  | notACollection (container : Value)

def IndexFault.message : IndexFault → String
  | outOfRange index container => toString index ++ " is out of range for " ++ container.display
  | notACollection container => container.display ++ " is not a collection."

/-- The item at a position of a list; null has null at every position. -/
def item (v : Value) (index : Int) : Except IndexFault Value :=
  match v with
  | null => .ok null
  | list items =>
    if index < 0 then .error (.outOfRange index v)
    else match items[index.toNat]? with
      | some found => .ok found
      | none => .error (.outOfRange index v)
  | _ => .error (.notACollection v)

/-- A copy with a property set; what is no map is taken for an empty one. -/
def setProperty (v : Value) (name : String) (new : Value) : Value :=
  match v with
  | map entries => map (Entries.insert name new entries)
  | _ => map [(name, new)]

/-- A copy without a property. -/
def removeProperty (v : Value) (name : String) : Value :=
  match v with
  | map entries => map (Entries.erase name entries)
  | _ => v

mutual

/-- Replace nested lists by their items, `depth` levels down; no depth means all levels. -/
def flattenItem (depth : Option Nat) : Value → List Value
  | list items =>
    match depth with
    | some 0 => [list items]
    | some (n + 1) => flattenItems (some n) items
    | none => flattenItems none items
  | v => [v]

/-- The flattened items, one after the other. -/
def flattenItems (depth : Option Nat) : List Value → List Value
  | [] => []
  | v :: rest => flattenItem depth v ++ flattenItems depth rest

end

/-- The 64-bit integer that a value is, when it is a whole number within that range. -/
def integer? : Value → Option Int
  | number x => int64Value? x
  | _ => none

/-- A finite number without a fractional part. -/
def isInteger : Value → Bool
  | number x => isWholeNumber x
  | _ => false

/-- The number of an integer. -/
def ofInt (n : Int) : Value := number (numberOfInt n)

/-- The number of a count. -/
def ofNat (n : Nat) : Value := ofInt n

end Value

end StateExpr
