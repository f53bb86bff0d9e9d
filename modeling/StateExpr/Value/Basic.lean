/-!
# Values

The data that expressions read and give: null, booleans, numbers, texts, lists and maps.  A map
keeps its entries in the order in which the keys were first set, and two maps are equal when they
hold equal values under the same keys, in whatever order.

Values carry no identity.  Where it shows that two of them are one object, in an equality with NaN
in it, the values that are shared are given from outside.

Main definitions: `Value`, `Entries.get?`, `Entries.insert`, `Entries.erase` and the equality
`Value.beqIn`, in which NaN differs from itself.
-/

namespace StateExpr

/-- A value.  Null also stands for what is absent. -/
inductive Value where
  | null
  | bool (b : Bool)
  | number (x : Float)
  | text (s : String)
  | list (items : List Value)
  | map (entries : List (String × Value))
deriving Inhabited

/-- Keys with their values, in the order in which the keys were first set. -/
abbrev Entries := List (String × Value)

namespace Entries

variable {α : Type}

/-- The value under a key. -/
def get? (key : String) : List (String × α) → Option α
  | [] => none
  | (k, v) :: rest => if k = key then some v else get? key rest

/-- Set the value under a key: in place when the key is there, else behind all others. -/
def insert (key : String) (value : α) : List (String × α) → List (String × α)
  | [] => [(key, value)]
  | (k, v) :: rest => if k = key then (k, value) :: rest else (k, v) :: insert key value rest

/-- Remove a key, keeping the order of the others. -/
def erase (key : String) : List (String × α) → List (String × α)
  | [] => []
  | (k, v) :: rest => if k = key then rest else (k, v) :: erase key rest

/-- Set all pairs in turn, starting from no entries. -/
def ofList (pairs : List (String × α)) : List (String × α) :=
  pairs.foldl (fun entries p => insert p.1 p.2 entries) []

@[simp] theorem get?_nil (key : String) : get? key ([] : List (String × α)) = none := rfl

theorem get?_insert_self (key : String) (value : α) (es : List (String × α)) :
    get? key (insert key value es) = some value := by
  induction es with
  | nil => simp [insert, get?]
  | cons e rest ih => obtain ⟨k, v⟩ := e; by_cases h : k = key <;> simp [insert, get?, h, ih]

theorem get?_insert_of_ne {key other : String} (h : other ≠ key) (value : α)
    (es : List (String × α)) : get? other (insert key value es) = get? other es := by
  induction es with
  | nil => simp [insert, get?, Ne.symm h]
  | cons e rest ih =>
    obtain ⟨k, v⟩ := e
    by_cases hk : k = key
    · subst hk; simp [insert, get?, Ne.symm h]
    · by_cases ho : k = other <;> simp [insert, get?, hk, ho, ih, h]

end Entries

namespace Value

/-- The name of a value's kind. -/
def kind : Value → String
  | null => "null"
  | bool _ => "boolean"
  | number _ => "number"
  | text _ => "string"
  | list _ => "list"
  | map _ => "map"

def isNull : Value → Bool
  | null => true
  | _ => false

def isBool : Value → Bool
  | bool _ => true
  | _ => false

def isNumber : Value → Bool
  | number _ => true
  | _ => false

def isText : Value → Bool
  | text _ => true
  | _ => false

def isList : Value → Bool
  | list _ => true
  | _ => false

def isMap : Value → Bool
  | map _ => true
  | _ => false

def asNumber? : Value → Option Float
  | number x => some x
  | _ => none

def asText? : Value → Option String
  | text s => some s
  | _ => none

def asList? : Value → Option (List Value)
  | list items => some items
  | _ => none

def asMap? : Value → Option Entries
  | map entries => some entries
  | _ => none

/-- The items of a list; any other value has none. -/
def items : Value → List Value
  | list items => items
  | _ => []

/-- The text of a text; any other value has the empty one. -/
def textOrEmpty : Value → String
  | text s => s
  | _ => ""

/-- The number of a number; any other value counts as zero. -/
def numberOrZero : Value → Float
  | number x => x
  | _ => 0

/-- Logical truth: booleans are themselves, null is false and all else is true. -/
def isTrue : Value → Bool
  | bool b => b
  | null => false
  | _ => true

/-- Null, the empty text, the empty list and the empty map. -/
def isEmpty : Value → Bool
  | null => true
  | text s => s.isEmpty
  | list items => items.isEmpty
  | map entries => entries.isEmpty
  | _ => false

/-- A list as it is, nothing for null, and any other value alone. -/
def toList : Value → List Value
  | list items => items
  | null => []
  | v => [v]

mutual

/-- The very same value: equal piece by piece, NaN and the order of entries included. -/
def identical : Value → Value → Bool
  | null, null => true
  | bool a, bool b => a == b
  | number a, number b => a.toBits == b.toBits
  | text a, text b => a == b
  | list a, list b => identicalItems a b
  | map a, map b => identicalEntries a b
  | _, _ => false

def identicalItems : List Value → List Value → Bool
  | [], [] => true
  | a :: as, b :: bs => identical a b && identicalItems as bs
  | _, _ => false

def identicalEntries : List (String × Value) → List (String × Value) → Bool
  | [], [] => true
  | (k, a) :: as, (l, b) :: bs => k == l && identical a b && identicalEntries as bs
  | _, _ => false

end

mutual

/-- Equality of values: numbers as numbers, so that NaN differs from itself and the two zeros are
one, and maps by their keys, whatever the order.  A list or map that is shared is one object
wherever it is met, and so is equal to itself without a look into it, even where it holds NaN. -/
def beqIn (shared : Value → Bool) : Value → Value → Bool
  | null, null => true
  | bool a, bool b => a == b
  | number a, number b => a == b
  | text a, text b => a == b
  | list a, list b => shared (list a) && identicalItems a b || beqItemsIn shared a b
  | map a, map b =>
    shared (map a) && identicalEntries a b || a.length == b.length && subsumedIn shared a b
  | _, _ => false

/-- Equal items in the same places. -/
def beqItemsIn (shared : Value → Bool) : List Value → List Value → Bool
  | [], [] => true
  | a :: as, b :: bs => beqIn shared a b && beqItemsIn shared as bs
  | _, _ => false

/-- Each key of the first entries holds an equal value in the second. -/
def subsumedIn (shared : Value → Bool) : List (String × Value) → List (String × Value) → Bool
  | [], _ => true
  | (k, v) :: rest, other =>
    (match Entries.get? k other with
      | some w => beqIn shared v w
      | none => false) && subsumedIn shared rest other

end

/-- Equality of values that share nothing. -/
instance : BEq Value := ⟨beqIn fun _ => false⟩

mutual

/-- A value and all values that stand in it. -/
def parts : Value → List Value
  | list items => list items :: itemParts items
  | map entries => map entries :: entryParts entries
  | v => [v]

def itemParts : List Value → List Value
  | [] => []
  | v :: rest => parts v ++ itemParts rest

def entryParts : List (String × Value) → List Value
  | [] => []
  | (_, v) :: rest => parts v ++ entryParts rest

end

/-- A value stands at one place of another and at no second one. -/
def standsOnce (whole v : Value) : Bool := (whole.parts.filter (identical v)).length == 1

end Value

end StateExpr
