import StateExpr.Json.Number
import StateExpr.Value.Order
/-!
# Documents

A document is a value as JSON has it.  Unlike a value it knows of each number whether it is written
as an integer, which shows where documents are compared: `1` and `1.0` are different documents of
the same value.

`Document.ofValue` is the document of a value: keys are in order of their characters, numbers that
are not finite are null, and whole numbers below `2 ^ 53` are integers, so that they have no
negative zero.
-/

namespace StateExpr.Json

/-- A value as JSON has it. -/
inductive Document where
  | null
  | bool (b : Bool)
  | number (n : Numeral)
  | text (s : String)
  | list (items : List Document)
  | map (entries : List (String × Document))

/-- Entries in order of their keys. -/
def sortedByKey {α : Type} (es : List (String × α)) : List (String × α) :=
  es.mergeSort fun a b => compareText a.1 b.1 != .gt

/-- A number as a document holds it. -/
def documentNumber (x : Float) : Document :=
  if !x.isFinite then .null
  else if isWholeNumber x && x.abs < 9007199254740992 then .number (.whole (saturateInt64 x))
  else .number (.real x)

namespace Document

mutual

/-- The document of a value. -/
def ofValue : Value → Document
  | .null => null
  | .bool b => bool b
  | .number x => documentNumber x
  | .text s => text s
  | .list items => list (ofItems items)
  | .map entries => map (sortedByKey (ofEntries entries))

def ofItems : List Value → List Document
  | [] => []
  | v :: rest => ofValue v :: ofItems rest

def ofEntries : List (String × Value) → List (String × Document)
  | [] => []
  | (k, v) :: rest => (k, ofValue v) :: ofEntries rest

end

mutual

/-- The value that a document denotes. -/
def value : Document → Value
  | null => .null
  | bool b => .bool b
  | number n => .number n.toFloat
  | text s => .text s
  | list items => .list (itemValues items)
  | map entries => .map (entryValues entries)

def itemValues : List Document → List Value
  | [] => []
  | d :: rest => value d :: itemValues rest

def entryValues : List (String × Document) → List (String × Value)
  | [] => []
  | (k, d) :: rest => (k, value d) :: entryValues rest

end

mutual

/-- The same document with the keys of all maps in order. -/
def sortKeys : Document → Document
  | list items => list (sortItems items)
  | map entries => map (sortedByKey (sortEntries entries))
  | d => d

def sortItems : List Document → List Document
  | [] => []
  | d :: rest => sortKeys d :: sortItems rest

def sortEntries : List (String × Document) → List (String × Document)
  | [] => []
  | (k, d) :: rest => (k, sortKeys d) :: sortEntries rest

end

mutual

/-- Equality of documents whose keys are in order: numbers are equal if they are written in the
same of the two ways. -/
def beq : Document → Document → Bool
  | null, null => true
  | bool a, bool b => a == b
  | number a, number b => a == b
  | text a, text b => a == b
  | list a, list b => beqItems a b
  | map a, map b => beqEntries a b
  | _, _ => false

def beqItems : List Document → List Document → Bool
  | [], [] => true
  | a :: as, b :: bs => beq a b && beqItems as bs
  | _, _ => false

def beqEntries : List (String × Document) → List (String × Document) → Bool
  | [], [] => true
  | (k, a) :: as, (l, b) :: bs => k == l && beq a b && beqEntries as bs
  | _, _ => false

end

instance : BEq Document := ⟨beq⟩

end Document

end StateExpr.Json
