import StateExpr.Function.Arguments
import StateExpr.Value.Order
/-!
# Collections

Lists as sets, slices, orders and other shapes of lists.
-/

namespace StateExpr.Collection

section Sets

variable (shared : Value → Bool)

/-- The items are in the list, by equality of values. -/
def holds (items : List Value) (v : Value) : Bool := items.any fun w => w.beqIn shared v

/-- The items in order, each once. -/
def distinct (items : List Value) : List Value :=
  items.foldl (fun kept v => if holds shared kept v then kept else kept ++ [v]) []

def union (args : List Value) : Value := .list (distinct shared (args.flatMap Value.items))

/-- The items of the first list that are in all the others. -/
def intersection (args : List Value) : Value :=
  match args with
  | [] => .list []
  | first :: rest =>
    .list (distinct shared
      (first.items.filter fun v => rest.all fun other => holds shared other.items v))

def unique (args : List Value) : Value := .list (distinct shared (argument args 0).items)

end Sets

def skip (args : List Value) : Value :=
  let items := (argument args 0).items
  .list (items.drop (clampedCount (argument args 1) items.length))

/-- The first items of a list or the first characters of a text. -/
def take (args : List Value) : Value :=
  match argument args 0 with
  | .text s =>
    .text (String.ofList (s.toList.take (clampedCount (argument args 1) s.length)))
  | v => .list (v.items.take (clampedCount (argument args 1) v.items.length))

/-- The items in order, by a property when one is named. -/
def sortedItems (args : List Value) : Except String (List Value) :=
  match argument args 0 with
  | .list items =>
    match args[1]?.bind Value.asText? with
    | some name => .ok (Value.sortedBy name items)
    | none => .ok (Value.sorted items)
  | v => .error (v.display ++ " is not array.")

def sortBy (args : List Value) : Except String Value := (sortedItems args).map .list

def sortByDescending (args : List Value) : Except String Value :=
  (sortedItems args).map fun items => .list items.reverse

/-- Each item with its position. -/
def indicesAndValues (args : List Value) : Value :=
  .list ((argument args 0).items.zipIdx.map fun (v, i) =>
    .map [("index", .ofNat i), ("value", v)])

/-- The depth to which lists are flattened when none is given. -/
def defaultDepth : Nat := 100

def flatten (args : List Value) : Value :=
  let depth := match args[1]? with
    | some d => (d.integer?.getD 0).toNat
    | none => defaultDepth
  .list (Value.flattenItems (some depth) (argument args 0).items)

def reverse (args : List Value) : Value :=
  match argument args 0 with
  | .text s => .text (String.ofList s.toList.reverse)
  | v => .list v.items.reverse

/-- A character as a text, null when there is none. -/
def ofChar? (c : Option Char) : Value :=
  match c with
  | some c => .text (String.ofList [c])
  | none => .null

def first (args : List Value) : Value :=
  match argument args 0 with
  | .text s => ofChar? s.toList.head?
  | v => v.items.headD .null

def last (args : List Value) : Value :=
  match argument args 0 with
  | .text s => ofChar? s.toList.getLast?
  | v => v.items.getLastD .null

def createArray (args : List Value) : Value := .list args

end StateExpr.Collection
