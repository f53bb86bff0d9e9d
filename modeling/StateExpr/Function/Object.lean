import StateExpr.Function.Arguments
/-!
# Objects

Copies of maps with other properties, and a choice among values.
-/

namespace StateExpr.Object

/-- A copy with a property that was not there. -/
def addProperty (args : List Value) : Except String Value :=
  let name := (argument args 1).textOrEmpty
  match argument args 0 with
  | .map entries =>
    if (Entries.get? name entries).isSome then .error (name ++ " already exists")
    else .ok (.map (Entries.insert name (argument args 2) entries))
  | v => .ok (v.setProperty name (argument args 2))

def setProperty (args : List Value) : Value :=
  (argument args 0).setProperty (argument args 1).textOrEmpty (argument args 2)

def removeProperty (args : List Value) : Value :=
  (argument args 0).removeProperty (argument args 1).textOrEmpty

/-- The first argument that is not null. -/
def coalesce (args : List Value) : Value := (args.find? fun v => !v.isNull).getD .null

/-- The entries of all maps; a later one wins. -/
def merge (args : List Value) : Value :=
  .map (Entries.ofList (args.flatMap fun v => v.asMap?.getD []))

mutual

/-- A list of one item stands for the item, at any depth. -/
def soleItem : Value → Value
  | .list items => soleOf items
  | v => v

/-- What a list with these items stands for. -/
def soleOf : List Value → Value
  | [v] => soleItem v
  | items => .list items

end

def simpleEntity (args : List Value) : Value := soleItem (argument args 0)

end StateExpr.Object
