import StateExpr.Eval.Action
/-!
# Assignment along a path

A path is a list of steps from the root of the state.  Assigning creates the maps and lists that are
missing on its way: a step by name makes a map of whatever is no map, a step by index makes a list
of null only, and lists grow by null.
-/

namespace StateExpr

/-- A name of a map or a position of a list. -/
inductive Key where
  | name (name : String)
  | index (index : Nat)
deriving Repr, DecidableEq

/-- A step of a path, with the printed form of what it steps into. -/
structure PathStep where
  key : Key
  owner : String
deriving Repr, DecidableEq

/-- What is found where a further step will be taken: missing containers are made. -/
def Key.prepared (key : Key) (slot : Value) : Value :=
  match key with
  | name _ => if slot.isMap then slot else .map []
  | index _ => if slot.isNull then .list [] else slot

/-- What is found in front of the remaining steps. -/
def preparedFor (rest : List PathStep) (slot : Value) : Value :=
  match rest with
  | [] => slot
  | next :: _ => next.key.prepared slot

/-- A list long enough for a position, filled up with null. -/
def paddedTo (items : List Value) (index : Nat) : List Value :=
  items ++ List.replicate (index + 1 - items.length) .null

/-- A value with another one put in its place at the end of a path, and the error that stopped
it. -/
def Value.assign (new : Value) : List PathStep → Value → Except EvalError Unit × Value
  | [], _ => (.ok (), new)
  | step :: rest, current =>
    match step.key with
    | .name name =>
      let entries := current.asMap?.getD []
      let slot := preparedFor rest ((Entries.get? name entries).getD .null)
      let (result, after) := assign new rest slot
      (result, .map (Entries.insert name after entries))
    | .index index =>
      match current with
      | .list items =>
        let padded := paddedTo items index
        let (result, after) := assign new rest (preparedFor rest (padded.getD index .null))
        (result, .list (padded.set index after))
      | _ => (.error (.reference (step.owner ++ " is not a list.")), current)

/-- Assign into the state. -/
def Action.assign (steps : List PathStep) (new : Value) : Action Value Unit :=
  fun state => new.assign steps state

end StateExpr
