import StateExpr.Expr.Signature
import StateExpr.Function.Builtin
import StateExpr.Unicode.Casing
/-!
# The function table

A table gives evaluators by name.  The exact name is tried first, then the name that its form in
lower case stands for, which is the first name registered with that form.  A name that is registered
again gets the new evaluator and keeps its form.  The built-in table holds every operator under its
canonical name, and some of them under an alias as well.

Main definitions: `FunctionTable.builtin`, `FunctionTable.register`, `FunctionTable.lookup`, and
`Expr.make`, which builds a validated node by name.
-/

namespace StateExpr

/-- Alternative spellings of operators. -/
def aliases : List (String × Operator) :=
  [("add", .add), ("mul", .multiply), ("div", .divide), ("sub", .subtract), ("exp", .power),
    ("mod", .mod), ("and", .and), ("equals", .equal), ("greater", .greaterThan),
    ("greaterOrEquals", .greaterThanOrEqual), ("less", .lessThan),
    ("lessOrEquals", .lessThanOrEqual), ("not", .not), ("or", .or), ("concat", .concat)]

/-- An evaluator under a name.  `entry` is shared by the names that were registered together for one
evaluator. -/
structure Registration where
  name : String
  entry : Nat
  evaluator : Evaluator

/-- Registrations in the order in which their names were first used, and the name that each form in
lower case stands for. -/
structure FunctionTable where
  registrations : List Registration
  folded : List (String × String)

namespace FunctionTable

/-- The registration of exactly this name. -/
def find? (table : FunctionTable) (name : String) : Option Registration :=
  table.registrations.find? fun r => r.name == name

/-- The name that a form in lower case stands for. -/
def nameOf? (table : FunctionTable) (form : String) : Option String := table.folded.lookup form

/-- A number that no entry has yet. -/
def freshEntry (table : FunctionTable) : Nat :=
  table.registrations.foldl (fun n r => max n (r.entry + 1)) 0

/-- A registration in the place of the one with its name, or behind all others. -/
def placed (new : Registration) : List Registration → List Registration
  | [] => [new]
  | r :: rest => if r.name = new.name then new :: rest else r :: placed new rest

/-- The forms in lower case with that of a name, which stands for it unless there is one
already. -/
def foldedWith (table : FunctionTable) (name : String) : List (String × String) :=
  match table.nameOf? (lowerCase name) with
  | some _ => table.folded
  | none => table.folded ++ [(lowerCase name, name)]

/-- Put a registration into the table. -/
def put (table : FunctionTable) (new : Registration) : FunctionTable :=
  ⟨placed new table.registrations, table.foldedWith new.name⟩

/-- Register an evaluator under a name. -/
def register (table : FunctionTable) (name : String) (evaluator : Evaluator) : FunctionTable :=
  table.put ⟨name, table.freshEntry, evaluator⟩

/-- Register the evaluator of a name under another name as well. -/
def registerAlias (table : FunctionTable) (spelling name : String) : FunctionTable :=
  match table.find? name with
  | some r => table.put ⟨spelling, r.entry, r.evaluator⟩
  | none => table

/-- Register evaluators under names, one after the other. -/
def registerAll (table : FunctionTable) (added : List (String × Evaluator)) : FunctionTable :=
  added.foldl (fun table (name, evaluator) => table.register name evaluator) table

/-- Every operator, and the aliases. -/
def builtin (ambient : Ambient) : FunctionTable :=
  let operators := Operator.all.map fun op => (op.name, op.evaluator ambient)
  aliases.foldl (fun table (spelling, op) => table.registerAlias spelling op.name)
    (registerAll ⟨[], []⟩ operators)

/-- The registration that a name stands for: its own, or else that of the name which its form in
lower case stands for. -/
def resolve? (table : FunctionTable) (name : String) : Option Registration :=
  (table.find? name).orElse fun _ => (table.nameOf? (lowerCase name)).bind table.find?

/-- The evaluator that a name stands for. -/
def lookup (table : FunctionTable) (name : String) : Except BuildError Evaluator :=
  match table.resolve? name with
  | some r => .ok r.evaluator
  | none => .error (.unknownFunction name)

/-- A name stands for something. -/
def contains (table : FunctionTable) (name : String) : Bool := (table.resolve? name).isSome

/-- The evaluator under the name of an operator, or else the operator's own. -/
def get (table : FunctionTable) (ambient : Ambient) (op : Operator) : Evaluator :=
  match table.find? op.name with
  | some r => r.evaluator
  | none => op.evaluator ambient

/-- The registered names. -/
def names (table : FunctionTable) : List String := table.registrations.map Registration.name

/-- A name shares its entry with the canonical name of its evaluator. -/
def sharesCanonical (table : FunctionTable) (r : Registration) : Bool :=
  (table.find? r.evaluator.name).any fun canonical => canonical.entry == r.entry

end FunctionTable

namespace Expr

/-- A node of a name with a given evaluator, if it is well formed. -/
def makeWith (name : String) (evaluator : Evaluator) (children : List Expr) :
    Except BuildError Expr := do
  let e := node name evaluator children
  e.validate
  pure e

/-- A node of a name of a table, if it is well formed. -/
def make (table : FunctionTable) (name : String) (children : List Expr) :
    Except BuildError Expr := do
  makeWith name (← table.lookup name) children

end Expr

end StateExpr
