import StateExpr.Expr.Basic
/-!
# Scope resolution

The body of a comprehension runs in a scope that holds the enclosing state under `$global` and the
bound name under `$local`.  `Expr.resolve` replaces every accessor in a body accordingly: a name
bound `k` comprehensions further out is reached by `k` steps to `$global` and one to `$local`, and
any other name by one step to `$global` for each comprehension around it.  Names that already start
at `$global` or `$local` stay as they are.

Main definitions: `Expr.resolve`, `Expr.needsResolution`.
-/

namespace StateExpr

/-- The name under which a scope keeps the enclosing state. -/
def globalName : String := "$global"

/-- The name under which a scope keeps the bound name. -/
def localName : String := "$local"

namespace Expr

/-- That many steps to the enclosing state, one inside the other. -/
def globalSteps : Nat → Option Expr
  | 0 => none
  | n + 1 => some (accessor globalName (globalSteps n))

/-- A name read inside comprehensions that bind the given names, the innermost first. -/
def resolveName (bound : List String) (name : String) : Expr :=
  match bound.findIdx? (· == name) with
  | some steps => accessor name (some (accessor localName (globalSteps steps)))
  | none => accessor name (globalSteps bound.length)

/-- The resolved form of the name that a comprehension binds. -/
def boundName (name : String) : Expr := accessor name (some (accessor localName none))

/-- A comprehension of three children, and the name it binds. -/
def binding? (e : Expr) : Option String :=
  match e.children with
  | [_, iterator, _] => if e.isComprehension then iterator.iteratorName? else none
  | _ => none

/-- A comprehension whose name is still bare. -/
def needsResolution (e : Expr) : Bool :=
  match e.children with
  | [_, iterator, _] =>
    e.isComprehension && iterator.isA .accessor && iterator.children.length == 1
  | _ => false

/-- What becomes of a node that binds no name inside comprehensions, given its resolved children. -/
def resolveNode (bound : List String) (e : Expr) (children : List Expr) : Expr :=
  if e.isA .accessor && !bound.isEmpty then
    match e.propertyName?, e.children, children with
    | some name, [_], _ =>
      if name == globalName || name == localName then e else resolveName bound name
    | some _, [property, _], [_, instance_] => e.withChildren [property, instance_]
    | _, _, _ => e.withChildren children
  else e.withChildren children

mutual

/-- The copy of an expression inside comprehensions that bind the given names. -/
def resolveIn (bound : List String) : Expr → Expr
  | node name evaluator [collection, iterator, body] =>
    let e := node name evaluator [collection, iterator, body]
    match binding? e with
    | some x =>
      e.withChildren [resolveIn bound collection, boundName x, resolveIn (x :: bound) body]
    | none =>
      resolveNode bound e
        [resolveIn bound collection, resolveIn bound iterator, resolveIn bound body]
  | node name evaluator children =>
    resolveNode bound (node name evaluator children) (resolveAll bound children)

def resolveAll (bound : List String) : List Expr → List Expr
  | [] => []
  | e :: rest => resolveIn bound e :: resolveAll bound rest

end

/-- The copy of an expression in which every name is read from its scope. -/
def resolve (e : Expr) : Expr := resolveIn [] e

end Expr

end StateExpr
