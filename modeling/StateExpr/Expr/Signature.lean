import StateExpr.Expr.Scope
import StateExpr.Expr.Text
import StateExpr.Regex.Pattern
/-!
# Well-formed expressions

A node is checked against the signature of its evaluator before anything is evaluated: the number of
its children, and their types as far as these are known.  A child of type `object` is only known
when it has been evaluated, and passes.

Main definitions: `Expr.validate` for one node, `Expr.validateTree` for a whole tree, and
`Expr.compile`, which resolves scopes first.
-/

namespace StateExpr

/-- What is wrong with the number of children. -/
inductive CountFault where
  | tooFew (min : Nat)
  | tooMany (max : Nat)
  | notExactly (count : Nat)
  | notBetween (min max : Nat)
  | accessor
  | comprehension

/-- What is wrong with the type of a child. -/
inductive TypeFault where
  | notOf (child : Expr) (type : ReturnType)
  | notAnyOf (child : Expr) (types : List ReturnType)
  | misplaced (child : Expr) (type : ReturnType)
  /-- The instance of a property is no object. -/
  | owner

/-- What is wrong with the shape of a child. -/
inductive ShapeFault where
  /-- The name of a property is no literal text. -/
  | propertyName
  /-- The second child of a comprehension is no name. -/
  | iterator (child : Expr)

/-- Why a node cannot be built. -/
inductive BuildError where
  | count (e : Expr) (fault : CountFault)
  | type (e : Expr) (fault : TypeFault)
  | shape (e : Expr) (fault : ShapeFault)
  | pattern (fault : Regex.PatternFault)
  | unknownFunction (name : String)

namespace BuildError

def countMessage (e : Expr) : CountFault → String
  | .tooFew min => e.display ++ " should have at least " ++ toString min ++ " children."
  | .tooMany max => e.display ++ " can't have more than " ++ toString max ++ " children."
  | .notExactly n => e.display ++ " should have " ++ toString n ++ " children."
  | .notBetween min max =>
    e.display ++ " should have between " ++ toString min ++ " and " ++ toString max ++ " children."
  | .accessor => e.display ++ " has more than 2 children."
  | .comprehension => e.name ++ " expect 3 parameters, found " ++ toString e.children.length

def typeMessage (e : Expr) : TypeFault → String
  | .notOf child expected =>
    child.display ++ " is not a " ++ expected.name ++ " expression in " ++ e.display ++ "."
  | .notAnyOf child types =>
    child.display ++ " in " ++ e.display ++ " is not any of ["
      ++ String.intercalate ", " (types.map ReturnType.name) ++ "]."
  | .misplaced child expected =>
    child.display ++ " in " ++ e.display ++ " is not a " ++ expected.name ++ "."
  | .owner => e.display ++ " must have an object as its second argument."

def shapeMessage (e : Expr) : ShapeFault → String
  | .propertyName => e.display ++ " must have a string as first argument."
  | .iterator child =>
    "Second parameter of " ++ e.name ++ " is not an identifier : " ++ child.display

/-- The error text of a name without a function. -/
def unknownMessage (name : String) : String :=
  name ++ " does not have an evaluator, it's not a built-in function or a customized function"

def message : BuildError → String
  | count e fault => countMessage e fault
  | type e fault => typeMessage e fault
  | shape e fault => shapeMessage e fault
  | pattern fault => fault.message
  | unknownFunction name => unknownMessage name

end BuildError

namespace Expr

/-- The type of the child is unknown or one of some types. -/
def admits (types : List ReturnType) (child : Expr) : Bool :=
  child.returnType == .object || types.contains child.returnType

/-- The children against a range of counts and a choice of types. -/
def checkArity (e : Expr) (min : Nat) (max : Option Nat) (types : List ReturnType) :
    Except BuildError Unit :=
  if e.children.length < min then .error (.count e (.tooFew min))
  else
    match max.filter (· < e.children.length) with
    | some most => .error (.count e (.tooMany most))
    | none =>
      match if types.isEmpty then none else e.children.find? fun c => !admits types c with
      | none => .ok ()
      | some child =>
        .error <| .type e <| match types with
          | [type] => .notOf child type
          | _ => .notAnyOf child types

/-- The children against types by position. -/
def checkOrder (e : Expr) (required optional : List ReturnType) : Except BuildError Unit :=
  let least := required.length
  let most := least + optional.length
  if e.children.length < least || most < e.children.length then
    .error <| .count e <|
      if optional.isEmpty then .notExactly least else .notBetween least most
  else
    match (e.children.zip (required ++ optional)).find? fun (child, type) =>
        type != .object && !admits [type] child with
    | none => .ok ()
    | some (child, type) => .error (.type e (.misplaced child type))

/-- A literal name and perhaps an instance. -/
def checkAccessor (e : Expr) : Except BuildError Unit :=
  if e.propertyName?.isNone then .error (.shape e .propertyName)
  else
    match e.children with
    | [_, owner] => if owner.returnType == .object then .ok () else .error (.type e .owner)
    | _ => if 2 < e.children.length then .error (.count e .accessor) else .ok ()

/-- A collection, a name and a body. -/
def checkComprehension (e : Expr) : Except BuildError Unit :=
  match e.children with
  | [_, iterator, _] =>
    if iterator.iteratorName?.isSome then .ok () else .error (.shape e (.iterator iterator))
  | _ => .error (.count e .comprehension)

/-- Two texts, of which the second is a good pattern if it is a literal. -/
def checkPattern (e : Expr) : Except BuildError Unit := do
  e.checkArity 2 (some 2) [.string]
  match e.children[1]?.bind literalText? with
  | none => pure ()
  | some pattern =>
    match Regex.compile pattern with
    | .ok _ => pure ()
    | .error fault => throw (.pattern fault)

/-- The node against a signature. -/
def checkSignature (e : Expr) : Signature → Except BuildError Unit
  | .arity min max types => e.checkArity min max types
  | .order required optional => e.checkOrder required optional
  | .accessor => e.checkAccessor
  | .comprehension => e.checkComprehension
  | .pattern => e.checkPattern

/-- The node alone against the signature of its evaluator. -/
def validate (e : Expr) : Except BuildError Unit :=
  match e.evaluator.signature with
  | some signature => e.checkSignature signature
  | none => .ok ()

mutual

/-- The node and then everything beneath it, from left to right. -/
def validateTree : Expr → Except BuildError Unit
  | node name evaluator children => do
    validate (node name evaluator children)
    validateAll children

def validateAll : List Expr → Except BuildError Unit
  | [] => .ok ()
  | e :: rest => do
    validateTree e
    validateAll rest

end

/-- The resolved copy of an expression, when all of it is well formed. -/
def compile (e : Expr) : Except BuildError Expr := do
  let resolved := e.resolve
  resolved.validateTree
  pure resolved

end Expr

end StateExpr
