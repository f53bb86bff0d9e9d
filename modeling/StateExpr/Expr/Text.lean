import StateExpr.Expr.Basic
import StateExpr.Value.Text
import StateExpr.Unicode.Property
/-!
# Printed expressions

Literal texts stand in single quotes, property chains have points, and index access has brackets.
An operator whose name does not start with a letter stands between its operands when it has at
least two; every other node is a call.
-/

namespace StateExpr.Expr

/-- A literal as it is printed. -/
def literalDisplay : Value → String
  | .text s => "'" ++ s ++ "'"
  | v => v.display

/-- The name stands between operands. -/
def standsBetween (name : String) (operands : Nat) : Bool :=
  (name.toList.head?.any fun c => !isAlphabetic c) && decide (2 ≤ operands)

/-- A node as an operator or a call over its printed children. -/
def callDisplay (name : String) (texts : List String) : String :=
  if standsBetween name texts.length then
    "(" ++ String.intercalate (" " ++ name ++ " ") texts ++ ")"
  else name ++ "(" ++ String.intercalate ", " texts ++ ")"

/-- A node over its printed children. -/
def nodeDisplay (e : Expr) (texts : List String) : String :=
  match e.constant? with
  | some v => literalDisplay v
  | none =>
    if e.isA .accessor then
      match e.propertyName?, texts with
      | some property, [_] => property
      | some property, [_, owner] => owner ++ "." ++ property
      | _, _ => callDisplay e.name texts
    else if e.isA .element then
      match texts with
      | [owner, index] => owner ++ "[" ++ index ++ "]"
      | _ => callDisplay e.name texts
    else callDisplay e.name texts

mutual

/-- The printed form of an expression. -/
def display : Expr → String
  | node name evaluator children =>
    nodeDisplay (node name evaluator children) (displayAll children)

def displayAll : List Expr → List String
  | [] => []
  | e :: rest => display e :: displayAll rest

end

/-- The printed form of a child; nothing for a child that is not there. -/
def childDisplay (e : Expr) (index : Nat) : String :=
  match e.children[index]? with
  | some child => child.display
  | none => ""

end StateExpr.Expr
