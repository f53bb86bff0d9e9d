/-!
# Queries of marked-up text

A query is a term over numbers, texts, truth values and sets of nodes.  A location is a starting
point and steps from it; a step goes along an axis, keeps the nodes that pass a test, and keeps of
those the ones that satisfy its predicates, each with the positions that the one before it left.
-/

namespace StateExpr.XPath

/-- The directions of a step. -/
inductive Axis where
  | child | descendant | descendantOrSelf | parent | ancestor | ancestorOrSelf
  | following | followingSibling | preceding | precedingSibling | attr | space | self
deriving Repr, DecidableEq

/-- The axis of a name. -/
def Axis.ofName? (name : String) : Option Axis :=
  match name with
  | "child" => some child
  | "descendant" => some descendant
  | "descendant-or-self" => some descendantOrSelf
  | "parent" => some parent
  | "ancestor" => some ancestor
  | "ancestor-or-self" => some ancestorOrSelf
  | "following" => some following
  | "following-sibling" => some followingSibling
  | "preceding" => some preceding
  | "preceding-sibling" => some precedingSibling
  | "attribute" => some attr
  | "namespace" => some space
  | "self" => some self
  | _ => none

/-- What a step asks of a node.  Names are asked of the nodes of an axis's own kind. -/
inductive Test where
  | node
  | text
  | comment
  | instruction (target : Option String)
  | every
  | name (localPart : String)
  /-- A name in a space.  No space has a qualifier in a query, so this test has no answer. -/
  | qualified (qualifier : String)
deriving Repr, DecidableEq

/-- The operators between two numbers. -/
inductive Arithmetic where
  | plus | minus | times | div | mod
deriving Repr, DecidableEq

/-- The orders between two numbers. -/
inductive Order where
  | less | atMost | greater | atLeast
deriving Repr, DecidableEq

mutual

inductive Term where
  | number (x : Float)
  | text (s : String)
  /-- No variable has a value. -/
  | variable (name : String)
  | call (function : String) (args : List Term)
  | both (a b : Term)
  | either (a b : Term)
  | equal (a b : Term)
  | notEqual (a b : Term)
  | ordered (how : Order) (a b : Term)
  | computed (how : Arithmetic) (a b : Term)
  | negated (a : Term)
  | union (a b : Term)
  /-- The document itself. -/
  | root
  /-- The node at hand. -/
  | here
  | filtered (nodes : Term) (predicate : Term)
  | located (start : Term) (step : Step)

/-- A step of a location. -/
inductive Step where
  | along (axis : Axis) (test : Test) (predicates : List Term)

end

end StateExpr.XPath
