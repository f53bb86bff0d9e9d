import StateExpr.Operator
import StateExpr.Value.Basic
import StateExpr.Calendar.Moment
import StateExpr.Zone.Basic
/-!
# Expression trees

A node has the name it was built with, which may be an alias, the evaluator that gives it its
behaviour, and its children.  An evaluator is plain data: what its children must look like, how
arguments are checked when they have been evaluated, and how the value comes about.

Main definitions: `Expr`, `Evaluator`, `Strategy`, `Signature`, `Check`, and the equalities
`Expr.same` and `Expr.sameShared`.
-/

namespace StateExpr

/-- What is known of a node's value before evaluation; `object` may turn out to be anything. -/
inductive ReturnType where
  | boolean | number | object | string
deriving Repr, DecidableEq

namespace ReturnType

/-- The type of a literal. -/
def ofValue : Value → ReturnType
  | .text _ => string
  | .number _ => number
  | .bool _ => boolean
  | _ => object

def name : ReturnType → String
  | boolean => "boolean"
  | number => "number"
  | object => "object"
  | string => "string"

end ReturnType

/-- What the children of a node must look like. -/
inductive Signature where
  /-- So many children, each of one of the types when any are given. -/
  | arity (min : Nat) (max : Option Nat) (types : List ReturnType)
  /-- Children of given types by position, the optional ones last. -/
  | order (required optional : List ReturnType)
  /-- A literal name and perhaps an instance. -/
  | accessor
  /-- A collection, a bare name or its resolved form, and a body. -/
  | comprehension
  /-- Two texts, the second a pattern that must be well formed when it is a literal. -/
  | pattern
deriving Repr, DecidableEq

/-- What the value of an argument must be. -/
inductive Check where
  | number | numericList | numericListOrNumber | container | integer | list | string
  | stringOrNull | numberOrString | numberOrStringOrNull | boolean | timestamp | isoTimestamp
  /-- A number, and not zero after the first place. -/
  | divisor
  | sequence
  /-- A list first, and integers after it. -/
  | listThenIntegers
  /-- A list or a text first, and integers after it. -/
  | sequenceThenIntegers
  | object
  /-- A map first, then a name, then anything. -/
  | objectThenName
deriving Repr, DecidableEq

/-- The truth of a body over the items of a collection. -/
inductive Quantifier where
  | anyItem | allItems
deriving Repr, DecidableEq

/-- Operators that evaluate their children themselves or speak of them in their errors. -/
inductive Form where
  /-- Membership, by an equality of values. -/
  | contains (eq : Value → Value → Bool)
  | and | or | not | ifElse
  | substring | join | subArray
  | getProperty | callstack
  | accessor | element | setPathToValue
  /-- The values of the body for all items. -/
  | foreach
  /-- The items whose body is true. -/
  | filter
  | quantified (q : Quantifier)
  /-- A timestamp shifted by some units of time, rendered by a default pattern. -/
  | shiftTime (forward : Bool) (pattern : String)
  /-- A given present shifted by some units of time. -/
  | shiftNow (now : Moment) (forward : Bool)
  | convertFromUtc (zones : ZoneDatabase)
  | convertToUtc (zones : ZoneDatabase)
  /-- A name without behaviour, which fails. -/
  | unknown

/-- How an evaluator computes its value. -/
inductive Strategy where
  /-- A function of the checked arguments. -/
  | apply (f : List Value → Value) (check : Option Check)
  /-- A function of the checked arguments that can fail with a message. -/
  | applyWithError (f : List Value → Except String Value) (check : Option Check)
  /-- A fold of the checked arguments from the left. -/
  | sequence (f : Value → Value → Value) (check : Option Check)
  /-- A test that failures and operands of mixed kinds make false. -/
  | comparison (f : List Value → Bool) (check : Option Check)
  /-- A timestamp moved by an amount, with an optional format. -/
  | timeTransform (f : Moment → Int → Option Moment)
  | special (form : Form)
  | constant (v : Value)
  /-- A function of the state that can fail with a message. -/
  | lambda (f : Value → Except String Value)

namespace Strategy

/-- The literal of a constant. -/
def constant? : Strategy → Option Value
  | constant v => some v
  | _ => none

end Strategy

/-- The behaviour of a node. -/
structure Evaluator where
  /-- The canonical name. -/
  name : String
  strategy : Strategy
  returnType : ReturnType
  /-- Nothing when any children are fine. -/
  signature : Option Signature

namespace Evaluator

/-- A literal, typed by its value. -/
def constant (v : Value) : Evaluator :=
  ⟨Operator.constant.name, .constant v, .ofValue v, none⟩

/-- A function of the state. -/
def lambda (f : Value → Except String Value) : Evaluator :=
  ⟨Operator.lambda.name, .lambda f, .object, none⟩

/-- Reading a property. -/
def accessor : Evaluator :=
  ⟨Operator.accessor.name, .special .accessor, .object, some .accessor⟩

/-- A name without behaviour. -/
def unknown (name : String) : Evaluator := ⟨name, .special .unknown, .object, none⟩

/-- A fold over one or more numbers. -/
def numeric (name : String) (f : Value → Value → Value) : Evaluator :=
  ⟨name, .sequence f (some .number), .number, some (.arity 1 none [.number])⟩

/-- A timestamp moved by an amount of one unit. -/
def timeTransform (name : String) (f : Moment → Int → Option Moment) : Evaluator :=
  ⟨name, .timeTransform f, .string, some (.arity 2 (some 3) [.string, .number])⟩

end Evaluator

/-- A node of a tree: its name, its evaluator and its children. -/
inductive Expr where
  | node (name : String) (evaluator : Evaluator) (children : List Expr)

namespace Expr

/-- The name the node was built with. -/
def name : Expr → String
  | node name _ _ => name

def evaluator : Expr → Evaluator
  | node _ evaluator _ => evaluator

def children : Expr → List Expr
  | node _ _ children => children

/-- The node is backed by a built-in operator. -/
def isA (e : Expr) (op : Operator) : Bool := e.evaluator.name == op.name

/-- The operator behind the node. -/
def kind? (e : Expr) : Option Operator := Operator.ofName? e.evaluator.name

/-- The node is backed by an operator that binds a name. -/
def isComprehension (e : Expr) : Bool := e.kind?.any Operator.isComprehension

def returnType (e : Expr) : ReturnType := e.evaluator.returnType

/-- The literal of a constant. -/
def constant? (e : Expr) : Option Value := e.evaluator.strategy.constant?

/-- The literal of a constant text. -/
def literalText? (e : Expr) : Option String := e.constant?.bind Value.asText?

/-- The literal text of the first child. -/
def propertyName? (e : Expr) : Option String := e.children.head?.bind literalText?

/-- Children bound to an evaluator, unchecked, under the evaluator's own name. -/
def withEvaluator (evaluator : Evaluator) (children : List Expr) : Expr :=
  node evaluator.name evaluator children

/-- The same node with other children. -/
def withChildren (e : Expr) (children : List Expr) : Expr := node e.name e.evaluator children

/-- A literal. -/
def constant (v : Value) : Expr := withEvaluator (.constant v) []

/-- A property of an instance, or of the state. -/
def accessor (property : String) (instance_ : Option Expr) : Expr :=
  withEvaluator .accessor (constant (.text property) :: instance_.toList)

/-- A function of the state. -/
def lambda (f : Value → Except String Value) : Expr := withEvaluator (.lambda f) []

/-- Replace the literal of a constant; other nodes stay as they are. -/
def setValue? (e : Expr) (v : Value) : Option Expr :=
  e.constant?.map fun _ => node e.name (.constant v) e.children

/-- Two literals that are equal, or two nodes without one. -/
def sameLiteral (eq : Value → Value → Bool) : Option Value → Option Value → Bool
  | none, none => true
  | some a, some b => eq a b
  | _, _ => false

mutual

/-- Two trees of the same names, evaluators' names, equal literals and children. -/
def sameBy (eq : Value → Value → Bool) : Expr → Expr → Bool
  | node n e cs, node n' e' cs' =>
    n == n' && e.name == e'.name && sameLiteral eq e.strategy.constant? e'.strategy.constant?
      && sameAllBy eq cs cs'

def sameAllBy (eq : Value → Value → Bool) : List Expr → List Expr → Bool
  | [], [] => true
  | a :: as, b :: bs => sameBy eq a b && sameAllBy eq as bs
  | _, _ => false

end

/-- Equality of trees that were built apart. -/
def same (a b : Expr) : Bool := sameBy (· == ·) a b

/-- Equality of trees that may share their literals, as a tree and its resolved copy do. -/
def sameShared (a b : Expr) : Bool := sameBy (Value.beqIn fun _ => true) a b

/-- The name bound by the second child of a comprehension: a bare name, or the resolved form that
reads the name from the local scope. -/
def iteratorName? (e : Expr) : Option String :=
  if e.isA .accessor then
    match e.children with
    | [_] => e.propertyName?
    | [_, scope] =>
      if scope.isA .accessor && scope.children.length == 1 && scope.propertyName? == some "$local"
      then e.propertyName? else none
    | _ => none
  else none

end Expr

end StateExpr
