import StateExpr.XPath.Basic
import StateExpr.XPath.Functions
/-!
# Answering queries

`Term.answer?` is the answer of a term at a node.  A variable, an unknown function and a qualified
name have none, but only when they are met: the second side of `and` and `or` is looked at when the
first one does not decide.
-/

namespace StateExpr.XPath

open StateExpr.Xml (Outline Kind)

/-- The rows along an axis, the nearest first. -/
def Axis.rows (o : Outline) (axis : Axis) (i : Nat) : List Nat :=
  match axis with
  | child => o.children i
  | descendant => o.inside i
  | descendantOrSelf => i :: o.inside i
  | parent => (o.parent i).toList
  | ancestor => o.owners i
  | ancestorOrSelf => i :: o.owners i
  | following => o.behind i
  | followingSibling => o.siblings i (o.behind i)
  | preceding => o.before i
  | precedingSibling => o.siblings i (o.before i)
  | attr => (o.ownRows Kind.isAttribute i).reverse
  | space => o.ownRows Kind.isSpace i
  | self => [i]

/-- The kind of node that an axis is about. -/
def Axis.isPrincipal (axis : Axis) : Kind → Bool :=
  match axis with
  | attr => Kind.isAttribute
  | space => Kind.isSpace
  | _ => Kind.isElement

/-- A name outside of all spaces. -/
def isBareName (localPart : String) : Kind → Bool
  | .element name _ | .attr name _ => name.space.isNone && name.localPart == localPart
  | .space qualifier _ => qualifier == localPart
  | _ => false

/-- A node passes a test, where the test has an answer. -/
def Test.passes? (axis : Axis) (test : Test) (kind : Kind) : Option Bool :=
  match test, kind with
  | node, _ => some true
  | text, .text _ => some true
  | comment, .comment _ => some true
  | instruction none, .instruction _ _ => some true
  | instruction (some wanted), .instruction target _ => some (target == wanted)
  | every, kind => some (axis.isPrincipal kind)
  | name s, kind => some (axis.isPrincipal kind && isBareName s kind)
  | qualified _, kind => if axis.isPrincipal kind then none else some false
  | _, _ => some false

def Order.holds (how : Order) (a b : Float) : Bool :=
  match how with
  | less => a < b
  | atMost => a ≤ b
  | greater => b < a
  | atLeast => b ≤ a

def Arithmetic.apply (how : Arithmetic) (a b : Float) : Float :=
  match how with
  | plus => a + b
  | minus => a - b
  | times => a * b
  | div => a / b
  | mod => numberRemainder a b

/-- The position that a number asks for. -/
def isPosition (x : Float) (position : Nat) : Bool := saturateInt64 x == position

/-- Keep the nodes with a given answer, each looked at in its place. -/
def filterNodes? (predicate : Focus → Option Answer) (rows : List Nat) : Option (List Nat) := do
  let kept ← rows.zipIdx.filterM fun (row, i) => do
    match ← predicate ⟨row, i + 1, rows.length⟩ with
    | .number x => pure (isPosition x (i + 1))
    | answer => pure answer.asBool
  pure (kept.map (·.1))

/-- The set that holds what some function gives for each node. -/
def gather? (f : Nat → Option (List Nat)) (rows : List Nat) : Option (List Nat) := do
  pure (inOrder (← rows.mapM f).flatten)

mutual

/-- The answer of a term at a node. -/
def Term.answer? (o : Outline) : Term → Focus → Option Answer
  | .number x, _ => some (.number x)
  | .text s, _ => some (.text s)
  | .variable _, _ => none
  | .call function args, focus => do call? o focus function (← answerAll? o args focus)
  | .both a b, focus => do
    if (← a.answer? o focus).asBool then pure (.bool (← b.answer? o focus).asBool)
    else pure (.bool false)
  | .either a b, focus => do
    if (← a.answer? o focus).asBool then pure (.bool true)
    else pure (.bool (← b.answer? o focus).asBool)
  | .equal a b, focus => do
    let left ← a.answer? o focus
    let right ← b.answer? o focus
    pure (.bool (left.equals o right))
  | .notEqual a b, focus => do
    let left ← a.answer? o focus
    let right ← b.answer? o focus
    pure (.bool !(left.equals o right))
  | .ordered how a b, focus => do
    let left ← a.answer? o focus
    let right ← b.answer? o focus
    pure (.bool (how.holds (left.asNumber o) (right.asNumber o)))
  | .computed how a b, focus => do
    let left ← a.answer? o focus
    let right ← b.answer? o focus
    pure (.number (how.apply (left.asNumber o) (right.asNumber o)))
  | .negated a, focus => do pure (.number (-(← a.answer? o focus).asNumber o))
  | .union a b, focus => do
    let left ← (← a.answer? o focus).asNodes?
    let right ← (← b.answer? o focus).asNodes?
    pure (.nodes (inOrder (left ++ right)))
  | .root, _ => some (.nodes [0])
  | .here, focus => some (.nodes [focus.node])
  | .filtered nodes predicate, focus => do
    let rows ← (← nodes.answer? o focus).asNodes?
    pure (.nodes (← filterNodes? (predicate.answer? o) rows))
  | .located start step, focus => do
    let rows ← (← start.answer? o focus).asNodes?
    pure (.nodes (← gather? (step.reach? o) rows))

/-- The rows that a step reaches from one. -/
def Step.reach? (o : Outline) : Step → Nat → Option (List Nat)
  | .along axis test predicates, row => do
    let rows ← (axis.rows o row).filterM fun i => test.passes? axis (o.kind i)
    keepAll? o predicates rows

/-- The nodes that satisfy predicates, one after the other. -/
def keepAll? (o : Outline) : List Term → List Nat → Option (List Nat)
  | [], rows => some rows
  | predicate :: rest, rows => do keepAll? o rest (← filterNodes? (predicate.answer? o) rows)

/-- The answers of all arguments. -/
def answerAll? (o : Outline) : List Term → Focus → Option (List Answer)
  | [], _ => some []
  | term :: rest, focus => do
    let first ← term.answer? o focus
    let others ← answerAll? o rest focus
    pure (first :: others)

end

/-- The answer of a query of a whole document. -/
def Term.query? (term : Term) (o : Outline) : Option Answer := term.answer? o ⟨0, 1, 1⟩

end StateExpr.XPath
