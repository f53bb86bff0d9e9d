import StateExpr.Json.Document
import StateExpr.Regex.Pattern
/-!
# Paths into documents

A path starts at the root of a document, or at the node that a filter looks at, and goes on by
segments; each segment gives, for a node, the list of nodes that its selectors select.
`Path.nodes` is the list of nodes that a path leads to, in order and with repetitions.

A filter keeps the children of a node that satisfy a condition.  It compares literals, the nodes of
direct paths and the results of functions.  A direct path names one key or position after the
other, so that it leads to one node or to none; its positions count from the front only.  Two
operands that stand for nothing are equal.  Numbers and texts have an order, and of two other values
of the same kind each one that differs from the other is the greater.
-/

namespace StateExpr.JsonPath

open StateExpr.Json (Document)

/-- How two operands are compared. -/
inductive Comparator where
  | equal | notEqual | less | atMost | greater | atLeast
deriving Repr, DecidableEq

/-- A step of a direct path. -/
inductive Place where
  | key (name : String)
  | position (i : Int)
deriving Repr, DecidableEq

/-- A path that leads to at most one node. -/
inductive DirectPath where
  | fromRoot (places : List Place)
  | fromHere (places : List Place)
deriving Repr, DecidableEq

mutual

/-- What to take from a node. -/
inductive Selector where
  | name (key : String)
  | every
  | index (position : Int)
  | slice (start stop : Option Int) (step : Int)
  | filter (condition : Condition)

/-- Selectors for a node, or for the node and all that is inside it. -/
inductive Segment where
  | child (selectors : List Selector)
  | descendant (selectors : List Selector)

/-- What a filter asks of a node. -/
inductive Condition where
  | both (a b : Condition)
  | either (a b : Condition)
  | negated (a : Condition)
  | found (path : Path)
  | compared (how : Comparator) (a b : Operand)
  | matched (whole : Bool) (text pattern : Operand)

/-- What a filter compares. -/
inductive Operand where
  | literal (d : Document)
  | direct (path : DirectPath)
  | length (of : Operand)
  | count (among : Found)
  /-- The value of the only node. -/
  | only (among : Found)

/-- Nodes that a function is asked about. -/
inductive Found where
  | direct (path : DirectPath)
  | all (path : Path)

/-- A path from the root of the document or from the node at hand. -/
inductive Path where
  | fromRoot (segments : List Segment)
  | fromHere (segments : List Segment)

end

/-- The only place that a selector can select. -/
def Selector.place? : Selector → Option Place
  | name key => some (.key key)
  | index i => some (.position i)
  | _ => none

/-- The only place that a segment can lead to. -/
def Segment.place? : Segment → Option Place
  | child [selector] => selector.place?
  | _ => none

/-- The direct path that a path is, if it is one. -/
def Path.direct? : Path → Option DirectPath
  | fromRoot segments => (segments.mapM Segment.place?).map .fromRoot
  | fromHere segments => (segments.mapM Segment.place?).map .fromHere

/-- The nodes of a path that a function is asked about: a direct path is followed as one. -/
def Path.found (path : Path) : Found :=
  match path.direct? with
  | some direct => .direct direct
  | none => .all path

/-- The node at a place of another one; no position is below zero. -/
def Place.step? : Place → Document → Option Document
  | key name, .map entries => Entries.get? name entries
  | position (.ofNat i), .list items => items[i]?
  | _, _ => none

/-- The node that a direct path leads to. -/
def DirectPath.node? (root : Document) : DirectPath → Document → Option Document
  | fromRoot places, _ => places.foldlM (fun node place => place.step? node) root
  | fromHere places, here => places.foldlM (fun node place => place.step? node) here

/-- The items of a list and the values of a map. -/
def children : Document → List Document
  | .list items => items
  | .map entries => entries.map (·.2)
  | _ => []

mutual

/-- A node and all that is inside it, each node before what it contains. -/
def subtree : Document → List Document
  | .list items => .list items :: subtreeItems items
  | .map entries => .map entries :: subtreeEntries entries
  | d => [d]

def subtreeItems : List Document → List Document
  | [] => []
  | d :: rest => subtree d ++ subtreeItems rest

def subtreeEntries : List (String × Document) → List Document
  | [] => []
  | (_, d) :: rest => subtree d ++ subtreeEntries rest

end

/-- A position that may count from the end. -/
def fromEnd (length : Nat) (position : Int) : Int :=
  if position < 0 then length + position else position

/-- The positions of a slice, in the order of its step; a step of zero takes none. -/
def slicePositions (length : Nat) (start stop : Option Int) (step : Int) : List Nat :=
  let cut (low high i : Int) : Int := max low (min high i)
  if 0 < step then
    let first := cut 0 length (fromEnd length (start.getD 0))
    let limit := cut 0 length (fromEnd length (stop.getD length))
    (List.range length).filter fun i => first ≤ i && (i : Int) < limit && (i - first) % step == 0
  else if step < 0 then
    let first := cut (-1) (length - 1) (fromEnd length (start.getD (length - 1)))
    let limit := cut (-1) (length - 1) (fromEnd length (stop.getD (-length - 1)))
    (List.range length).reverse.filter fun i =>
      limit < i && (i : Int) ≤ first && (first - i) % (-step) == 0
  else []

/-- Two nodes are equal: numbers by what they are, and containers by how they are written. -/
def sameNode : Document → Document → Bool
  | .number a, .number b => a.toFloat == b.toFloat
  | a, b => a == b

/-- The first of two nodes stands before the second. -/
def precedes : Document → Document → Bool
  | .number a, .number b => a.toFloat < b.toFloat
  | .text a, .text b => a < b
  | _, _ => false

/-- Two nodes are of the same kind. -/
def sameKind : Document → Document → Bool
  | .null, .null | .bool _, .bool _ | .number _, .number _ | .text _, .text _ => true
  | .list _, .list _ | .map _, .map _ => true
  | _, _ => false

/-- Two results of operands are equal. -/
def sameResult : Option Document → Option Document → Bool
  | none, none => true
  | some a, some b => sameNode a b
  | _, _ => false

/-- Both operands stand for something, and a relation holds. -/
def bothHold (relation : Document → Document → Bool) (a b : Option Document) : Bool :=
  match a, b with
  | some a, some b => relation a b
  | _, _ => false

/-- The first of two nodes is of the kind of the second and does not stand before it. -/
def follows (a b : Document) : Bool := sameKind a b && !precedes a b

def Comparator.holds (how : Comparator) (a b : Option Document) : Bool :=
  match how with
  | equal => sameResult a b
  | notEqual => !sameResult a b
  | less => bothHold precedes a b
  | atMost => bothHold precedes a b || sameResult a b
  | greater => bothHold follows a b && !sameResult a b
  | atLeast => bothHold follows a b || sameResult a b

/-- A text matches a pattern, as a whole or in some part; a malformed pattern and one that is too
large match nothing. -/
def matchesPattern (whole : Bool) (text pattern : Option Document) : Bool :=
  match text, pattern with
  | some (.text s), some (.text p) =>
    let group := "(" ++ p ++ ")"
    let spelled := if whole then "^" ++ group ++ "$" else group
    match Regex.prepare? { carriage := true } spelled.toList with
    | some node => node.isMatch s
    | none => false
  | _, _ => false

/-- The size of a text or a container. -/
def size? : Document → Option Nat
  | .text s => some s.length
  | .list items => some items.length
  | .map entries => some entries.length
  | _ => none

/-- A count as a node. -/
def countNode (n : Nat) : Document := .number (.whole n)

/-- The only one of some nodes. -/
def only? : List Document → Option Document
  | [d] => some d
  | _ => none

mutual

/-- The nodes that a selector takes from a node of the document. -/
def Selector.select (root : Document) : Selector → Document → List Document
  | .name key, .map entries => (Entries.get? key entries).toList
  | .every, node => children node
  | .index i, .list items =>
    let position := fromEnd items.length i
    if position < 0 then [] else items[position.toNat]?.toList
  | .slice start stop step, .list items =>
    (slicePositions items.length start stop step).filterMap (items[·]?)
  | .filter condition, node => (children node).filter (condition.holds root)
  | _, _ => []

def selectAll (root : Document) : List Selector → Document → List Document
  | [], _ => []
  | selector :: rest, node => selector.select root node ++ selectAll root rest node

/-- The nodes that a segment leads to from a node. -/
def Segment.step (root : Document) : Segment → Document → List Document
  | .child selectors, node => selectAll root selectors node
  | .descendant selectors, node => (subtree node).flatMap (selectAll root selectors)

def follow (root : Document) : List Segment → List Document → List Document
  | [], nodes => nodes
  | segment :: rest, nodes => follow root rest (nodes.flatMap (segment.step root))

/-- A node satisfies a condition. -/
def Condition.holds (root : Document) : Condition → Document → Bool
  | .both a b, node => a.holds root node && b.holds root node
  | .either a b, node => a.holds root node || b.holds root node
  | .negated a, node => !a.holds root node
  | .found path, node => !(path.nodes root node).isEmpty
  | .compared how a b, node => how.holds (a.node? root node) (b.node? root node)
  | .matched whole text pattern, node =>
    matchesPattern whole (text.node? root node) (pattern.node? root node)

/-- What an operand stands for at a node, if anything. -/
def Operand.node? (root : Document) : Operand → Document → Option Document
  | .literal d, _ => some d
  | .direct path, node => path.node? root node
  | .length operand, node => ((operand.node? root node).bind size?).map countNode
  | .count among, node => some (countNode (among.nodes root node).length)
  | .only among, node => only? (among.nodes root node)

/-- The nodes that a function is asked about. -/
def Found.nodes (root : Document) : Found → Document → List Document
  | .direct path, node => (path.node? root node).toList
  | .all path, node => path.nodes root node

/-- The nodes that a path leads to. -/
def Path.nodes (root : Document) : Path → Document → List Document
  | .fromRoot segments, _ => follow root segments [root]
  | .fromHere segments, node => follow root segments [node]

end

/-- The nodes of a document that a path leads to. -/
def Path.query (path : Path) (document : Document) : List Document := path.nodes document document

end StateExpr.JsonPath
