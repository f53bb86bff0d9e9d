import StateExpr.Xml.Basic
/-!
# Documents as rows

A document is laid out as rows in document order: each node stands before all that is inside it, and
an element before its attributes, the last of which comes first, and its children.  The spaces of
all elements stand behind the whole document.  A row knows the row it belongs to and the first row
behind all that is inside it.
-/

namespace StateExpr.Xml

/-- What a row stands for.  An element knows the qualifiers that it and the elements around it
declare, the nearest first. -/
inductive Kind where
  | root
  | element (name : Name) (scopes : List Spaces)
  | space (qualifier address : String)
  | attr (name : Name) (value : String)
  | text (s : String)
  | comment (s : String)
  | instruction (target content : String)
deriving Repr, DecidableEq

namespace Kind

def isElement : Kind → Bool
  | element _ _ => true
  | _ => false

def isAttribute : Kind → Bool
  | attr _ _ => true
  | _ => false

def isSpace : Kind → Bool
  | space _ _ => true
  | _ => false

/-- The row stands for a child of another node. -/
def isChild : Kind → Bool
  | root | space _ _ | attr _ _ => false
  | _ => true

end Kind

/-- A node in its place: the row it belongs to, and the first row behind all that is inside it. -/
structure Row where
  kind : Kind
  parent : Option Nat
  stop : Nat
deriving Repr

/-- The latest address of each qualifier. -/
def inForce : (seen : List String) → Spaces → Spaces
  | _, [] => []
  | seen, (qualifier, address) :: rest =>
    if seen.contains qualifier then inForce seen rest
    else (qualifier, address) :: inForce (qualifier :: seen) rest

/-- The qualifier of a name in a space at an element: of those that the nearest element declares for
the space it is the preferred one, or else the first. -/
def qualifierOf? (preferred : Option String) (address : String) (scopes : List Spaces) :
    Option String :=
  if address == startAddress then some "xml"
  else scopes.findSome? fun scope =>
    let fitting := (scope.filter (·.2 == address)).map (·.1)
    (preferred.filter fitting.contains).orElse fun _ => fitting.head?

/-- A name as it is written at an element. -/
def Name.textAt (scopes : List Spaces) (name : Name) : String :=
  match name.space.bind fun address => qualifierOf? name.qualifier address scopes with
  | some q => q ++ ":" ++ name.localPart
  | none => name.localPart

/-- Rows without anything inside. -/
def leafRows (parent start : Nat) (kinds : List Kind) : List Row :=
  kinds.zipIdx.map fun (kind, i) => ⟨kind, some parent, start + i + 1⟩

mutual

/-- The rows of a node from a position on. -/
def Node.rows (scopes : List Spaces) (parent start : Nat) : Node → List Row
  | .element name declared attributes children =>
    let scopes := declared :: scopes
    let own := leafRows start (start + 1) (attributes.reverse.map fun a => .attr a.name a.value)
    let inner := childRows scopes start (start + 1 + own.length) children
    ⟨.element name scopes, some parent, start + 1 + own.length + inner.length⟩ :: (own ++ inner)
  | .text s => leafRows parent start [.text s]
  | .comment s => leafRows parent start [.comment s]
  | .instruction target content => leafRows parent start [.instruction target content]

def childRows (scopes : List Spaces) (parent start : Nat) : List Node → List Row
  | [] => []
  | node :: rest =>
    let rows := node.rows scopes parent start
    rows ++ childRows scopes parent (start + rows.length) rest

end

/-- The rows of the spaces of all elements among some rows, from a position on. -/
def spaceRows (rows : List Row) (start : Nat) : List Row :=
  let owned := rows.zipIdx.flatMap fun (row, i) =>
    match row.kind with
    | .element _ scopes =>
      ((inForce [] scopes.flatten) ++ [("xml", startAddress)]).map fun s =>
        (Kind.space s.1 s.2, i)
    | _ => []
  owned.zipIdx.map fun ((kind, parent), i) => ⟨kind, some parent, start + i + 1⟩

/-- A document as rows in document order. -/
structure Outline where
  rows : Array Row

namespace Outline

/-- The rows of a document with these nodes. -/
def ofNodes (nodes : List Node) : Outline :=
  let inner := childRows [] 0 1 nodes
  let rows := ⟨.root, none, 1 + inner.length⟩ :: inner
  ⟨(rows ++ spaceRows rows rows.length).toArray⟩

def size (o : Outline) : Nat := o.rows.size

def kind (o : Outline) (i : Nat) : Kind := (o.rows[i]?.map (·.kind)).getD .root

def parent (o : Outline) (i : Nat) : Option Nat := o.rows[i]?.bind (·.parent)

/-- The first row behind all that is inside a row. -/
def stop (o : Outline) (i : Nat) : Nat := (o.rows[i]?.map (·.stop)).getD (i + 1)

/-- The rows from one on up to before another. -/
def range (first limit : Nat) : List Nat := (List.range (limit - first)).map (· + first)

/-- The rows inside a row that stand for children, at any depth. -/
def inside (o : Outline) (i : Nat) : List Nat :=
  (range (i + 1) (o.stop i)).filter fun j => (o.kind j).isChild

/-- The children of a row. -/
def children (o : Outline) (i : Nat) : List Nat :=
  (o.inside i).filter fun j => o.parent j == some i

/-- The rows that a row belongs to, the nearest first. -/
def ownersFrom (o : Outline) : (fuel : Nat) → Nat → List Nat
  | 0, _ => []
  | fuel + 1, i =>
    match o.parent i with
    | some p => p :: ownersFrom o fuel p
    | none => []

def owners (o : Outline) (i : Nat) : List Nat := o.ownersFrom o.size i

/-- The rows of spaces or attributes that belong to a row. -/
def ownRows (o : Outline) (p : Kind → Bool) (i : Nat) : List Nat :=
  (range (i + 1) o.size).filter fun j => p (o.kind j) && o.parent j == some i

/-- The row that says where something stands in a document: for attributes and spaces it is that of
their element. -/
def standing (o : Outline) (i : Nat) : Nat :=
  if (o.kind i).isChild then i else (o.parent i).getD i

/-- The nodes behind a row and all that is inside it. -/
def behind (o : Outline) (i : Nat) : List Nat :=
  (range (o.stop (o.standing i)) o.size).filter fun j => (o.kind j).isChild

/-- The nodes before a row that it is not inside of, the nearest first. -/
def before (o : Outline) (i : Nat) : List Nat :=
  let place := o.standing i
  (List.range place).reverse.filter fun j => (o.kind j).isChild && o.stop j ≤ place

/-- Rows that share their parent with a child. -/
def siblings (o : Outline) (i : Nat) (rows : List Nat) : List Nat :=
  if (o.kind i).isChild then rows.filter fun j => o.parent j == o.parent i else []

/-- The text of a row: all texts inside an element or the document, the content of other nodes. -/
def text (o : Outline) (i : Nat) : String :=
  match o.kind i with
  | .root | .element _ _ => String.join <| (o.inside i).map fun j =>
      match o.kind j with
      | .text s => s
      | _ => ""
  | .space _ address => address
  | .attr _ value => value
  | .text s => s
  | .comment s => s
  | .instruction _ content => content

/-- The name of a row as it is written; texts, comments and the document have none. -/
def nameText (o : Outline) (i : Nat) : String :=
  match o.kind i with
  | .element name scopes => name.textAt scopes
  | .attr name _ =>
    match (o.parent i).map o.kind with
    | some (.element _ scopes) => name.textAt scopes
    | _ => name.localPart
  | .space qualifier _ => qualifier
  | .instruction target _ => target
  | _ => ""

/-- The name of a row without its qualifier. -/
def localName (o : Outline) (i : Nat) : String :=
  match o.kind i with
  | .element name _ | .attr name _ => name.localPart
  | .space qualifier _ => qualifier
  | .instruction target _ => target
  | _ => ""

/-- The address of the space of a row's name. -/
def spaceText (o : Outline) (i : Nat) : String :=
  match o.kind i with
  | .element name _ | .attr name _ => name.space.getD ""
  | _ => ""

end Outline

end StateExpr.Xml
