import StateExpr.Expr.Scope
import StateExpr.Value.Order
/-!
# Paths that an expression reads

`Expr.references` lists the paths of the state that an expression reads, in order and each once:
chains of property names and literal indices such as `a.b[2]`.  Steps to an enclosing state are
dropped from a path, and paths of bound names are left out.
-/

namespace StateExpr.Expr

/-- The path that a node denotes, if it is one, and the paths read beneath it. -/
structure Walk where
  path : Option String
  beneath : List String

namespace Walk

/-- All paths of a walk that goes no further. -/
def all (w : Walk) : List String := w.beneath ++ w.path.toList

end Walk

/-- A path that starts at a bound name. -/
def isLocalTo (name reference : String) : Bool :=
  let cs := reference.toList
  name.toList.isPrefixOf cs &&
    match cs.drop name.toList.length with
    | [] => true
    | c :: _ => c == '.' || c == '['

/-- The walk of an index access, from those of its two children. -/
def walkElement (index : Option Value) (owner key : Walk) : Walk :=
  match index with
  | some (.text s) => ⟨owner.path.map (· ++ "." ++ s), owner.beneath ++ key.all⟩
  | some v => ⟨owner.path.map (· ++ "[" ++ v.display ++ "]"), owner.beneath ++ key.all⟩
  | none => ⟨none, owner.all ++ key.all⟩

/-- The walk of a node, from those of its children. -/
def walkNode (e : Expr) (walks : List Walk) : Walk :=
  if e.isA .accessor then
    match e.propertyName?, walks with
    | none, _ => ⟨none, []⟩
    | some property, _ :: owner :: _ => ⟨owner.path.map (· ++ "." ++ property), owner.beneath⟩
    | some property, _ => ⟨some property, []⟩
  else
    match e.isA .element, e.children, walks with
    | true, [_, index], [owner, key] => walkElement index.constant? owner key
    | _, _, _ =>
      match binding? e, walks with
      | some name, [collection, _, body] =>
        ⟨none, collection.all ++ body.all.filter fun r => !isLocalTo name r⟩
      | _, _ => ⟨none, walks.flatMap Walk.all⟩

mutual

def walk : Expr → Walk
  | node name evaluator children => walkNode (node name evaluator children) (walkAll children)

def walkAll : List Expr → List Walk
  | [] => []
  | e :: rest => walk e :: walkAll rest

end

/-- A path without its steps to enclosing states; nothing for the enclosing state itself and for
paths into a local scope. -/
def statePath? : List Char → Option (List Char)
  | '$' :: 'g' :: 'l' :: 'o' :: 'b' :: 'a' :: 'l' :: '.' :: rest => statePath? rest
  | ['$', 'g', 'l', 'o', 'b', 'a', 'l'] => none
  | cs => if localName.toList.isPrefixOf cs then none else some cs

/-- Texts in order, each once. -/
def distinctInOrder (texts : List String) : List String :=
  (texts.mergeSort fun a b => compareText a b != .gt).eraseReps

/-- The paths of the state that an expression reads. -/
def references (e : Expr) : List String :=
  distinctInOrder <| e.walk.all.filterMap fun r => (statePath? r.toList).map String.ofList

end StateExpr.Expr
