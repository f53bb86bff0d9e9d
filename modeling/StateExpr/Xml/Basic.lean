/-!
# Trees of marked-up text

A document is a list of nodes of which one is an element.  Names carry the address of the space
that their qualifier stands for; a name without a qualifier takes the space declared for all such
elements, if there is one.
-/

namespace StateExpr.Xml

/-- A name as it is written, and the address of its space. -/
structure Name where
  qualifier : Option String
  space : Option String
  localPart : String
deriving Repr, DecidableEq

namespace Name

/-- A name outside of all spaces. -/
def plain (s : String) : Name := ⟨none, none, s⟩

/-- The name as it is written. -/
def text (name : Name) : String :=
  match name.qualifier with
  | some q => q ++ ":" ++ name.localPart
  | none => name.localPart

end Name

structure Attribute where
  name : Name
  value : String
deriving Repr, DecidableEq

/-- The addresses of spaces by their qualifiers, the latest declaration first; the empty qualifier
is the one of bare element names. -/
abbrev Spaces := List (String × String)

/-- The address of the space of the names that are there from the start. -/
def startAddress : String := "/".intercalate ["http:", "", "www.w3.org", "XML", "1998", "namespace"]

/-- A part of a document.  An element holds the qualifiers that it declares. -/
inductive Node where
  | element (name : Name) (declared : Spaces) (attributes : List Attribute) (children : List Node)
  | text (s : String)
  | comment (s : String)
  | instruction (target content : String)

/-- An element without attributes and spaces. -/
def Node.bare (name : String) (children : List Node) : Node :=
  .element (.plain name) [] [] children

end StateExpr.Xml
