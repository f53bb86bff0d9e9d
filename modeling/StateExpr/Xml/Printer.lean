import StateExpr.Xml.Basic
/-!
# Writing marked-up text

Elements are written without anything between them; an element without children is one tag.  Text
escapes the three characters that could be taken for markup, and names are written as they are.
-/

namespace StateExpr.Xml

/-- One character of a text. -/
def escapeChar (c : Char) : List Char :=
  if c = '<' then "&lt;".toList
  else if c = '>' then "&gt;".toList
  else if c = '&' then "&amp;".toList
  else [c]

/-- The characters of a text as content. -/
def escape (s : String) : String := String.ofList (s.toList.flatMap escapeChar)

/-- The attributes of a tag, each with a blank in front. -/
def renderAttributes (attributes : List Attribute) : String :=
  String.join (attributes.map fun a => " " ++ a.name.text ++ "='" ++ escape a.value ++ "'")

mutual

/-- A node as text. -/
def Node.render : Node → String
  | .element name _ attributes [] => "<" ++ name.text ++ renderAttributes attributes ++ "/>"
  | .element name _ attributes children =>
    "<" ++ name.text ++ renderAttributes attributes ++ ">" ++ renderAll children ++ "</" ++
      name.text ++ ">"
  | .text s => escape s
  | .comment s => "<!--" ++ s ++ "-->"
  | .instruction target content => "<?" ++ target ++ " " ++ content ++ "?>"

def renderAll : List Node → String
  | [] => ""
  | node :: rest => node.render ++ renderAll rest

end

/-- A document with one element. -/
def renderDocument (element : Node) : String := "<?xml version='1.0'?>" ++ element.render

end StateExpr.Xml
