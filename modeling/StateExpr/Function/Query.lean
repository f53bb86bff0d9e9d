import StateExpr.Function.Arguments
import StateExpr.Json.Parser
import StateExpr.JsonPath.Parser
import StateExpr.XPath.Evaluate
import StateExpr.XPath.Parser
import StateExpr.Xml.Printer
/-!
# Queries

Paths into documents, values written as marked-up text, and queries of marked-up text.
-/

namespace StateExpr.Query

/-- The document of a text or a container. -/
def documentOf (v : Value) : Except String Json.Document :=
  match v with
  | .text s =>
    match Json.Document.parse? s with
    | some document => .ok document.sortKeys
    | none => .error (s ++ " is not a valid json string")
  | .list _ | .map _ => .ok (.ofValue v)
  | _ => .error "the first parameter should be either an object or a string"

/-- A path with its root in front; a bare one starts with a name. -/
def rooted (path : String) : String :=
  match path.toList with
  | '$' :: _ => path
  | '.' :: _ | '[' :: _ => "$" ++ path
  | _ => "$." ++ path

/-- The nodes of a document that a path leads to. -/
def jPath (args : List Value) : Except String Value := do
  let document ← documentOf (argument args 0)
  let path := (argument args 1).textOrEmpty
  match JsonPath.Path.parse? (rooted path) with
  | some query => pure (.list ((query.query document).map (·.value)))
  | none => throw (path ++ " is not a valid path + malformed path")

mutual

/-- What an element holds for a value: nothing for null, an element for each entry of a map or each
item of a list, and a text for all else. -/
def contentOf : Value → List Xml.Node
  | .null => []
  | .map entries => contentOfEntries entries
  | .list items => elementsOfItems "item" items
  | .text s => [.text s]
  | .number x => [.text (Value.number x).plainText]
  | .bool b => [.text (Value.bool b).plainText]

/-- The elements of entries. -/
def contentOfEntries : List (String × Value) → List Xml.Node
  | [] => []
  | (name, v) :: rest => elementsOf name v ++ contentOfEntries rest

/-- The elements that a value gives under a name: one, or one for each item of a list. -/
def elementsOf (name : String) : Value → List Xml.Node
  | .list items => elementsOfItems name items
  | .null => [.bare name []]
  | .map entries => [.bare name (contentOfEntries entries)]
  | .text s => [.bare name [.text s]]
  | .number x => [.bare name [.text (Value.number x).plainText]]
  | .bool b => [.bare name [.text (Value.bool b).plainText]]

def elementsOfItems (name : String) : List Value → List Xml.Node
  | [] => []
  | v :: rest => elementsOf name v ++ elementsOfItems name rest

end

/-- The element of a value: a map with one entry that is no list names it. -/
def elementOf (v : Value) : Xml.Node :=
  match v with
  | .map [(name, body)] =>
    if body.isList then .bare "root" (contentOf v) else .bare name (contentOf body)
  | _ => .bare "root" (contentOf v)

/-- A value as marked-up text. -/
def xml (args : List Value) : Except String Value :=
  match argument args 0 with
  | .text s =>
    match Json.parse? s with
    | some v => .ok (.text (Xml.renderDocument (elementOf v)))
    | none => .error "Invalid json"
  | v => .ok (.text (Xml.renderDocument (elementOf v)))

/-- The value of an answer: a set of nodes is the list of their texts, or null without nodes. -/
def answerValue (o : Xml.Outline) : XPath.Answer → Value
  | .bool b => .bool b
  | .number x => .number x
  | .text s => .text s
  | .nodes [] => .null
  | .nodes rows => .list (rows.map fun i => .text (o.text i))

/-- What a query finds in marked-up text. -/
def xPath (args : List Value) : Except String Value :=
  let text := (argument args 0).textOrEmpty
  let path := (argument args 1).textOrEmpty
  match Xml.parse? text with
  | none => .error (text ++ " is not valid xml")
  | some nodes =>
    let outline := Xml.Outline.ofNodes nodes
    match (XPath.Term.parse? path).bind (·.query? outline) with
    | some answer => .ok (answerValue outline answer)
    | none => .error (path ++ " is not an valid expression")

end StateExpr.Query
