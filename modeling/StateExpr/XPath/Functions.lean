import StateExpr.Text.Search
import StateExpr.XPath.Answer
import StateExpr.Xml.Parser
/-!
# Functions of queries

`call?` applies a function by its name.  There is no answer for an unknown name, for a wrong number
of arguments, and for something else than a set of nodes where one is asked for.
-/

namespace StateExpr.XPath

open StateExpr.Xml (Outline isSpace)

/-- The node at hand, its position among the nodes that are looked at, and their number. -/
structure Focus where
  node : Nat
  position : Nat
  size : Nat
deriving Repr

/-- The nearest integer, a half toward plus infinity; the sign stays, also that of zero. -/
def roundedUp (x : Float) : Float :=
  let below := floored x
  if x == below then x
  else
    let nearest := (floored (2 * x - below)).abs
    if x < 0 then -nearest else nearest

/-- The words of a text with single blanks between them. -/
def normalized (s : String) : String :=
  " ".intercalate ((s.split isSpace).toList.map (·.toString) |>.filter (!·.isEmpty))

/-- The characters from a position on, counted from one, with a length that may be infinite. -/
def substring (s : String) (start length : Float) : String :=
  let first := roundedUp start
  let taken := s.toList.zipIdx.filter fun (_, i) =>
    let position := Float.ofNat (i + 1)
    decide (first ≤ position) && decide (position < first + roundedUp length)
  String.ofList (taken.map (·.1))

/-- Characters replaced by those in the same places of another text, or left out. -/
def translated (s source target : String) : String :=
  String.ofList <| s.toList.filterMap fun c =>
    match source.toList.idxOf? c with
    | some i => target.toList[i]?
    | none => some c

def before (s mark : String) : String :=
  match Search.first? mark.toList s.toList with
  | some k => String.ofList (s.toList.take k)
  | none => ""

def behind (s mark : String) : String :=
  match Search.first? mark.toList s.toList with
  | some k => String.ofList (s.toList.drop (k + mark.length))
  | none => ""

/-- The set given as the only argument, or the node at hand. -/
def nodesOrFocus? (focus : Focus) : List Answer → Option (List Nat)
  | [] => some [focus.node]
  | [answer] => answer.asNodes?
  | _ => none

/-- The text of the only argument, or of the node at hand. -/
def textOrFocus? (o : Outline) (focus : Focus) : List Answer → Option String
  | [] => some (o.text focus.node)
  | [answer] => some (answer.asText o)
  | _ => none

/-- A text of the first node of a set. -/
def ofFirst (f : Nat → String) (rows : List Nat) : Answer := .text ((rows.head?.map f).getD "")

/-- Apply a function to its arguments. -/
def call? (o : Outline) (focus : Focus) (name : String) (args : List Answer) : Option Answer :=
  match name, args with
  | "last", [] => some (.number (Float.ofNat focus.size))
  | "position", [] => some (.number (Float.ofNat focus.position))
  | "count", [a] => a.asNodes?.map fun rows => .number (Float.ofNat rows.length)
  | "sum", [a] => a.asNodes?.map fun rows =>
      .number (rows.foldl (fun total i => total + spelledNumber (o.text i)) 0)
  | "name", args => (nodesOrFocus? focus args).map (ofFirst o.nameText)
  | "local-name", args => (nodesOrFocus? focus args).map (ofFirst o.localName)
  | "namespace-uri", args => (nodesOrFocus? focus args).map (ofFirst o.spaceText)
  | "string", args => (textOrFocus? o focus args).map .text
  | "string-length", args =>
    (textOrFocus? o focus args).map fun s => .number (Float.ofNat s.length)
  | "normalize-space", args => (textOrFocus? o focus args).map fun s => .text (normalized s)
  | "concat", a :: b :: rest =>
    some (.text (String.join ((a :: b :: rest).map (·.asText o))))
  | "starts-with", [a, b] => some (.bool ((b.asText o).toList.isPrefixOf (a.asText o).toList))
  | "contains", [a, b] =>
    some (.bool (Search.first? (b.asText o).toList (a.asText o).toList).isSome)
  | "substring-before", [a, b] => some (.text (before (a.asText o) (b.asText o)))
  | "substring-after", [a, b] => some (.text (behind (a.asText o) (b.asText o)))
  | "substring", [a, b] => some (.text (substring (a.asText o) (b.asNumber o) (1 / 0)))
  | "substring", [a, b, c] =>
    some (.text (substring (a.asText o) (b.asNumber o) (c.asNumber o)))
  | "translate", [a, b, c] => some (.text (translated (a.asText o) (b.asText o) (c.asText o)))
  | "boolean", [a] => some (.bool a.asBool)
  | "not", [a] => some (.bool !a.asBool)
  | "true", [] => some (.bool true)
  | "false", [] => some (.bool false)
  | "number", [] => some (.number (spelledNumber (o.text focus.node)))
  | "number", [a] => some (.number (a.asNumber o))
  | "floor", [a] => some (.number (floored (a.asNumber o)))
  | "ceiling", [a] => some (.number (ceiled (a.asNumber o)))
  | "round", [a] => some (.number (roundedUp (a.asNumber o)))
  | _, _ => none

end StateExpr.XPath
