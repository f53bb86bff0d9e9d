import StateExpr.Regex.Node
import StateExpr.Unicode.Folding
import StateExpr.Unicode.Named
import StateExpr.Unicode.ScriptExtension
/-!
# Named classes of characters

The sets behind `\d`, `\s` and `\w`, behind the names of a bracket such as `[:alpha:]`, and behind
`\p`.  The names of the last are compared in folded form: without case, blanks, hyphens, underscores
and a leading `is`.
-/

namespace StateExpr.Regex

/-- The switches that a pattern is read under. -/
structure Flags where
  ignoreCase : Bool := false
  /-- Anchors also hold at the ends of lines. -/
  multiLine : Bool := false
  /-- A point stands for line ends too. -/
  dotAll : Bool := false
  /-- Greedy and lazy repetitions change places. -/
  swapGreed : Bool := false
  unicode : Bool := true
  /-- A carriage return ends a line as well. -/
  carriage : Bool := false
  /-- Blanks and comments stand for nothing. -/
  verbose : Bool := false
deriving Repr, DecidableEq

/-- The characters of the ASCII range. -/
def asciiSet : Ranges := [(0, 127)]

/-- Add the characters that differ in the case of an ASCII letter only. -/
def closeAscii (set : Ranges) : Ranges :=
  let partners := (List.range 26).flatMap fun i =>
    if set.holds (65 + i) || set.holds (97 + i) then [(65 + i, 65 + i), (97 + i, 97 + i)] else []
  Ranges.canonical (set ++ partners)

namespace Flags

/-- A set under the rule for case. -/
def closed (f : Flags) (set : Ranges) : Ranges :=
  if f.ignoreCase then if f.unicode then Folding.close set else closeAscii set else set

/-- A set or its complement.  Without Unicode a complement would hold parts of characters, so there
is none. -/
def negated? (f : Flags) (negate : Bool) (set : Ranges) : Option Ranges :=
  if negate then if f.unicode then some set.complement else none else some set

end Flags

/-- The classes with a letter of their own. -/
inductive LetterClass where
  | digit | space | word
deriving Repr, DecidableEq

/-- The class of a letter, and whether it is the complement. -/
def LetterClass.ofChar? : Char → Option (LetterClass × Bool)
  | 'd' => some (digit, false)
  | 'D' => some (digit, true)
  | 's' => some (space, false)
  | 'S' => some (space, true)
  | 'w' => some (word, false)
  | 'W' => some (word, true)
  | _ => none

/-- The characters of a class. -/
def LetterClass.set (unicode : Bool) : LetterClass → Ranges
  | digit => if unicode then Category.ofNames ["Nd"] else .ofText "30-39"
  | space => if unicode then Property.whiteSpace else .ofText "9-d 20"
  | word => if unicode then wordSet else asciiWordSet

/-- The classes that a bracket names between colons. -/
def bracketClasses : List (String × Ranges) :=
  [("alnum", .ofText "30-39 41-5a 61-7a"), ("alpha", .ofText "41-5a 61-7a"), ("ascii", asciiSet),
    ("blank", .ofText "9 20"), ("cntrl", .ofText "0-1f 7f"), ("digit", .ofText "30-39"),
    ("graph", .ofText "21-7e"), ("lower", .ofText "61-7a"), ("print", .ofText "20-7e"),
    ("punct", .ofText "21-2f 3a-40 5b-60 7b-7e"), ("space", .ofText "9-d 20"),
    ("upper", .ofText "41-5a"), ("word", asciiWordSet), ("xdigit", .ofText "30-39 41-46 61-66")]

/-- The folded form of a name. -/
def foldName (name : List Char) : String :=
  let fold (cs : List Char) := (cs.filter fun c =>
    c.toNat < 128 && c != ' ' && c != '_' && c != '-').map Char.toLower
  match name with
  | i :: s :: rest =>
    if i.toLower == 'i' && s.toLower == 's' then
      String.ofList (if fold rest == ['c'] then ['i', 's', 'c'] else fold rest)
    else String.ofList (fold name)
  | _ => String.ofList (fold name)

/-- The characters of a category by its folded name, the three general ones included. -/
def categorySet? (folded : String) : Option Ranges :=
  if folded == "any" then some [(0, Ranges.top)]
  else if folded == "ascii" then some asciiSet
  else Category.find? folded

/-- The characters that a single name stands for: a property, a category or a script. -/
def namedSet? (name : List Char) : Option Ranges :=
  let folded := foldName name
  (Property.find? folded).orElse fun _ =>
    (categorySet? folded).orElse fun _ => Script.find? folded

/-- The characters whose property has a value. -/
def valuedSet? (property value : List Char) : Option Ranges :=
  let property := foldName property
  if property == "gc" || property == "generalcategory" then categorySet? (foldName value)
  else if property == "sc" || property == "script" then Script.find? (foldName value)
  else if property == "scx" || property == "scriptextensions" then
    Script.extension? (foldName value)
  else none

/-- A text cut at the first place where a mark stands. -/
def cutAt? (mark : List Char) : List Char → Option (List Char × List Char)
  | [] => none
  | c :: rest =>
    if mark.isPrefixOf (c :: rest) then some ([], (c :: rest).drop mark.length)
    else (cutAt? mark rest).map fun (left, right) => (c :: left, right)

/-- The characters that a braced query stands for, and whether it asks for the others. -/
def querySet? (query : List Char) : Option (Ranges × Bool) :=
  match cutAt? ['!', '='] query with
  | some (property, value) => (valuedSet? property value).map (·, true)
  | none =>
    match (cutAt? [':'] query).orElse fun _ => cutAt? ['='] query with
    | some (property, value) => (valuedSet? property value).map (·, false)
    | none => (namedSet? query).map (·, false)

end StateExpr.Regex
