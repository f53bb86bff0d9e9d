import StateExpr.Number.Reading
import StateExpr.XPath.Basic
import StateExpr.Xml.Parser
/-!
# Tokens of queries

Where an operand may just have ended, a star multiplies and the letters of `and`, `or`, `div` and
`mod` are operators even in front of more letters; everywhere else a star stands for all names and
letters spell names.  A comma counts as the end of an operand.

The short forms of steps are spelled out: a point, two points, an at sign and two slashes give the
tokens of the steps that they stand for.
-/

namespace StateExpr.XPath

open StateExpr.Xml (isSpace takeNamePart? takeUntil? dropText?)

/-- A token of a query. -/
inductive Token where
  | number (x : Float)
  | literal (s : String)
  | variable (name : String)
  /-- A name with an opening parenthesis right behind it. -/
  | function (name : String)
  /-- An axis with its two colons. -/
  | axis (axis : Axis)
  /-- What a step asks of a node. -/
  | test (test : Test)
  /-- An operator or a bracket. -/
  | mark (s : String)

/-- The tokens that something written stands for, and whether an operand may have ended with it. -/
structure Spelling where
  tokens : List Token
  ended : Bool

/-- A step to nodes of all kinds. -/
def stepAlong (axis : Axis) : List Token := [.axis axis, .test .node]

/-- The signs of two characters. -/
def longSigns : List (String × Spelling) :=
  [("<=", ⟨[.mark "<="], false⟩), (">=", ⟨[.mark ">="], false⟩), ("!=", ⟨[.mark "!="], false⟩),
    ("//", ⟨.mark "/" :: stepAlong .descendantOrSelf ++ [.mark "/"], false⟩),
    ("..", ⟨stepAlong .parent, true⟩)]

/-- The signs of one character that never depend on what is before them. -/
def shortSigns : List (String × Spelling) :=
  [(")", ⟨[.mark ")"], true⟩), ("]", ⟨[.mark "]"], true⟩), (",", ⟨[.mark ","], true⟩),
    ("@", ⟨[.axis .attr], false⟩)] ++
    (["/", "(", "[", "+", "-", "|", "=", "<", ">"].map fun s => (s, ⟨[.mark s], false⟩))

/-- The operators that are names elsewhere. -/
def namedOperators : List (String × Spelling) :=
  ["and", "or", "mod", "div", "*"].map fun s => (s, ⟨[.mark s], false⟩)

/-- The first of some signs that stands here, and what is behind it. -/
def takeSign? (signs : List (String × Spelling)) (cs : List Char) :
    Option (Spelling × List Char) :=
  signs.findSome? fun (sign, spelling) => (dropText? sign cs).map fun rest => (spelling, rest)

/-- A text in quotes of either kind. -/
def takeLiteral? (cs : List Char) : Option (String × List Char) :=
  match cs with
  | c :: rest =>
    if c == '"' || c == '\'' then
      (takeUntil? (String.ofList [c]) rest).map fun (s, rest) => (String.ofList s, rest)
    else none
  | [] => none

/-- The digits and the point of a number. -/
def takeDigits? (cs : List Char) : Option (Float × List Char) := do
  let (whole, rest) := spanDigits cs
  let (fraction, tail) := match rest with
    | '.' :: more => ((spanDigits more).1, (spanDigits more).2)
    | _ => ([], rest)
  guard (!whole.isEmpty || !fraction.isEmpty)
  some (nearestNumber (digitsValue (whole ++ fraction)) (-(fraction.length : Int)), tail)

/-- An axis with its two colons. -/
def takeAxis? (cs : List Char) : Option (Axis × List Char) := do
  let (name, rest) ← takeNamePart? cs
  some (← Axis.ofName? name, ← dropText? "::" rest)

/-- What a step may ask of a node but its name. -/
def takeKindTest? (cs : List Char) : Option (Test × List Char) :=
  match takeNamePart? cs with
  | some ("node", '(' :: ')' :: rest) => some (.node, rest)
  | some ("text", '(' :: ')' :: rest) => some (.text, rest)
  | some ("comment", '(' :: ')' :: rest) => some (.comment, rest)
  | some ("processing-instruction", '(' :: ')' :: rest) => some (.instruction none, rest)
  | some ("processing-instruction", '(' :: rest) => do
    let (target, rest) ← takeLiteral? rest
    some (.instruction (some target), ← dropText? ")" rest)
  | _ => none

/-- A name with an optional qualifier. -/
def takeQualifiedName? (cs : List Char) : Option (Option String × String × List Char) := do
  let (first, rest) ← takeNamePart? cs
  match rest with
  | ':' :: more =>
    match takeNamePart? more with
    | some (second, tail) => some (some first, second, tail)
    | none => some (none, first, rest)
  | _ => some (none, first, rest)

/-- A name with its qualifier in front. -/
def writtenName (qualifier : Option String) (s : String) : String :=
  match qualifier with
  | some q => q ++ ":" ++ s
  | none => s

/-- What a step asks of the name of a node: a name, all names of a space, or any name. -/
def takeNameTest? (cs : List Char) : Option (Test × List Char) :=
  match cs with
  | '*' :: rest => some (.every, rest)
  | _ =>
    match takeNamePart? cs with
    | some (q, ':' :: '*' :: rest) => some (.qualified q, rest)
    | _ => (takeQualifiedName? cs).map fun (q?, s, rest) =>
      (match q? with
        | some q => .qualified q
        | none => .name s, rest)

/-- A function: a name with an opening parenthesis behind it, which is a token of its own. -/
def takeFunction? (cs : List Char) : Option (String × List Char) :=
  match takeQualifiedName? cs with
  | some (q?, s, '(' :: rest) => some (writtenName q? s, '(' :: rest)
  | _ => none

def takeVariable? (cs : List Char) : Option (String × List Char) := do
  let (q?, s, rest) ← takeQualifiedName? (← dropText? "$" cs)
  some (writtenName q? s, rest)

/-- An operand, or a part of one that no sign starts. -/
def takeOperandToken? (cs : List Char) : Option (Spelling × List Char) :=
  let single (token : Token) (ended : Bool) (rest : List Char) := some (⟨[token], ended⟩, rest)
  match takeAxis? cs, takeKindTest? cs, takeFunction? cs, takeNameTest? cs, takeVariable? cs with
  | some (axis, rest), _, _, _, _ => single (.axis axis) false rest
  | _, some (test, rest), _, _, _ => single (.test test) true rest
  | _, _, some (name, rest), _, _ => single (.function name) true rest
  | _, _, _, some (test, rest), _ => single (.test test) true rest
  | _, _, _, _, some (name, rest) => single (.variable name) true rest
  | _, _, _, _, _ => none

/-- What is written here, given whether an operand may just have ended. -/
def takeSpelling? (ended : Bool) (cs : List Char) : Option (Spelling × List Char) :=
  match takeSign? (longSigns ++ shortSigns) cs with
  | some result => some result
  | none =>
    match takeLiteral? cs, takeDigits? cs, cs with
    | some (s, rest), _, _ => some (⟨[.literal s], true⟩, rest)
    | none, some (x, rest), _ => some (⟨[.number x], true⟩, rest)
    | none, none, '.' :: rest => some (⟨stepAlong .self, true⟩, rest)
    | none, none, _ =>
      (if ended then takeSign? namedOperators cs else none).orElse fun _ => takeOperandToken? cs

/-- All tokens from here on. -/
def tokensFrom? (ended : Bool) : (fuel : Nat) → List Char → Option (List Token)
  | 0, _ => none
  | fuel + 1, cs =>
    match cs.dropWhile isSpace with
    | [] => some []
    | cs => do
      let (spelling, rest) ← takeSpelling? ended cs
      some (spelling.tokens ++ (← tokensFrom? spelling.ended fuel rest))

/-- The tokens of a query. -/
def tokens? (text : String) : Option (List Token) :=
  let cs := text.toList
  tokensFrom? false (cs.length + 1) cs

end StateExpr.XPath
