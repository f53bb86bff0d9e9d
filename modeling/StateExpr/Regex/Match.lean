import StateExpr.Regex.Node
/-!
# Matching

`Node.matchLength?` gives the length of the preferred match at the front of a text, and
`Node.pieces` cuts a text into its matches and the characters between them: matches start as far to
the left as possible, do not overlap, and an empty match does not stand right behind another match.
-/

namespace StateExpr.Regex

namespace Node

/-- The patterns left after a character, the preferred ones first and each once. -/
def after (c : Char) (branches : List Branch) : List Node :=
  (branches.filterMap fun b => b.bind fun step =>
    if step.1.contains c then some step.2 else none).eraseDups

/-- The length of the preferred match of one of some patterns, the first of which is preferred; the
patterns are met `taken` characters behind the start, and `best` is the best match so far. -/
def longest? (before : Option Char) (taken : Nat) (best : Option Nat) :
    List Node → List Char → Option Nat
  | threads, cs =>
    let branches := threads.flatMap (·.branches ⟨before, cs.head?⟩)
    let best := if branches.any Option.isNone then some taken else best
    match cs with
    | [] => best
    | c :: rest =>
      match after c (branches.takeWhile Option.isSome) with
      | [] => best
      | next => longest? (some c) (taken + 1) best next rest

/-- The length of the preferred match at the front of a text, behind a given character. -/
def matchLength? (r : Node) (before : Option Char) (cs : List Char) : Option Nat :=
  longest? before 0 none [r] cs

/-- Some part of the text from here on matches. -/
def occursIn (r : Node) (before : Option Char) : List Char → Bool
  | [] => (r.matchLength? before []).isSome
  | c :: rest => (r.matchLength? before (c :: rest)).isSome || occursIn r (some c) rest

/-- The pattern matches somewhere in a text. -/
def isMatch (r : Node) (text : String) : Bool := r.occursIn none text.toList

end Node

/-- A part of a text: a match, or a character outside all matches. -/
inductive Piece where
  | found (part : List Char)
  | other (c : Char)
deriving Repr, DecidableEq

namespace Node

/-- The pieces of a text, of which `skip` characters belong to a match already listed; right behind
a match there is no empty one. -/
def piecesFrom (r : Node) (before : Option Char) (behindMatch : Bool) (skip : Nat) :
    List Char → List Piece
  | [] =>
    match r.matchLength? before [] with
    | some _ => if behindMatch then [] else [.found []]
    | none => []
  | c :: rest =>
    match skip with
    | k + 1 => piecesFrom r (some c) true k rest
    | 0 =>
      match r.matchLength? before (c :: rest) with
      | some (n + 1) => .found ((c :: rest).take (n + 1)) :: piecesFrom r (some c) true n rest
      | some 0 =>
        if behindMatch then .other c :: piecesFrom r (some c) false 0 rest
        else .found [] :: .other c :: piecesFrom r (some c) false 0 rest
      | none => .other c :: piecesFrom r (some c) false 0 rest

/-- A text cut into its matches and what stands between them. -/
def pieces (r : Node) (text : String) : List Piece := r.piecesFrom none false 0 text.toList

/-- The matches in a text. -/
def matchesIn (r : Node) (text : String) : List String :=
  (r.pieces text).filterMap fun
    | .found part => some (String.ofList part)
    | .other _ => none

/-- A text with its matches replaced. -/
def replaceAll (r : Node) (by_ : String) (text : String) : String :=
  String.ofList <| (r.pieces text).flatMap fun
    | .found _ => by_.toList
    | .other c => [c]

end Node

end StateExpr.Regex
