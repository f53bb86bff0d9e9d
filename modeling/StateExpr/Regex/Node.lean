import StateExpr.Unicode.Property
/-!
# Patterns as trees

A pattern is matched by its branches: `Node.branches` lists, in order of preference, the ways in
which a pattern can go on at a place of a text.  A branch either takes a character of a set and
leaves a pattern for the rest, or it ends the match there.  Among equal ends only the first counts,
so every list of branches holds at most one of them.

The order is that of the pattern: the left alternative before the right one, one more round before
leaving a greedy repetition, and leaving before one more round of a lazy one.
-/

namespace StateExpr.Regex

/-- The characters on both sides of a place in a text. -/
structure Place where
  before : Option Char
  after : Option Char

/-- The characters that spell words. -/
def wordSet : Ranges :=
  Ranges.canonical (Property.alphabetic ++ Category.group ['M'] ++ Category.ofNames ["Nd", "Pc"]
    ++ Property.joinControl)

/-- The ASCII characters that spell words. -/
def asciiWordSet : Ranges := .ofText "30-39 41-5a 5f 61-7a"

/-- The sides of a place that may or may not belong to a word. -/
inductive WordEdge where
  | boundary | inside | starts | ends | startsHalf | endsHalf
deriving Repr, DecidableEq

/-- A condition on a place. -/
inductive Look where
  | textStart | textEnd
  | lineStart (carriage : Bool)
  | lineEnd (carriage : Bool)
  | word (edge : WordEdge) (ascii : Bool)
deriving Repr, DecidableEq

/-- The edge lies between a side in a word or not and another. -/
def WordEdge.holds (edge : WordEdge) (before after : Bool) : Bool :=
  match edge with
  | boundary => before != after
  | inside => before == after
  | starts => !before && after
  | ends => before && !after
  | startsHalf => !before
  | endsHalf => !after

/-- The condition is met. -/
def Look.holds (p : Place) : Look → Bool
  | textStart => p.before.isNone
  | textEnd => p.after.isNone
  | lineStart false => p.before.all (· == '\n')
  | lineStart true =>
    p.before.all fun c => c == '\n' || (c == '\r' && p.after != some '\n')
  | lineEnd false => p.after.all (· == '\n')
  | lineEnd true =>
    p.after.all fun c => c == '\r' || (c == '\n' && p.before != some '\r')
  | word edge ascii =>
    let set := if ascii then asciiWordSet else wordSet
    edge.holds (p.before.any set.contains) (p.after.any set.contains)

/-- A pattern. -/
inductive Node where
  | empty
  /-- One character of a set. -/
  | oneOf (set : Ranges)
  | look (l : Look)
  | cat (first second : Node)
  | alt (left right : Node)
  /-- One or more rounds. -/
  | plus (greedy : Bool) (body : Node)
  /-- Any number of rounds of a body that takes at least a character. -/
  | loop (greedy : Bool) (body : Node)
  | exactly (count : Nat) (body : Node)
  | upTo (greedy : Bool) (count : Nat) (body : Node)
  /-- A part whose match is remembered. -/
  | group (body : Node)
deriving Repr, DecidableEq

namespace Node

/-- One pattern after another. -/
def andThen : Node → Node → Node
  | empty, next => next
  | r, empty => r
  | r, next => cat r next

/-- The pattern matches the empty text where its conditions hold. -/
def nullable : Node → Bool
  | empty => true
  | oneOf _ => false
  | look _ => true
  | cat a b => a.nullable && b.nullable
  | alt a b => a.nullable || b.nullable
  | plus _ r => r.nullable
  | loop _ _ => true
  | exactly k r => k == 0 || r.nullable
  | upTo _ _ _ => true
  | group r => r.nullable

/-- Any number of rounds. -/
def star (greedy : Bool) (r : Node) : Node :=
  if r.nullable then upTo greedy 1 (plus greedy r) else loop greedy r

/-- A number of rounds between two bounds. -/
def repeated (min : Nat) (max : Option Nat) (greedy : Bool) (r : Node) : Node :=
  match min, max with
  | 1, some 1 => r
  | 0, none => star greedy r
  | 1, none => plus greedy r
  | n + 1, none => cat (exactly n r) (plus greedy r)
  | n, some m => andThen (if n = 0 then empty else exactly n r)
      (if m ≤ n then empty else upTo greedy (m - n) r)

end Node

/-- A way to go on: by a character of a set, with a pattern for the rest, or by ending. -/
abbrev Branch := Option (Ranges × Node)

namespace Branch

/-- The branches of a pattern with another one behind it, whose own branches stand for its end. -/
def followedBy (next : Node) (atEnd : Unit → List Branch) (bs : List Branch) : List Branch :=
  bs.flatMap fun
    | none => atEnd ()
    | some (set, rest) => [some (set, rest.andThen next)]

/-- The branches of an alternative; a second end is left out. -/
def orElse (left right : List Branch) : List Branch :=
  if left.any Option.isNone then left ++ right.filter Option.isSome else left ++ right

/-- The branches of so many rounds. -/
def exactly (body : Node) (round : List Branch) : Nat → List Branch
  | 0 => [none]
  | k + 1 => followedBy (if k = 0 then .empty else .exactly k body)
      (fun _ => exactly body round k) round

/-- The branches of at most so many rounds. -/
def upTo (greedy : Bool) (body : Node) (round : List Branch) : Nat → List Branch
  | 0 => [none]
  | k + 1 =>
    let again := followedBy (if k = 0 then .empty else .upTo greedy k body)
      (fun _ => upTo greedy body round k) round
    if greedy then orElse again [none] else orElse [none] again

end Branch

/-- The branches of a pattern at a place, the preferred ones first. -/
def Node.branches (p : Place) : Node → List Branch
  | .empty => [none]
  | .oneOf set => [some (set, .empty)]
  | .look l => if l.holds p then [none] else []
  | .cat a b => Branch.followedBy b (fun _ => b.branches p) (a.branches p)
  | .alt a b => Branch.orElse (a.branches p) (b.branches p)
  | .plus greedy r => Branch.followedBy (.loop greedy r) (fun _ => [none]) (r.branches p)
  | .loop greedy r =>
    let again := Branch.followedBy (.loop greedy r) (fun _ => []) (r.branches p)
    if greedy then again ++ [none] else none :: again
  | .exactly k r => Branch.exactly r (r.branches p) k
  | .upTo greedy k r => Branch.upTo greedy r (r.branches p) k
  | .group r => r.branches p

end StateExpr.Regex
