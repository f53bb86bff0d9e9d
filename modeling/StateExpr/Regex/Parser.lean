import StateExpr.Regex.Lexeme
/-!
# Reading patterns

`parse?` reads a pattern under some switches.  Switches set inside a pattern hold to the end of the
group they stand in; the names of groups are all different; and nothing is nested more than 250
levels deep.
-/

namespace StateExpr.Regex

/-- The combinations of two sets in a bracket. -/
inductive SetOperation where
  | intersection | difference | symmetricDifference

def SetOperation.apply : SetOperation → Ranges → Ranges → Ranges
  | intersection => Ranges.inter
  | difference => Ranges.difference
  | symmetricDifference => Ranges.symmetricDifference

/-- An open bracket: what its items hold together, and the operation that waits for them. -/
structure Bracket where
  negate : Bool
  items : Ranges := []
  count : Nat := 0
  /-- The levels of nesting among the items. -/
  height : Nat := 0
  pending : Option (SetOperation × Ranges × Nat) := none

namespace Bracket

/-- One more item. -/
def push (b : Bracket) (set : Ranges) (height : Nat) : Bracket :=
  { b with items := b.items ++ set, count := b.count + 1, height := max b.height height }

/-- The set of the items so far and its levels of nesting. -/
def combined (f : Flags) (b : Bracket) : Ranges × Nat :=
  let height := if b.count ≤ 1 then b.height else b.height + 1
  match b.pending with
  | none => (b.items, height)
  | some (op, left, leftHeight) =>
    (op.apply (f.closed left) (f.closed b.items), 1 + max leftHeight height)

/-- Make what is there the left side of an operation. -/
def operate (f : Flags) (op : SetOperation) (b : Bracket) : Bracket :=
  let (left, height) := b.combined f
  { negate := b.negate, pending := some (op, left, height) }

/-- The set of a bracket at its end, and its levels of nesting. -/
def close? (f : Flags) (b : Bracket) : Option (Ranges × Nat) := do
  let (set, height) := b.combined f
  some (← f.negated? b.negate (f.closed set), height + 1)

/-- Start a bracket: a caret negates it, and hyphens at its front or else one closing bracket stand
for themselves. -/
def open_ (f : Flags) (cs : List Char) : Bracket × List Char :=
  let (negate, cs) := match f.spaced cs with
    | '^' :: rest => (true, f.spaced rest)
    | cs => (false, cs)
  match takeRun (· == '-') f.verbose false cs with
  | ([], ']' :: rest) => ((Bracket.mk negate [] 0 0 none).push [(93, 93)] 0, rest)
  | (hyphens, rest) =>
    (hyphens.foldl (fun b _ => b.push [(45, 45)] 0) (Bracket.mk negate [] 0 0 none), rest)

end Bracket

/-- A class named between colons, from behind its bracket. -/
def takeBracketClass? (cs : List Char) : Option (Ranges × Bool × List Char) := do
  let .cons ':' cs := cs | none
  let (negate, cs) := match cs with
    | '^' :: rest => (true, rest)
    | cs => (false, cs)
  let (name, rest) := cs.span (· != ':')
  let .cons ':' (.cons ']' rest) := rest | none
  let (_, set) ← bracketClasses.find? (·.1 == String.ofList name)
  some (set, negate, rest)

/-- A single character or escape in a bracket. -/
def takeItem? (f : Flags) : List Char → Option (Escape × List Char)
  | [] => none
  | '\\' :: rest => takeEscape? f rest
  | c :: rest => some (.literal c, rest)

/-- The next character that counts behind a hyphen. -/
def peekSpaced (f : Flags) (cs : List Char) : Option Char :=
  if f.verbose then
    match cs.dropWhile isBlank with
    | '#' :: rest => (rest.dropWhile isBlank).head?
    | rest => rest.head?
  else cs.head?

/-- The range between two characters; without Unicode both are ASCII ones. -/
def rangeOf? (f : Flags) (low high : Char) : Option Ranges :=
  if low ≤ high && (f.unicode || high.toNat < 128) then some [(low.toNat, high.toNat)] else none

/-- A range, a character or a class in a bracket. -/
def takeRange? (f : Flags) (cs : List Char) : Option (Ranges × List Char) := do
  let (first, cs) ← takeItem? f cs
  match f.spaced cs with
  | [] => none
  | c :: rest =>
    let follower := peekSpaced f rest
    if c != '-' || follower == some ']' || follower == some '-' then
      match first with
      | .literal l => some (← rangeOf? f l l, c :: rest)
      | .set set => some (set, c :: rest)
      | .look _ => none
    else
      match first, ← takeItem? f (f.spaced rest) with
      | .literal low, (.literal high, rest) => some (← rangeOf? f low high, rest)
      | _, _ => none

/-- The rest of an open bracket: its set, its levels of nesting and what is behind it. -/
def takeBracket? (f : Flags) : (fuel : Nat) → Bracket → List Char →
    Option (Ranges × Nat × List Char)
  | 0, _, _ => none
  | fuel + 1, b, cs =>
    match f.spaced cs with
    | [] => none
    | ']' :: rest => (b.close? f).map fun (set, height) => (set, height, rest)
    | '[' :: rest =>
      match takeBracketClass? rest with
      | some (set, negate, rest) => do
        takeBracket? f fuel (b.push (← f.negated? negate (f.closed set)) 0) rest
      | none => do
        let (inner, rest) := Bracket.open_ f rest
        let (set, height, rest) ← takeBracket? f fuel inner rest
        takeBracket? f fuel (b.push set height) rest
    | '&' :: '&' :: rest => takeBracket? f fuel (b.operate f .intersection) rest
    | '-' :: '-' :: rest => takeBracket? f fuel (b.operate f .difference) rest
    | '~' :: '~' :: rest => takeBracket? f fuel (b.operate f .symmetricDifference) rest
    | c :: rest => do
      let (set, rest) ← takeRange? f (c :: rest)
      takeBracket? f fuel (b.push set 0) rest

/-- A part of a sequence: a pattern with its levels of nesting, or switches, which match nothing. -/
inductive Part where
  | pattern (node : Node) (height : Nat)
  | switches

/-- The open group: finished alternatives and the parts of the last one, each list backwards. -/
structure Group where
  flags : Flags
  /-- The names of groups so far. -/
  names : List (List Char) := []
  alternatives : List (Node × Nat) := []
  parts : List Part := []

namespace Part

def node : Part → Node
  | pattern node _ => node
  | switches => .empty

def height : Part → Nat
  | pattern _ height => height
  | switches => 0

/-- The pattern of parts in a row. -/
def sequence : List Part → Node × Nat
  | [] => (.empty, 0)
  | [part] => (part.node, part.height)
  | parts =>
    (parts.foldr (fun part rest => part.node.andThen rest) .empty,
      1 + (parts.map height).foldl max 0)

end Part

namespace Group

def push (g : Group) (node : Node) (height : Nat) : Group :=
  { g with parts := .pattern node height :: g.parts }

/-- Start the next alternative. -/
def nextAlternative (g : Group) : Group :=
  { g with alternatives := Part.sequence g.parts.reverse :: g.alternatives, parts := [] }

/-- The pattern of the whole group. -/
def close (g : Group) : Node × Nat :=
  match g.alternatives with
  | [] => Part.sequence g.parts.reverse
  | earlier =>
    let (last, height) := Part.sequence g.parts.reverse
    (earlier.foldl (fun right left => Node.alt left.1 right) last,
      1 + (earlier.map (·.2)).foldl max height)

/-- Repeat the last part of the group. -/
def repeat? (g : Group) (bounds : Bounds) (isLazy : Bool) : Option Group :=
  match g.parts with
  | .pattern node height :: parts =>
    let greedy := isLazy == g.flags.swapGreed
    some { g with
      parts := .pattern (node.repeated bounds.min bounds.max greedy) (height + 1) :: parts }
  | _ => none

end Group

/-- A character as a pattern. -/
def literalNode (f : Flags) (c : Char) : Node := .oneOf (f.closed [(c.toNat, c.toNat)])

/-- What a point stands for: any character, or any but the ends of lines. -/
def anyNode? (f : Flags) : Option Node :=
  if !f.unicode then none
  else if f.dotAll then some (.oneOf [(0, Ranges.top)])
  else if f.carriage then some (.oneOf (Ranges.complement [(10, 10), (13, 13)]))
  else some (.oneOf (Ranges.complement [(10, 10)]))

/-- The start of a line or of the text. -/
def startNode (f : Flags) : Node :=
  .look (if f.multiLine then .lineStart f.carriage else .textStart)

/-- The end of a line or of the text. -/
def endNode (f : Flags) : Node :=
  .look (if f.multiLine then .lineEnd f.carriage else .textEnd)

/-- What an opening parenthesis starts. -/
inductive Opening where
  /-- Switches for the rest of the group around them. -/
  | switches (flags : Flags)
  /-- A group, whose match may be remembered. -/
  | group (marked : Bool) (flags : Flags) (names : List (List Char))

/-- The start of a group, from behind its parenthesis. -/
def takeOpening? (f : Flags) (names : List (List Char)) (cs : List Char) :
    Option (Opening × List Char) :=
  let named (cs : List Char) := do
    let (name, rest) ← takeName? cs
    if names.contains name then none else some (.group true f (name :: names), rest)
  match f.spaced cs with
  | '?' :: '=' :: _ => none
  | '?' :: '!' :: _ => none
  | '?' :: '<' :: '=' :: _ => none
  | '?' :: '<' :: '!' :: _ => none
  | '?' :: 'P' :: '<' :: rest => named rest
  | '?' :: '<' :: rest => named rest
  | '?' :: rest =>
    match takeSwitches? { flags := f } rest with
    | some (s, ')' :: rest) => if s.seen.isEmpty then none else some (.switches s.flags, rest)
    | some (s, ':' :: rest) => some (.group false s.flags names, rest)
    | _ => none
  | cs => some (.group true f names, cs)

/-- The rest of an open group, or of the whole pattern when `depth` is zero: its pattern with the
levels of nesting, the names of groups and what is behind it. -/
def takeGroup? : (fuel : Nat) → (depth : Nat) → Group → List Char →
    Option ((Node × Nat) × List (List Char) × List Char)
  | 0, _, _, _ => none
  | fuel + 1, depth, g, cs =>
    match g.flags.spaced cs with
    | [] => if depth = 0 then some (g.close, g.names, []) else none
    | c :: rest =>
      if c == ')' then if depth = 0 then none else some (g.close, g.names, rest)
      else if c == '|' then takeGroup? fuel depth g.nextAlternative rest
      else if c == '(' then do
        match ← takeOpening? g.flags g.names rest with
        | (.switches flags, rest) =>
          takeGroup? fuel depth { g with flags := flags, parts := .switches :: g.parts } rest
        | (.group marked flags names, rest) =>
          let ((node, height), names, rest) ←
            takeGroup? fuel (depth + 1) { flags := flags, names := names } rest
          let node := if marked then .group node else node
          takeGroup? fuel depth { g.push node (height + 1) with names := names } rest
      else if c == '[' then do
        let (bracket, rest) := Bracket.open_ g.flags rest
        let (set, height, rest) ← takeBracket? g.flags fuel bracket rest
        takeGroup? fuel depth (g.push (.oneOf set) height) rest
      else if c == '?' || c == '*' || c == '+' then do
        let bounds : Bounds := ⟨if c == '+' then 1 else 0, if c == '?' then some 1 else none⟩
        let (isLazy, rest) := takeLazy rest
        takeGroup? fuel depth (← g.repeat? bounds isLazy) rest
      else if c == '{' then do
        let (bounds, rest) ← takeBounds? g.flags rest
        let (isLazy, rest) := takeLazy (g.flags.spaced rest)
        takeGroup? fuel depth (← g.repeat? bounds isLazy) rest
      else if c == '\\' then do
        match ← takeEscape? g.flags rest with
        | (.literal c, rest) => takeGroup? fuel depth (g.push (literalNode g.flags c) 0) rest
        | (.set set, rest) => takeGroup? fuel depth (g.push (.oneOf set) 0) rest
        | (.look l, rest) => takeGroup? fuel depth (g.push (.look l) 0) rest
      else if c == '.' then do takeGroup? fuel depth (g.push (← anyNode? g.flags) 0) rest
      else if c == '^' then takeGroup? fuel depth (g.push (startNode g.flags) 0) rest
      else if c == '$' then takeGroup? fuel depth (g.push (endNode g.flags) 0) rest
      else takeGroup? fuel depth (g.push (literalNode g.flags c) 0) rest

/-- The deepest nesting of a pattern. -/
def maxHeight : Nat := 250

/-- Read a pattern under some switches. -/
def parse? (f : Flags) (cs : List Char) : Option Node :=
  match takeGroup? (cs.length + 1) 0 { flags := f } cs with
  | some ((node, height), _, _) => if height ≤ maxHeight then some node else none
  | none => none

end StateExpr.Regex
