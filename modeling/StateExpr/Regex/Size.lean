import StateExpr.Regex.Node
/-!
# Sizes of patterns

Patterns are limited by the size of the automaton that reads the bytes of a text in UTF-8, with all
counts written out.  `Node.size` is that size in bytes: a state takes 32, a transition out of a
state that tells bytes apart 8, and a transition that takes no byte 4 more where there may be
several.  A pattern needs two automata, one for each direction of reading, and the greater one
counts.

Read forward, a set of characters is the smallest automaton of its encodings.  Read backward, only
the beginnings of encodings are shared, and groups are not remembered.
-/

namespace StateExpr.Regex

/-- The direction in which the bytes of a text are read. -/
inductive Direction where
  | forward | backward
deriving Repr, DecidableEq

/-- Ranges of bytes, one for each place of an encoding. -/
abbrev ByteRanges := List (Nat × Nat)

/-- The code points from one on that have `places` bytes behind the first, split so that the bytes
of each place are independent of each other; `lead` is the first byte of the lowest of all. -/
def splitBytes (lead : Nat) : (places : Nat) → (low high : Nat) → List ByteRanges
  | 0, low, high => [[(lead + low, lead + high)]]
  | places + 1, low, high =>
    let block := Nat.pow 64 (places + 1)
    let top := (low / block, high / block)
    let whole (first last : Nat) : ByteRanges :=
      (lead + first, lead + last) :: List.replicate (places + 1) (128, 191)
    let inner (head low high : Nat) : List ByteRanges :=
      (splitBytes 128 places low high).map ((lead + head, lead + head) :: ·)
    if top.1 = top.2 then inner top.1 (low % block) (high % block)
    else
      let first := if low % block = 0 then top.1 else top.1 + 1
      let last := if high % block = block - 1 then top.2 else top.2 - 1
      (if low % block = 0 then [] else inner top.1 (low % block) (block - 1)) ++
        (if first ≤ last then [whole first last] else []) ++
        (if high % block = block - 1 then [] else inner top.2 0 (high % block))

/-- The part of a range of code points between two others. -/
def clip (r : Nat × Nat) (low high : Nat) : Option (Nat × Nat) :=
  if max r.1 low ≤ min r.2 high then some (max r.1 low, min r.2 high) else none

/-- The encodings of a range of code points; the halves of surrogate pairs have none. -/
def encodings (r : Nat × Nat) : List ByteRanges :=
  let part (lead places low high : Nat) : List ByteRanges :=
    match clip r low high with
    | some (first, last) => splitBytes lead places first last
    | none => []
  part 0 0 0 0x7f ++ part 0xc0 1 0x80 0x7ff ++ part 0xe0 2 0x800 0xd7ff ++
    part 0xe0 2 0xe000 0xffff ++ part 0xf0 3 0x10000 Ranges.top

/-- How many ranges two encodings share from the first place on. -/
def sharedPlaces : ByteRanges → ByteRanges → Nat
  | a :: as, b :: bs => if a = b then sharedPlaces as bs + 1 else 0
  | _, _ => 0

/-- The states that tell the bytes of encodings apart when beginnings are shared. -/
def backwardStates : (previous : ByteRanges) → List ByteRanges → Nat
  | _, [] => 0
  | previous, e :: rest => e.length - sharedPlaces previous e + backwardStates e rest

/-- A state of the smallest automaton: its transitions, each to a state by its number. -/
abbrev ByteState := List ((Nat × Nat) × Nat)

/-- Group encodings that start with the same range; each group keeps what is behind that range. -/
def byFirst : List ByteRanges → List ((Nat × Nat) × List ByteRanges)
  | [] => []
  | [] :: rest => byFirst rest
  | (r :: tail) :: rest =>
    match byFirst rest with
    | (s, tails) :: groups =>
      if r = s then (r, tail :: tails) :: groups else (r, [tail]) :: (s, tails) :: groups
    | [] => [(r, [tail])]

/-- The number of a state, which is new if there is none with the same transitions; number zero is
the end of all encodings. -/
def numbered (state : ByteState) (known : List ByteState) : Nat × List ByteState :=
  match known.findIdx? (· == state) with
  | some i => (known.length - i, known)
  | none => (known.length + 1, state :: known)

/-- Number the states for encodings of at most so many places. -/
def forwardStates : (places : Nat) → List ByteRanges → List ByteState → Nat × List ByteState
  | 0, _, known => (0, known)
  | places + 1, encodings, known =>
    match byFirst encodings with
    | [] => (0, known)
    | groups =>
      let (state, known) := groups.foldl (fun (state, known) (r, tails) =>
        let (number, known) := forwardStates places tails known
        ((r, number) :: state, known)) ([], known)
      numbered state known

/-- The size of the automaton of one character of a set. -/
def setSize (direction : Direction) (set : Ranges) : Nat :=
  let ranges := Ranges.canonical set
  match ranges with
  | [] => 32
  | [(low, high)] =>
    if low = high then 32 * ((encodings (low, high)).head?.map List.length).getD 1
    else sizeOf ranges
  | _ => sizeOf ranges
where
  sizeOf (ranges : Ranges) : Nat :=
    if ranges.all fun r => r.2 ≤ 127 then 64 + 8 * ranges.length
    else
      let all := ranges.flatMap encodings
      match direction with
      | .backward => 64 + 4 * all.length + 32 * backwardStates [] all
      | .forward =>
        let (_, states) := forwardStates 4 all []
        states.foldl (fun size state => size + (32 + 8 * state.length)) 32

namespace Node

/-- The set of an alternative between single characters. -/
def joinedSet? : Node → Option Ranges
  | oneOf set => some set
  | alt a b => do some ((← a.joinedSet?) ++ (← b.joinedSet?))
  | _ => none

/-- The size of the automaton of a pattern for one direction.  In an alternative, `inside` tells
that the states where it starts and ends are counted already. -/
def automatonSize (direction : Direction) (inside : Bool) : Node → Nat
  | empty => 32
  | oneOf set => setSize direction set
  | look _ => 32
  | cat a b => a.automatonSize direction false + b.automatonSize direction false
  | alt a b =>
    match (alt a b).joinedSet? with
    | some set => setSize direction set
    | none =>
      (if inside then 4 else 72) + a.automatonSize direction false + b.automatonSize direction true
  | plus _ r => 40 + r.automatonSize direction false
  | loop _ r => 40 + r.automatonSize direction false
  | exactly k r => max 32 (k * r.automatonSize direction false)
  | upTo _ k r => 32 + k * (40 + r.automatonSize direction false)
  | group r =>
    (match direction with
      | .forward => 64
      | .backward => 0) + r.automatonSize direction false

/-- The size of a pattern. -/
def size (r : Node) : Nat :=
  max (r.automatonSize .forward false) (r.automatonSize .backward false)

end Node

end StateExpr.Regex
