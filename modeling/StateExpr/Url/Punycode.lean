/-!
# Punycode

Labels of domain names in ASCII: the ASCII characters come first, and the others follow as
differences in ascending order, written in digits of base 36 whose thresholds adapt.
-/

namespace StateExpr.Punycode

/-- The character of a digit: the letters, then the figures. -/
def digitChar (d : Nat) : Char := Char.ofNat (if d < 26 then 97 + d else 22 + d)

/-- The value of a digit. -/
def digitValue? (c : Char) : Option Nat :=
  if c.isDigit then some (c.toNat - 22)
  else if c.isAlpha then some (c.toLower.toNat - 97)
  else none

/-- The threshold of the digit at a place, which grows by 36 from 36 on. -/
def threshold (bias place : Nat) : Nat :=
  if place ≤ bias then 1 else if bias + 26 ≤ place then 26 else place - bias

theorem threshold_pos (bias place : Nat) : 1 ≤ threshold bias place := by
  unfold threshold
  split
  · omega
  · split <;> omega

/-- How often a difference is divided until it is small, in places, and what is left of it. -/
def settled (delta : Nat) (places : Nat) : Nat × Nat :=
  if 455 < delta then settled (delta / 35) (places + 36) else (delta, places)
termination_by delta
decreasing_by omega

/-- The bias after a difference, when so many characters are there. -/
def adapted (delta count : Nat) (first : Bool) : Nat :=
  let delta := if first then delta / 700 else delta / 2
  let (rest, places) := settled (delta + delta / count) 0
  places + 36 * rest / (rest + 38)

/-- The digits of a difference, the lowest first. -/
def digits (bias place n : Nat) : List Char :=
  let t := threshold bias place
  if n < t then [digitChar n]
  else digitChar (t + (n - t) % (36 - t)) :: digits bias (place + 36) ((n - t) / (36 - t))
termination_by n
decreasing_by
  have := threshold_pos bias place
  exact Nat.lt_of_le_of_lt (Nat.div_le_self _ _) (by omega)

/-- What has been written, the running difference, the bias and the count of characters done. -/
structure Progress where
  written : List Char
  delta : Nat
  bias : Nat
  done : Nat

/-- One character of the label, in the round of the code point `n`. -/
def Progress.step (basic n : Nat) (p : Progress) (c : Char) : Progress :=
  if c.toNat < n then { p with delta := p.delta + 1 }
  else if c.toNat = n then
    ⟨p.written ++ digits p.bias 36 p.delta, 0, adapted p.delta (p.done + 1) (p.done == basic),
      p.done + 1⟩
  else p

/-- The rounds of all code points in ascending order, from a code point on. -/
def rounds (label : List Char) (basic : Nat) : (points : List Nat) → (start : Nat) → Progress →
    Progress
  | [], _, p => p
  | n :: rest, start, p =>
    let p := { p with delta := p.delta + (n - start) * (p.done + 1) }
    let p := label.foldl (Progress.step basic n) p
    rounds label basic rest (n + 1) { p with delta := p.delta + 1 }

/-- A label in ASCII. -/
def encode (label : List Char) : List Char :=
  let basic := label.filter fun c => c.toNat < 128
  let points := ((label.filter fun c => 128 ≤ c.toNat).map Char.toNat).mergeSort.eraseReps
  let mark := if basic.isEmpty then [] else ['-']
  basic ++ mark ++ (rounds label basic.length points 128 ⟨[], 0, 72, basic.length⟩).written

/-- Read a difference: the position it leads to and the rest. -/
def takeDelta? (bias : Nat) : (place weight position : Nat) → List Char → Option (Nat × List Char)
  | _, _, _, [] => none
  | place, weight, position, c :: rest => do
    let d ← digitValue? c
    let t := threshold bias place
    let position := position + d * weight
    if d < t then some (position, rest)
    else takeDelta? bias (place + 36) (weight * (36 - t)) position rest

/-- Insert the characters that the rest of a label describes. -/
def insertAll? : (fuel : Nat) → (label : List Char) → (n position bias : Nat) → List Char →
    Option (List Char)
  | _, label, _, _, _, [] => some label
  | 0, _, _, _, _, _ => none
  | fuel + 1, label, n, position, bias, cs => do
    let (next, rest) ← takeDelta? bias 36 1 position cs
    let size := label.length + 1
    let n := n + next / size
    guard (n.isValidChar)
    let place := next % size
    insertAll? fuel (label.take place ++ Char.ofNat n :: label.drop place) n (place + 1)
      (adapted (next - position) size (position == 0)) rest

/-- The label that a text in ASCII describes. -/
def decode? (cs : List Char) : Option (List Char) :=
  let tail := (cs.reverse.takeWhile (· != '-')).reverse
  let basic := cs.take (cs.length - tail.length - 1)
  insertAll? cs.length basic 128 0 72 tail

end StateExpr.Punycode
