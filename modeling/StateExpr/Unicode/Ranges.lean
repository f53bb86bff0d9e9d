/-!
# Sets of characters

A set of characters as inclusive ranges of code points, with the operations of sets.  `canonical`
sorts the ranges and joins those that touch, which the complement builds on.
-/

namespace StateExpr

/-- Inclusive ranges of code points. -/
abbrev Ranges := List (Nat × Nat)

namespace Ranges

/-- The greatest code point. -/
def top : Nat := 0x10ffff

/-- The code point lies in one of the ranges. -/
def holds (rs : Ranges) (n : Nat) : Bool := rs.any fun r => decide (r.1 ≤ n ∧ n ≤ r.2)

/-- The character lies in one of the ranges. -/
def contains (rs : Ranges) (c : Char) : Bool := holds rs c.toNat

/-- The value of a lower-case hexadecimal digit. -/
def hexDigit (c : Char) : Nat := if c.isDigit then c.toNat - 48 else c.toNat - 87

/-- The ranges written so far, the start of the one being read, and the number being read. -/
structure Reading where
  done : Ranges
  start : Option Nat
  number : Nat

/-- Take one character of the written form. -/
def Reading.step (s : Reading) (c : Char) : Reading :=
  if c = '-' then ⟨s.done, some s.number, 0⟩
  else if c = ' ' ∨ c = '\n' then ⟨(s.start.getD s.number, s.number) :: s.done, none, 0⟩
  else ⟨s.done, s.start, 16 * s.number + hexDigit c⟩

/-- Read ranges such as `41-5a 5f`: hexadecimal, with single blanks or line ends between them. -/
def ofText (text : String) : Ranges :=
  if text.isEmpty then []
  else ((text.toList ++ [' ']).foldl Reading.step ⟨[], none, 0⟩).done.reverse

/-- Join the neighbours of sorted ranges, from the first on. -/
def joinAll : (current : Nat × Nat) → Ranges → Ranges
  | current, [] => [current]
  | current, s :: rest =>
    if s.1 ≤ current.2 + 1 then joinAll (current.1, max current.2 s.2) rest
    else current :: joinAll s rest

/-- The same set, sorted and with gaps between the ranges. -/
def canonical (rs : Ranges) : Ranges :=
  match rs.mergeSort fun a b => decide (a.1 ≤ b.1) with
  | [] => []
  | r :: rest => joinAll r rest

/-- The gaps of canonical ranges from a code point on. -/
def gaps (start : Nat) : Ranges → Ranges
  | [] => if start ≤ top then [(start, top)] else []
  | r :: rest =>
    if start < r.1 then (start, r.1 - 1) :: gaps (r.2 + 1) rest else gaps (r.2 + 1) rest

/-- All characters outside a set. -/
def complement (rs : Ranges) : Ranges := gaps 0 (canonical rs)

def union (a b : Ranges) : Ranges := canonical (a ++ b)

def inter (a b : Ranges) : Ranges := complement (complement a ++ complement b)

def difference (a b : Ranges) : Ranges := inter a (complement b)

def symmetricDifference (a b : Ranges) : Ranges := union (difference a b) (difference b a)

end Ranges

end StateExpr
