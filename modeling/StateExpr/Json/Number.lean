import StateExpr.Number.Reading
/-!
# Numbers in JSON

A number is a significand of decimal digits, an optional point, and an optional exponent.  The
significand keeps digits as long as it fits 64 bits; further digits before the point only raise the
exponent and further digits behind it are dropped.  Integers that fit are taken as they are; all
others are scaled by one power of ten, which can be off by the last binary place when the
significand has more than 53 bits.  A magnitude that scales to infinity is an error.
-/

namespace StateExpr.Json

/-- The digits read so far and the power of ten that goes with them. -/
structure Significand where
  digits : Nat
  exponent : Int
deriving Repr

/-- The greatest significand. -/
def maxSignificand : Nat := 18446744073709551615

/-- Digits before the point; they stop fitting from the first one that does not fit. -/
def wholeDigits : (fits : Bool) → Significand → List Char → Significand × Bool
  | fits, s, [] => (s, fits)
  | fits, s, c :: rest =>
    let next := 10 * s.digits + (c.toNat - 48)
    if fits && decide (next ≤ maxSignificand) then wholeDigits true ⟨next, s.exponent⟩ rest
    else wholeDigits false ⟨s.digits, s.exponent + 1⟩ rest

/-- Digits behind the point; the first one that does not fit ends them. -/
def fractionDigits : Significand → List Char → Significand
  | s, [] => s
  | s, c :: rest =>
    let next := 10 * s.digits + (c.toNat - 48)
    if next ≤ maxSignificand then fractionDigits ⟨next, s.exponent - 1⟩ rest else s

/-- Scale by a power of ten in steps that stay within the range of numbers. -/
def scale : (fuel : Nat) → Float → Int → Option Float
  | 0, _, _ => some 0
  | fuel + 1, x, exponent =>
    if exponent.natAbs ≤ 308 then
      let power := Float.ofScientific 1 false exponent.natAbs
      if 0 ≤ exponent then
        let scaled := x * power
        if scaled.isInf then none else some scaled
      else some (x / power)
    else if x == 0 then some x
    else if 0 ≤ exponent then none
    else scale fuel (x / Float.ofScientific 1 false 308) (exponent + 308)

/-- The number of a significand, unless it is beyond the range. -/
def Significand.number? (s : Significand) : Option Float :=
  scale 4 (Float.ofScientific s.digits false 0) (max s.exponent (-100000))

/-- An exponent behind its letter, and the rest of the text. -/
def takeExponent? (cs : List Char) : Option (Int × List Char) :=
  let (negative, rest) := takeSign cs
  let (digits, tail) := spanDigits rest
  if digits.isEmpty then none
  else some (if negative then -(digitsValue digits : Int) else digitsValue digits, tail)

/-- A number without its sign: whether it is an integer that fits 64 bits, its magnitude, and the
rest of the text. -/
def takeMagnitude? (cs : List Char) : Option (Bool × Significand × List Char) := do
  let (whole, rest) := spanDigits cs
  match whole with
  | [] => none
  | '0' :: _ :: _ => none
  | _ =>
    let (significand, fits) := wholeDigits true ⟨0, 0⟩ whole
    let (significand, exact, rest) ← match rest with
      | '.' :: more =>
        let (fraction, tail) := spanDigits more
        if fraction.isEmpty then none else some (fractionDigits significand fraction, false, tail)
      | _ => some (significand, fits, rest)
    match rest with
    | c :: more =>
      if c = 'e' ∨ c = 'E' then
        let (exponent, tail) ← takeExponent? more
        some (false, ⟨significand.digits, significand.exponent + exponent⟩, tail)
      else some (exact, significand, rest)
    | [] => some (exact, significand, rest)

/-- A number as it is written: an integer that fits 64 bits, signed or not, or any other number. -/
inductive Numeral where
  | whole (n : Int)
  | real (x : Float)

namespace Numeral

def toFloat : Numeral → Float
  | whole n => numberOfInt n
  | real x => x

/-- The same number written in the same of the two ways. -/
def beq : Numeral → Numeral → Bool
  | whole m, whole n => m == n
  | real x, real y => x == y
  | _, _ => false

instance : BEq Numeral := ⟨beq⟩

/-- The numeral of an integer below zero, unless it is too small for one; minus zero is none. -/
def negative (n : Nat) : Numeral :=
  if 0 < n && decide (int64Min ≤ -(n : Int)) then whole (-n)
  else real (-(Float.ofScientific n false 0))

end Numeral

/-- A number and the rest of the text. -/
def takeNumber? (cs : List Char) : Option (Numeral × List Char) := do
  let (negative, unsigned) := match cs with
    | '-' :: rest => (true, rest)
    | _ => (false, cs)
  let (exact, significand, rest) ← takeMagnitude? unsigned
  if exact then
    let n := significand.digits
    some (if negative then .negative n else .whole n, rest)
  else
    let magnitude ← significand.number?
    some (.real (if negative then -magnitude else magnitude), rest)

end StateExpr.Json
