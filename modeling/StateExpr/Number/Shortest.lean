import StateExpr.Number.Dyadic
/-!
# The shortest decimal of a number

Of all decimals that read back as a number, `Dyadic.shortest` takes one with the fewest digits, and
among those the nearest.  The reals that read back as `m · 2 ^ e` are an interval around it, whose
ends belong to it exactly when `m` is even.  For 1, 2, … 17 digits the two neighbours of the number
on that decimal grid are tested; the first grid with a neighbour in the interval wins.
-/

namespace StateExpr

/-- The decimal `digits · 10 ^ exponent`. -/
structure Decimal where
  digits : Nat
  exponent : Int
deriving Repr, DecidableEq

/-- Which neighbour an exact tie between two decimals takes. -/
inductive TieRule
  | up
  | even
deriving Repr, DecidableEq

/-- The count of decimal digits, zero having none. -/
def digitCount (n : Nat) : Nat := if n = 0 then 0 else (Nat.toDigits 10 n).length

namespace Dyadic

/-- A grid of step `10 ^ step` around a number: the number and the ends of its interval, in
quarters of the last binary place, over one denominator with the grid's step. -/
structure Grid where
  value : Nat
  low : Nat
  high : Nat
  /-- One step of the grid in the same unit. -/
  unit : Nat

/-- The number on the grid of step `10 ^ step`. -/
def grid (d : Dyadic) (step : Int) : Grid :=
  let up := Nat.pow 2 (d.exponent - 2).toNat * Nat.pow 10 (-step).toNat
  let down := Nat.pow 2 (2 - d.exponent).toNat * Nat.pow 10 step.toNat
  let lowerGap := if d.mantissa = hiddenBit ∧ -1074 < d.exponent then 1 else 2
  { value := 4 * d.mantissa * up
    low := (4 * d.mantissa - lowerGap) * up
    high := (4 * d.mantissa + 2) * up
    unit := down }

/-- The multiple `n` of the grid's step reads back as the number. -/
def readsBack (d : Dyadic) (g : Grid) (n : Nat) : Bool :=
  let point := n * g.unit
  if d.mantissa % 2 = 0 then decide (g.low ≤ point ∧ point ≤ g.high)
  else decide (g.low < point ∧ point < g.high)

/-- The nearest multiple of the grid's step that reads back, if one of the two neighbours does. -/
def nearestOn (d : Dyadic) (tie : TieRule) (step : Int) : Option Nat :=
  let g := d.grid step
  let below := g.value / g.unit
  let rest := g.value % g.unit
  match d.readsBack g below, d.readsBack g (below + 1) with
  | false, false => none
  | true, false => some below
  | false, true => some (below + 1)
  | true, true =>
    if 2 * rest < g.unit then some below
    else if g.unit < 2 * rest then some (below + 1)
    else match tie with
      | .up => some (below + 1)
      | .even => some (if below % 2 = 0 then below else below + 1)

/-- The exponent of the leading decimal digit of a non-zero magnitude. -/
def leadingExponent (d : Dyadic) : Int :=
  let whole := d.magnitudeDown
  if whole = 0 then -(digitCount ((d.denominator - 1) / d.numerator) : Int)
  else (digitCount whole : Int) - 1

/-- Drop trailing zeros into the exponent, at most `fuel` of them. -/
def dropZeros : Nat → Decimal → Decimal
  | 0, x => x
  | fuel + 1, x =>
    if x.digits ≠ 0 ∧ x.digits % 10 = 0 then dropZeros fuel ⟨x.digits / 10, x.exponent + 1⟩ else x

/-- The magnitude in the fewest digits that read back. -/
def shortest (d : Dyadic) (tie : TieRule) : Decimal :=
  if d.mantissa = 0 then ⟨0, 0⟩
  else
    let top := d.leadingExponent
    let found := (List.range 17).findSome? fun (n : Nat) =>
      (d.nearestOn tie (top - n)).map fun digits => (⟨digits, top - n⟩ : Decimal)
    dropZeros 18 (found.getD ⟨d.mantissa, d.exponent⟩)

end Dyadic

end StateExpr
