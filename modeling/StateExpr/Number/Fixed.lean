import StateExpr.Number.Dyadic
/-!
# Decimals of fixed precision

`Dyadic.fixed p` writes a magnitude with exactly `p` places.  The exact value is rounded once, a
half to the even neighbour.
-/

namespace StateExpr

/-- The nearest integer to `num / den`, a half to the even neighbour. -/
def roundHalfEven (num den : Nat) : Nat :=
  let quotient := num / den
  let rest := num % den
  if 2 * rest < den then quotient
  else if den < 2 * rest then quotient + 1
  else if quotient % 2 = 0 then quotient else quotient + 1

/-- Digits of `n`, with zeros in front up to `width`. -/
def paddedDigits (width n : Nat) : List Char :=
  let digits := Nat.toDigits 10 n
  List.replicate (width - digits.length) '0' ++ digits

/-- The whole part and the `places` digits behind the point of the rounded magnitude. -/
def Dyadic.fixed (d : Dyadic) (places : Nat) : List Char × List Char :=
  let scaled := roundHalfEven (d.numerator * Nat.pow 10 places) d.denominator
  (Nat.toDigits 10 (scaled / Nat.pow 10 places),
    if places = 0 then [] else paddedDigits places (scaled % Nat.pow 10 places))

end StateExpr
