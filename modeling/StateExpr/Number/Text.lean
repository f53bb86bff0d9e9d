import StateExpr.Number.Shortest
/-!
# Numbers as text

Three written forms of a number: `positional` never uses an exponent, `scientific` is one digit, a
point and an exponent, and `jsonText` takes the positional form for magnitudes from `1e-5` up to
`1e16` and the scientific form outside.  `numberText` is the language's own form, in which whole
numbers below `1e20` are written as 64-bit integers.
-/

namespace StateExpr

namespace Decimal

/-- All digits in place, the point where it belongs. -/
def positional (x : Decimal) : List Char :=
  let digits := Nat.toDigits 10 x.digits
  if 0 ≤ x.exponent then digits ++ List.replicate x.exponent.toNat '0'
  else
    let behind := (-x.exponent).toNat
    if behind < digits.length then
      digits.take (digits.length - behind) ++ '.' :: digits.drop (digits.length - behind)
    else '0' :: '.' :: List.replicate (behind - digits.length) '0' ++ digits

/-- The exponent of the leading digit. -/
def leading (x : Decimal) : Int := (Nat.toDigits 10 x.digits).length - 1 + x.exponent

/-- One digit, the others behind a point, and the signed exponent. -/
def scientific (x : Decimal) : List Char :=
  let exponent := x.leading
  let sign := if exponent < 0 then '-' else '+'
  let tail := 'e' :: sign :: Nat.toDigits 10 exponent.natAbs
  match Nat.toDigits 10 x.digits with
  | [] => tail
  | [d] => d :: tail
  | d :: rest => d :: '.' :: rest ++ tail

end Decimal

/-- A minus sign in front of the text of a negative number. -/
def withSign (negative : Bool) (text : List Char) : List Char :=
  if negative then '-' :: text else text

/-- The shortest positional text of a number, with the usual names of the non-finite ones. -/
def positionalText (x : Float) : String :=
  match Dyadic.ofFloat? x with
  | some d => String.ofList (withSign d.negative (d.shortest .up).positional)
  | none => if x.isNaN then "NaN" else if x < 0 then "-inf" else "inf"

/-- The text of a finite number: a whole one below `1e20` is cut to 64 bits and written as an
integer, any other is written positionally. -/
def finiteText (x : Float) : String :=
  if isWholeNumber x && x.abs < 1e20 then toString (saturateInt64 x) else positionalText x

/-- The text of a number in the expression language. -/
def numberText (x : Float) : String :=
  if x.isNaN then "NaN"
  else if x.isInf then if x < 0 then "-Infinity" else "Infinity"
  else finiteText x

/-- The text of a number in JSON: 64-bit integers as such, all else in its shortest digits. -/
def jsonNumberText (x : Float) : String :=
  match Dyadic.ofFloat? x with
  | none => "null"
  | some d =>
    match int64Value? x with
    | some k => toString k
    | none =>
      let decimal := d.shortest .even
      let text :=
        if -5 ≤ decimal.leading ∧ decimal.leading < 16 then decimal.positional
        else decimal.scientific
      String.ofList (withSign d.negative text)

end StateExpr
