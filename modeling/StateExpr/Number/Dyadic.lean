/-!
# The exact value of a number

A finite number is `± m · 2 ^ e` with a natural `m` and an integer `e`.  Everything that has to be
exact about numbers (whether one is whole, where it rounds, how it is written) starts from this
form, so it is computed with natural numbers and never with rounding arithmetic.

Main definitions: `Dyadic.ofFloat?`, `wholeValue?`, `int64Value?`, `saturateInt64`, and the four
roundings `truncated`, `floored`, `ceiled` and `roundedAway`.
-/

namespace StateExpr

/-- A finite number, read as `± mantissa · 2 ^ exponent`. -/
structure Dyadic where
  negative : Bool
  mantissa : Nat
  exponent : Int
deriving Repr, DecidableEq

namespace Dyadic

/-- The bit of the sign in the encoding of a number. -/
def signBit : Nat := 9223372036854775808

/-- The leading bit of a mantissa of full length, which the encoding leaves out. -/
def hiddenBit : Nat := 4503599627370496

/-- The form of a finite number; infinities and NaN have none. -/
def ofFloat? (x : Float) : Option Dyadic :=
  let bits : Nat := x.toBits.toNat
  let negative := decide (signBit ≤ bits)
  let field : Nat := bits / hiddenBit % 2048
  let fraction : Nat := bits % hiddenBit
  if field = 2047 then none
  else if field = 0 then some ⟨negative, fraction, -1074⟩
  else some ⟨negative, fraction + hiddenBit, (field : Int) - 1075⟩

/-- How many binary places lie behind the point. -/
def places (d : Dyadic) : Nat := (-d.exponent).toNat

/-- Numerator of the magnitude over the denominator `2 ^ places`. -/
def numerator (d : Dyadic) : Nat := d.mantissa * Nat.pow 2 d.exponent.toNat

def denominator (d : Dyadic) : Nat := Nat.pow 2 d.places

theorem denominator_pos (d : Dyadic) : 0 < d.denominator := Nat.two_pow_pos _

/-- No binary digit behind the point is set. -/
def isWhole (d : Dyadic) : Bool := d.numerator % d.denominator == 0

/-- The sign of `d` on a natural number. -/
def signed (d : Dyadic) (n : Nat) : Int := if d.negative then -(n : Int) else n

/-- The sign of `d` on a natural number, zero included. -/
def signedFloat (d : Dyadic) (n : Nat) : Float :=
  let magnitude := Float.ofScientific n false 0
  if d.negative then -magnitude else magnitude

def magnitudeDown (d : Dyadic) : Nat := d.numerator / d.denominator

def magnitudeUp (d : Dyadic) : Nat := (d.numerator + d.denominator - 1) / d.denominator

/-- The nearest natural number to the magnitude; a half goes up. -/
def magnitudeNearest (d : Dyadic) : Nat := (2 * d.numerator + d.denominator) / (2 * d.denominator)

end Dyadic

/-- The least 64-bit signed integer. -/
def int64Min : Int := -9223372036854775808

/-- The greatest 64-bit signed integer. -/
def int64Max : Int := 9223372036854775807

/-- An integer that fits 64 bits, else nothing. -/
def fitInt64 (n : Int) : Option Int := if int64Min ≤ n ∧ n ≤ int64Max then some n else none

theorem fitInt64_eq_some_iff {n m : Int} :
    fitInt64 n = some m ↔ n = m ∧ int64Min ≤ n ∧ n ≤ int64Max := by
  unfold fitInt64
  split
  · simp_all
  · rename_i h
    simp only [reduceCtorEq, false_iff]
    rintro ⟨rfl, hn⟩
    exact h hn

/-- The closest 64-bit integer to an integer. -/
def clampInt64 (n : Int) : Int := max int64Min (min n int64Max)

/-- The integer that a number is, when it is one. -/
def wholeValue? (x : Float) : Option Int :=
  match Dyadic.ofFloat? x with
  | some d => if d.isWhole then some (d.signed d.magnitudeDown) else none
  | none => none

/-- A finite number without a fractional part. -/
def isWholeNumber (x : Float) : Bool := (wholeValue? x).isSome

/-- The 64-bit integer that a number is; `2 ^ 63` itself, the upper end as a number, counts as the
greatest of them. -/
def int64Value? (x : Float) : Option Int :=
  match wholeValue? x with
  | some k => if int64Min ≤ k ∧ k ≤ int64Max + 1 then some (clampInt64 k) else none
  | none => none

/-- The closest 64-bit integer toward zero; NaN gives zero. -/
def saturateInt64 (x : Float) : Int :=
  match Dyadic.ofFloat? x with
  | some d => clampInt64 (d.signed d.magnitudeDown)
  | none => if x.isNaN then 0 else if x < 0 then int64Min else int64Max

/-- The number nearest to an integer, an exact half to the even neighbour. -/
def numberOfInt (n : Int) : Float :=
  let magnitude := Float.ofScientific n.natAbs false 0
  if n < 0 then -magnitude else magnitude

/-- Apply a rounding of the magnitude, keeping the sign, infinities and NaN. -/
def roundWith (magnitude : Dyadic → Nat) (x : Float) : Float :=
  match Dyadic.ofFloat? x with
  | some d => d.signedFloat (magnitude d)
  | none => x

/-- Toward zero. -/
def truncated (x : Float) : Float := roundWith Dyadic.magnitudeDown x

/-- Toward minus infinity. -/
def floored (x : Float) : Float :=
  roundWith (fun d => if d.negative then d.magnitudeUp else d.magnitudeDown) x

/-- Toward plus infinity. -/
def ceiled (x : Float) : Float :=
  roundWith (fun d => if d.negative then d.magnitudeDown else d.magnitudeUp) x

/-- To the nearest integer, a half away from zero. -/
def roundedAway (x : Float) : Float := roundWith Dyadic.magnitudeNearest x

/-- The number `m · 2 ^ e`, for an `m` of at most 53 binary digits before its last zeros. -/
def scaledNumber (m : Nat) (e : Int) : Float :=
  let extra := m.log2 - 52
  (Float.ofScientific (m / Nat.pow 2 extra) false 0).scaleB (e + extra)

/-- The remainder of the division toward zero, which is exact and has the sign of the dividend. -/
def numberRemainder (a b : Float) : Float :=
  match Dyadic.ofFloat? a, Dyadic.ofFloat? b with
  | some d, some e =>
    let places := max d.places e.places
    let divisor := e.numerator * Nat.pow 2 (places - e.places)
    if divisor = 0 then 0.0 / 0.0
    else
      let rest := scaledNumber (d.numerator * Nat.pow 2 (places - d.places) % divisor) (-places)
      if d.negative then -rest else rest
  | some _, none => if b.isNaN then b else a
  | none, _ => 0.0 / 0.0

end StateExpr
