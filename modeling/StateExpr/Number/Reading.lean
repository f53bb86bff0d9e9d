import StateExpr.Number.Dyadic
/-!
# Reading a decimal

`readNumber?` takes an optional sign, digits with at most one point among or beside them, and an
optional exponent, or one of the words `inf`, `infinity` and `nan` in any case.  The result is the
nearest number; magnitudes beyond the range become an infinity.
-/

namespace StateExpr

/-- The value of an ASCII decimal digit. -/
def digitValue? (c : Char) : Option Nat := if c.isDigit then some (c.toNat - 48) else none

/-- The number that a word of decimal digits denotes; other characters count as nothing. -/
def digitsValue (cs : List Char) : Nat :=
  cs.foldl (fun n c => 10 * n + (c.toNat - 48)) 0

/-- The leading decimal digits and what follows them. -/
def spanDigits (cs : List Char) : List Char × List Char := cs.span Char.isDigit

/-- The nearest number to `digits · 10 ^ exponent`, without ever raising ten to a power that the
range of numbers cannot tell apart from infinity or zero. -/
def nearestNumber (digits : Nat) (exponent : Int) : Float :=
  if digits = 0 then 0.0
  else
    let size := (Nat.toDigits 10 digits).length + exponent
    if 400 < size then 1.0 / 0.0
    else if size < -400 then 0.0
    else Float.ofScientific digits (decide (exponent < 0)) exponent.natAbs

/-- An optional sign: whether it is a minus, and what follows. -/
def takeSign : List Char → Bool × List Char
  | '-' :: rest => (true, rest)
  | '+' :: rest => (false, rest)
  | cs => (false, cs)

/-- An exponent without its letter: a sign and at least one digit, nothing behind. -/
def readExponent? (cs : List Char) : Option Int :=
  let (negative, rest) := takeSign cs
  let (digits, tail) := spanDigits rest
  if digits.isEmpty || !tail.isEmpty then none
  else some (if negative then -(digitsValue digits : Int) else digitsValue digits)

/-- An unsigned decimal with an optional point and exponent. -/
def readMagnitude? (cs : List Char) : Option Float :=
  let (whole, rest) := spanDigits cs
  let (fraction, tail) := match rest with
    | '.' :: more => spanDigits more
    | _ => ([], rest)
  if whole.isEmpty && fraction.isEmpty then none
  else
    let digits := digitsValue (whole ++ fraction)
    match tail with
    | [] => some (nearestNumber digits (-(fraction.length : Int)))
    | c :: more =>
      if c = 'e' ∨ c = 'E' then
        (readExponent? more).map fun e => nearestNumber digits (e - fraction.length)
      else none

/-- The named numbers, in lower case. -/
def namedNumber? (word : List Char) : Option Float :=
  if word = "inf".toList ∨ word = "infinity".toList then some (1.0 / 0.0)
  else if word = "nan".toList then some (0.0 / 0.0)
  else none

/-- The number that a text denotes. -/
def readNumber? (cs : List Char) : Option Float :=
  let (negative, rest) := takeSign cs
  let magnitude := (readMagnitude? rest).orElse fun _ => namedNumber? (rest.map Char.toLower)
  magnitude.map fun x => if negative then -x else x

end StateExpr
