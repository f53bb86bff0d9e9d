/-!
# Percent encoding

`encode` writes every byte that is no letter, digit or one of `-`, `_`, `.` and `~` as a percent
sign and two upper-case hexadecimal digits.  `decodeBytes` reads such triples back and leaves all
else as it is, a percent sign without two digits behind it included.
-/

namespace StateExpr.Percent

/-- The upper-case digit of a four-bit number. -/
def hexDigit (n : Nat) : Char := if n < 10 then Char.ofNat (48 + n) else Char.ofNat (55 + n)

/-- The number of a hexadecimal digit of either case, given as a byte. -/
def hexValue? (b : UInt8) : Option Nat :=
  let n := b.toNat
  if 48 ≤ n ∧ n ≤ 57 then some (n - 48)
  else if 65 ≤ n ∧ n ≤ 70 then some (n - 55)
  else if 97 ≤ n ∧ n ≤ 102 then some (n - 87)
  else none

/-- The triple of a byte. -/
def escape (b : UInt8) : List Char := ['%', hexDigit (b.toNat / 16), hexDigit (b.toNat % 16)]

/-- Characters with the chosen ones, the control characters and all outside of ASCII escaped. -/
def escapeChars (chosen : Char → Bool) (cs : List Char) : List Char :=
  cs.flatMap fun c =>
    if c.toNat < 32 || 127 ≤ c.toNat || chosen c then
      (String.ofList [c]).toUTF8.toList.flatMap escape
    else [c]

/-- Bytes that stand for themselves. -/
def isUnreserved (b : UInt8) : Bool :=
  let c := Char.ofNat b.toNat
  c.isAlphanum || c == '-' || c == '_' || c == '.' || c == '~'

/-- The bytes of a text as it is written in a component of an address. -/
def encode (s : String) : String :=
  String.ofList <| s.toUTF8.toList.flatMap fun b =>
    if isUnreserved b then [Char.ofNat b.toNat] else escape b

/-- The bytes that a percent-encoded text stands for. -/
def decodeBytes : List UInt8 → List UInt8
  | [] => []
  | [a] => [a]
  | [a, b] => [a, b]
  | a :: b :: c :: rest =>
    if a = 37 then
      match hexValue? b, hexValue? c with
      | some high, some low => UInt8.ofNat (16 * high + low) :: decodeBytes rest
      | _, _ => a :: decodeBytes (b :: c :: rest)
    else a :: decodeBytes (b :: c :: rest)

end StateExpr.Percent
