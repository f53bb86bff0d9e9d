import StateExpr.Codec.Text
import StateExpr.Number.Reading
import StateExpr.Url.DomainName
/-!
# Hosts

The host of an address is a domain name in ASCII, an IPv4 or IPv6 address, or a text that stays as
it is.  `Host.domain?` reads the host of an address with a special scheme, and `Host.opaqueText?`
that of any other.
-/

namespace StateExpr

namespace Ipv4

/-- A number of an address: octal behind a zero, hexadecimal behind `0x`, else decimal. -/
def number? (cs : List Char) : Option Nat :=
  let valueIn (base : Nat) (digits : List Char) : Option Nat :=
    digits.foldlM (fun n c => do
      let d ← hexValue? c
      if d < base then some (base * n + d) else none) 0
  match cs with
  | [] => none
  | '0' :: 'x' :: digits => valueIn 16 digits
  | '0' :: 'X' :: digits => valueIn 16 digits
  | '0' :: d :: digits => valueIn 8 (d :: digits)
  | digits => valueIn 10 digits
where
  /-- The value of a hexadecimal digit. -/
  hexValue? (c : Char) : Option Nat :=
    if c.isDigit then some (c.toNat - 48)
    else if 'a' ≤ c.toLower ∧ c.toLower ≤ 'f' then some (c.toLower.toNat - 87)
    else none

/-- The parts of a name between points; a point at the end has nothing behind it. -/
def parts (cs : List Char) : List (List Char) :=
  let parts := Search.split ['.'] cs
  if parts.getLast? = some [] then parts.dropLast else parts

/-- The last part is a number, so that the name must be an address. -/
def isAddress (cs : List Char) : Bool :=
  match (parts cs).getLast? with
  | some last => (!last.isEmpty && last.all Char.isDigit) || (number? last).isSome
  | none => false

/-- The four bytes of an address; the last part fills all that the others leave. -/
def address? (cs : List Char) : Option Nat := do
  let numbers ← (parts cs).mapM number?
  let last ← numbers.getLast?
  let front := numbers.dropLast
  guard (numbers.length ≤ 4 && front.all (· < 256) && last < Nat.pow 256 (4 - front.length))
  some ((front.zipIdx.map fun (n, i) => n * Nat.pow 256 (3 - i)).foldl (· + ·) last)

/-- An address as four decimal numbers. -/
def text (n : Nat) : String :=
  String.intercalate "." ([3, 2, 1, 0].map fun i => toString (n / Nat.pow 256 i % 256))

end Ipv4

namespace Ipv6

/-- A group of up to four hexadecimal digits. -/
def group? (cs : List Char) : Option Nat := do
  guard (!cs.isEmpty && cs.length ≤ 4)
  cs.foldlM (fun n c => (Ipv4.number?.hexValue? c).map (16 * n + ·)) 0

/-- A decimal number below 256 without a leading zero. -/
def byte? (cs : List Char) : Option Nat := do
  guard (!cs.isEmpty && cs.all Char.isDigit && (cs.length = 1 || cs.head? != some '0')
    && cs.length ≤ 3)
  let n := digitsValue cs
  if n < 256 then some n else none

/-- The two groups of four bytes written with points. -/
def ofBytes? (cs : List Char) : Option (List Nat) := do
  match ← (Search.split ['.'] cs).mapM byte? with
  | [a, b, c, d] => some [a * 256 + b, c * 256 + d]
  | _ => none

/-- The groups of a part without a gap; the last may be four bytes with points. -/
def groups? (isLast : Bool) (cs : List Char) : Option (List Nat) :=
  if cs.isEmpty then some []
  else do
    let parts := Search.split [':'] cs
    let front ← parts.dropLast.mapM group?
    let last ← parts.getLast?
    if isLast && last.contains '.' then some (front ++ (← ofBytes? last))
    else some (front ++ [← group? last])

/-- The place of a gap. -/
def gap? : List Char → Option (List Char × List Char)
  | [] => none
  | c :: rest =>
    match c, rest with
    | ':', ':' :: tail => some ([], tail)
    | _, _ => (gap? rest).map fun (left, right) => (c :: left, right)

/-- The eight groups of an address; a gap stands for at least one group of zero. -/
def address? (cs : List Char) : Option (List Nat) :=
  match gap? cs with
  | none => do
    let groups ← groups? true cs
    if groups.length = 8 then some groups else none
  | some (left, right) => do
    let left ← groups? false left
    let right ← groups? true right
    let missing := 8 - (left.length + right.length)
    if left.length + right.length < 8 then some (left ++ List.replicate missing 0 ++ right)
    else none

/-- The length of the run of zeros at the front. -/
def zeroRun (groups : List Nat) : Nat := (groups.takeWhile (· == 0)).length

/-- The start and the length of the first longest run of at least two zeros. -/
def longestZeros (groups : List Nat) : Option (Nat × Nat) :=
  let runs := (List.range groups.length).map fun i => (i, zeroRun (groups.drop i))
  runs.foldl (fun best r =>
    if 2 ≤ r.2 && (best.all fun b => b.2 < r.2) then some r else best) none

/-- Groups in hexadecimal with colons between them. -/
def groupsText (groups : List Nat) : String :=
  String.intercalate ":" (groups.map fun n => String.ofList (Nat.toDigits 16 n))

/-- An address in brackets, with its longest run of zeros left out. -/
def text (groups : List Nat) : String :=
  match longestZeros groups with
  | some (start, length) =>
    "[" ++ groupsText (groups.take start) ++ "::" ++ groupsText (groups.drop (start + length))
      ++ "]"
  | none => "[" ++ groupsText groups ++ "]"

end Ipv6

namespace Host

/-- Characters that no host may hold. -/
def forbidden : List Char := "\x00\t\n\r #/:<>?@[\\]^|".toList

/-- Characters that no domain name may hold. -/
def isForbiddenInDomain (c : Char) : Bool :=
  c.toNat < 32 || c.toNat = 127 || c == '%' || forbidden.contains c

/-- A domain name in ASCII that holds no forbidden character. -/
def domainText? (cs : List Char) : Option (List Char) := do
  let text ← DomainName.ascii? cs
  if text.isEmpty || text.any isForbiddenInDomain then none else some text

/-- A text in brackets as an address. -/
def bracketed? (inner : List Char) : Option String := do
  match inner.reverse with
  | ']' :: address => some (Ipv6.text (← Ipv6.address? address.reverse))
  | _ => none

/-- The host of an address with a special scheme. -/
def domain? (cs : List Char) : Option String :=
  match cs with
  | '[' :: inner => bracketed? inner
  | _ => do
    let bytes := Percent.decodeBytes (String.ofList cs).toUTF8.toList
    let name ← domainText? (← Codec.textOfBytes? bytes).toList
    if Ipv4.isAddress name then some (Ipv4.text (← Ipv4.address? name))
    else some (String.ofList name)

/-- The host of an address with another scheme: a text without certain characters. -/
def opaqueText? (cs : List Char) : Option String :=
  match cs with
  | '[' :: inner => bracketed? inner
  | _ =>
    if cs.any forbidden.contains then none
    else some (String.ofList (Percent.escapeChars (fun _ => false) cs))

end Host

end StateExpr
