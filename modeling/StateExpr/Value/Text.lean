import StateExpr.Value.Basic
import StateExpr.Number.Text
/-!
# Values as text

`Value.display` is the compact JSON-shaped text that error messages and printed expressions show;
`Value.plainText` is the text that concatenation sees: texts as they are, null as nothing, and
containers in their displayed form.
-/

namespace StateExpr

/-- The lower-case hexadecimal digits of a number, at least four of them. -/
def fourHexDigits (n : Nat) : List Char :=
  let digits := Nat.toDigits 16 n
  List.replicate (4 - digits.length) '0' ++ digits

/-- One character between quotes: quotes, backslashes and control characters are escaped. -/
def escapeChar (c : Char) : List Char :=
  if c = '"' then ['\\', '"']
  else if c = '\\' then ['\\', '\\']
  else if c = '\n' then ['\\', 'n']
  else if c = '\r' then ['\\', 'r']
  else if c = '\t' then ['\\', 't']
  else if c.toNat < 32 then '\\' :: 'u' :: fourHexDigits c.toNat
  else [c]

/-- A text between quotes. -/
def quoted (s : String) : String :=
  String.ofList ('"' :: s.toList.flatMap escapeChar ++ ['"'])

namespace Value

mutual

/-- The compact text of a value; a number that is not finite is shown as null. -/
def display : Value → String
  | null => "null"
  | bool b => toString b
  | number x => if x.isFinite then finiteText x else "null"
  | text s => quoted s
  | list items => "[" ++ displayItems items ++ "]"
  | map entries => "\x7b" ++ displayEntries entries ++ "\x7d"

/-- Items with commas between them. -/
def displayItems : List Value → String
  | [] => ""
  | [v] => display v
  | v :: rest => display v ++ "," ++ displayItems rest

/-- Entries with commas between them. -/
def displayEntries : List (String × Value) → String
  | [] => ""
  | [(k, v)] => quoted k ++ ":" ++ display v
  | (k, v) :: rest => quoted k ++ ":" ++ display v ++ "," ++ displayEntries rest

end

/-- The text of a value inside a longer text. -/
def plainText : Value → String
  | null => ""
  | text s => s
  | number x => numberText x
  | v => display v

end Value

end StateExpr
