import StateExpr.Json.Document
/-!
# Reading JSON

`Document.parse?` reads one document with optional blanks around it, and `parse?` gives its value.
Arrays and objects may nest 127 deep.  A key that repeats keeps its first place and takes its last
value.  An escape for one half of a surrogate pair needs the other half right behind it.
-/

namespace StateExpr.Json

/-- The four blanks of JSON. -/
def isJsonBlank (c : Char) : Bool := c = ' ' || c = '\t' || c = '\n' || c = '\r'

/-- A text without the blanks it starts with. -/
def skipBlanks (cs : List Char) : List Char := cs.dropWhile isJsonBlank

/-- The value of a hexadecimal digit of either case. -/
def hexValue? (c : Char) : Option Nat :=
  if c.isDigit then some (c.toNat - 48)
  else if 'a' ≤ c ∧ c ≤ 'f' then some (c.toNat - 87)
  else if 'A' ≤ c ∧ c ≤ 'F' then some (c.toNat - 55)
  else none

/-- Four hexadecimal digits as a number. -/
def hexUnit? (a b c d : Char) : Option Nat := do
  some ((((← hexValue? a) * 16 + (← hexValue? b)) * 16 + (← hexValue? c)) * 16 + (← hexValue? d))

/-- The character of an escape of one letter. -/
def shortEscape? (c : Char) : Option Char :=
  match c with
  | '"' => some '"'
  | '\\' => some '\\'
  | '/' => some '/'
  | 'b' => some '\x08'
  | 'f' => some '\x0c'
  | 'n' => some '\n'
  | 'r' => some '\r'
  | 't' => some '\t'
  | _ => none

/-- The characters of a string behind its opening quote, and the rest behind its closing one. -/
def takeString? : List Char → Option (List Char × List Char)
  | [] => none
  | '"' :: rest => some ([], rest)
  | '\\' :: 'u' :: a :: b :: c :: d :: '\\' :: 'u' :: e :: f :: g :: h :: rest => do
    let first ← hexUnit? a b c d
    if 0xd800 ≤ first ∧ first < 0xdc00 then
      let second ← hexUnit? e f g h
      if 0xdc00 ≤ second ∧ second < 0xe000 then
        let (more, tail) ← takeString? rest
        some (Char.ofNat (0x10000 + (first - 0xd800) * 1024 + (second - 0xdc00)) :: more, tail)
      else none
    else if 0xdc00 ≤ first ∧ first < 0xe000 then none
    else
      let (more, tail) ← takeString? ('\\' :: 'u' :: e :: f :: g :: h :: rest)
      some (Char.ofNat first :: more, tail)
  | '\\' :: 'u' :: a :: b :: c :: d :: rest => do
    let unit ← hexUnit? a b c d
    if 0xd800 ≤ unit ∧ unit < 0xe000 then none
    else
      let (more, tail) ← takeString? rest
      some (Char.ofNat unit :: more, tail)
  | '\\' :: c :: rest => do
    let escaped ← shortEscape? c
    let (more, tail) ← takeString? rest
    some (escaped :: more, tail)
  | c :: rest =>
    if c.toNat < 32 || c = '\\' then none
    else do
      let (more, tail) ← takeString? rest
      some (c :: more, tail)

/-- A reader of one document, which gives back the rest of the text. -/
abbrev Reader := List Char → Option (Document × List Char)

/-- The items of an array from the first one on, up to and with the closing bracket. -/
def takeItems (value : Reader) : (fuel : Nat) → List Char → Option (List Document × List Char)
  | 0, _ => none
  | fuel + 1, cs => do
    let (item, rest) ← value cs
    match skipBlanks rest with
    | ',' :: more =>
      let (items, tail) ← takeItems value fuel (skipBlanks more)
      some (item :: items, tail)
    | ']' :: tail => some ([item], tail)
    | _ => none

/-- The members of an object from the first one on, up to and with the closing brace. -/
def takeMembers (value : Reader) :
    (fuel : Nat) → List Char → Option (List (String × Document) × List Char)
  | 0, _ => none
  | fuel + 1, '"' :: cs => do
    let (key, rest) ← takeString? cs
    match skipBlanks rest with
    | ':' :: more =>
      let (member, rest) ← value (skipBlanks more)
      match skipBlanks rest with
      | ',' :: more =>
        let (members, tail) ← takeMembers value fuel (skipBlanks more)
        some ((String.ofList key, member) :: members, tail)
      | '\x7d' :: tail => some ([(String.ofList key, member)], tail)
      | _ => none
    | _ => none
  | _ + 1, _ => none

/-- One document that starts here, with at most `depth` containers inside each other. -/
def takeValue : (depth : Nat) → Reader
  | depth, cs =>
    match cs with
    | 'n' :: 'u' :: 'l' :: 'l' :: rest => some (.null, rest)
    | 't' :: 'r' :: 'u' :: 'e' :: rest => some (.bool true, rest)
    | 'f' :: 'a' :: 'l' :: 's' :: 'e' :: rest => some (.bool false, rest)
    | '"' :: rest => (takeString? rest).map fun r => (.text (String.ofList r.1), r.2)
    | '[' :: rest =>
      match depth with
      | 0 => none
      | depth + 1 =>
        match skipBlanks rest with
        | ']' :: tail => some (.list [], tail)
        | inner => (takeItems (takeValue depth) inner.length inner).map fun r => (.list r.1, r.2)
    | '\x7b' :: rest =>
      match depth with
      | 0 => none
      | depth + 1 =>
        match skipBlanks rest with
        | '\x7d' :: tail => some (.map [], tail)
        | inner =>
          (takeMembers (takeValue depth) inner.length inner).map fun r =>
            (.map (Entries.ofList r.1), r.2)
    | _ => (takeNumber? cs).map fun r => (.number r.1, r.2)

/-- How many containers may stand inside each other. -/
def maxDepth : Nat := 127

/-- The document that a JSON text spells. -/
def Document.parse? (text : String) : Option Document := do
  let (document, rest) ← takeValue maxDepth (skipBlanks text.toList)
  if (skipBlanks rest).isEmpty then some document else none

/-- The value that a JSON text denotes. -/
def parse? (text : String) : Option Value := (Document.parse? text).map Document.value

end StateExpr.Json
