import StateExpr.Function.Arguments
import StateExpr.Function.Ambient
import StateExpr.Number.Fixed
import StateExpr.Regex.Pattern
import StateExpr.Text.Search
import StateExpr.Text.Words
import StateExpr.Unicode.Casing
/-!
# Functions of texts

Null counts as the empty text in nearly all of them, and positions and lengths count characters.
-/

namespace StateExpr.Texts

/-- The characters of an argument. -/
def chars (args : List Value) (position : Nat) : List Char :=
  (argument args position).textOrEmpty.toList

def concat (args : List Value) : Value :=
  .text (String.join (args.map Value.plainText))

def length (args : List Value) : Value := .ofNat (chars args 0).length

/-- The message about a text to search for that is empty. -/
def emptySearch (v : Value) : String :=
  v.display ++ " should be a string with length at least 1"

def replace (args : List Value) : Except String Value :=
  let search := chars args 1
  if search.isEmpty then .error (emptySearch (argument args 1))
  else .ok (.text (String.ofList (Search.replace search (chars args 2) (chars args 0))))

/-- Replace a text wherever it stands, in any case. -/
def replaceIgnoreCase (args : List Value) : Except String Value :=
  let search := (argument args 1).textOrEmpty
  if search.isEmpty then .error (emptySearch (argument args 1))
  else
    .ok <| .text <| (Regex.ignoringCase search).replaceAll (argument args 2).textOrEmpty
      (argument args 0).textOrEmpty

/-- The parts between separators; without a separator the single characters. -/
def split (args : List Value) : Value :=
  .list ((Search.split (chars args 1) (chars args 0)).map fun cs => .text (String.ofList cs))

def toLower (args : List Value) : Value := .text (lowerCase (argument args 0).textOrEmpty)

def toUpper (args : List Value) : Value := .text (upperCase (argument args 0).textOrEmpty)

def trim (args : List Value) : Value := .text (trimText (argument args 0).textOrEmpty)

/-- Lower case, with the first character in upper case. -/
def sentenceCase (args : List Value) : Value :=
  match (lowerCase (argument args 0).textOrEmpty).toList with
  | [] => .text ""
  | c :: rest => .text (String.ofList (upperChar c ++ rest))

/-- Put the first character of each word in upper case, given whether one may start here. -/
def capitalized : (boundary : Bool) → List Char → List Char
  | _, [] => []
  | boundary, c :: rest =>
    let word := isAlphanumeric c || c == '_'
    (if word && boundary then upperChar c else [c]) ++ capitalized (!word) rest

def titleCase (args : List Value) : Value :=
  .text (String.ofList (capitalized true (lowerCase (argument args 0).textOrEmpty).toList))

def startsWith (args : List Value) : Value := .bool ((chars args 1).isPrefixOf (chars args 0))

def endsWith (args : List Value) : Value := .bool ((chars args 1).isSuffixOf (chars args 0))

def countWord (args : List Value) : Value := .ofNat (words (chars args 0)).length

/-- The ending of an English ordinal number. -/
def ordinalEnding (n : Nat) : String :=
  if 11 ≤ n % 100 ∧ n % 100 ≤ 13 then "th"
  else if n % 10 = 1 then "st"
  else if n % 10 = 2 then "nd"
  else if n % 10 = 3 then "rd"
  else "th"

/-- A number as an ordinal one; there is no ending below one. -/
def addOrdinal (args : List Value) : Value :=
  let n := (argument args 0).integer?.getD 0
  .text (if n ≤ 0 then toString n else toString n ++ ordinalEnding n.toNat)

/-- So many hexadecimal digits of a number, the lowest last. -/
def hexDigits : (count : Nat) → Nat → List Char
  | 0, _ => []
  | k + 1, n => hexDigits k (n / 16) ++ [Nat.digitChar (n % 16)]

/-- A random unique identifier of version four: 122 bits of chance in five groups. -/
def newGuid (ambient : Ambient) (_ : List Value) : Value :=
  let digits (position count : Nat) :=
    String.ofList (hexDigits count (ambient.entropy / Nat.pow 16 position))
  .text <| digits 0 8 ++ "-" ++ digits 8 4 ++ "-4" ++ digits 12 3 ++ "-"
    ++ String.ofList [Nat.digitChar (8 + ambient.entropy / Nat.pow 16 15 % 4)] ++ digits 16 3 ++ "-"
    ++ digits 19 12

/-- A position, or minus one. -/
def positionOrNone (position : Option Nat) : Value :=
  match position with
  | some i => .ofNat i
  | none => .ofInt (-1)

/-- The position of the first occurrence in a text or a list. -/
def indexOf (shared : Value → Bool) (args : List Value) : Except String Value :=
  match argument args 0 with
  | .list items => .ok (positionOrNone (items.findIdx? fun v => v.beqIn shared (argument args 1)))
  | .text s => .ok (positionOrNone (Search.first? (chars args 1) s.toList))
  | .null => .ok (positionOrNone (Search.first? (chars args 1) []))
  | v => .error (v.display ++ " is not a string or list.")

/-- The position of the last item of a list that is equal to a value. -/
def lastPosition? (shared : Value → Bool) (v : Value) (items : List Value) : Option Nat :=
  (items.reverse.findIdx? fun w => w.beqIn shared v).map fun i => items.length - 1 - i

/-- The position of the last occurrence in a text or a list. -/
def lastIndexOf (shared : Value → Bool) (args : List Value) : Except String Value :=
  match argument args 0 with
  | .list items => .ok (positionOrNone (lastPosition? shared (argument args 1) items))
  | .text s => .ok (positionOrNone (Search.last? (chars args 1) s.toList))
  | .null => .ok (positionOrNone (Search.last? (chars args 1) []))
  | v => .error (v.display ++ " is not a string or list.")

def eol (_ : List Value) : Value := .text "\n"

/-- Commas between groups of three digits, from the right. -/
def grouped (digits : List Char) : List Char :=
  (digits.zipIdx.flatMap fun (c, i) =>
    if 0 < i && (digits.length - i) % 3 == 0 then [',', c] else [c])

/-- A number with a fixed count of places and grouped digits. -/
def fixedText (x : Float) (places : Nat) : String :=
  match Dyadic.ofFloat? x with
  | none => if x.isNaN then "NaN" else "inf"
  | some d =>
    let (whole, fraction) := d.fixed places
    let negative := x < 0 && (whole ++ fraction).any (· != '0')
    String.ofList <| withSign negative <|
      grouped whole ++ if fraction.isEmpty then [] else '.' :: fraction

def formatNumber (args : List Value) : Except String Value :=
  match (argument args 0).asNumber? with
  | none =>
    .error ("formatNumber's first argument " ++ (argument args 0).display ++ " is not a number.")
  | some x =>
    match (argument args 1).integer?.filter fun p => 0 ≤ p ∧ p ≤ 20 with
    | some places => .ok (.text (fixedText x places.toNat))
    | none =>
      .error ("formatNumber's precision " ++ (argument args 1).display
        ++ " must be an integer between 0 and 20.")

/-- Whether a pattern matches somewhere in a text. -/
def isMatch (args : List Value) : Except String Value :=
  match Regex.compile (argument args 1).textOrEmpty with
  | .ok pattern => .ok (.bool (pattern.isMatch (argument args 0).textOrEmpty))
  | .error fault => .error fault.message

end StateExpr.Texts
