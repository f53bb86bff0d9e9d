import StateExpr.Regex.Match
import StateExpr.Regex.Parser
import StateExpr.Regex.Size
/-!
# Patterns of expressions

A pattern may hold groups of switches such as `(?im)` anywhere; they are taken out first and then
hold for the whole pattern.  What is left must be well formed, both by a grammar and under the
switches, and its size is at most `maxSize`.
-/

namespace StateExpr.Regex

/-- Why a pattern cannot be used. -/
inductive PatternFault where
  | empty
  | invalid (pattern reason : String)
deriving Repr, DecidableEq

def PatternFault.message : PatternFault → String
  | empty => "regular expression is empty."
  | invalid pattern reason => "'" ++ pattern ++ "' is not a valid regex: " ++ reason

/-- The letters of switches that may stand anywhere; groups that share a name are no switch of
patterns, and its letter changes nothing. -/
def isSwitchLetter (c : Char) : Bool := "imsxJU".toList.contains c

/-- The letters of a group of switches, from behind its question mark. -/
def switchLetters? (cs : List Char) : Option (List Char) :=
  match cs.span (· != ')') with
  | (letters, ')' :: _) =>
    if !letters.isEmpty && letters.all isSwitchLetter then some letters else none
  | _ => none

/-- The pattern without its groups of switches, and the letters of all of them; `skip` characters
belong to a group already taken out. -/
def extractSwitches : (skip : Nat) → List Char → List Char × List Char
  | _, [] => ([], [])
  | k + 1, _ :: cs => extractSwitches k cs
  | 0, c :: cs =>
    match c, cs with
    | '(', '?' :: rest =>
      match switchLetters? rest with
      | some letters =>
        let (body, more) := extractSwitches (letters.length + 2) cs
        (body, letters ++ more)
      | none =>
        let (body, more) := extractSwitches 0 cs
        (c :: body, more)
    | _, _ =>
      let (body, more) := extractSwitches 0 cs
      (c :: body, more)

/-- The switches of some letters. -/
def Flags.ofLetters (letters : List Char) : Flags :=
  { ignoreCase := letters.contains 'i'
    multiLine := letters.contains 'm'
    dotAll := letters.contains 's'
    swapGreed := letters.contains 'U'
    verbose := letters.contains 'x' }

/-- The greatest size of a pattern. -/
def maxSize : Nat := 10485760

/-- Read a pattern under some switches, unless it is too large. -/
def prepare? (f : Flags) (cs : List Char) : Option Node :=
  (parse? f cs).filter fun node => node.size ≤ maxSize

/-- What a pattern must satisfy before it is read; the answer is the fault. -/
abbrev Grammar := List Char → Option String

/-- The grammar of patterns itself. -/
def standardGrammar : Grammar := fun body =>
  if (parse? {} body).isSome then none else some "malformed pattern"

/-- Make what is left of a pattern ready for matching under its switches; faults name the pattern
as it was written. -/
def compileBody (grammar : Grammar) (pattern : String) (f : Flags) (body : List Char) :
    Except PatternFault Node :=
  match grammar body with
  | some reason => .error (.invalid pattern reason)
  | none =>
    match prepare? f body with
    | none => .error (.invalid pattern "malformed or too large pattern")
    | some node => .ok node

/-- Make a pattern ready for matching. -/
def compileWith (grammar : Grammar) (pattern : String) : Except PatternFault Node :=
  if pattern.isEmpty then .error .empty
  else
    let (body, letters) := extractSwitches 0 pattern.toList
    compileBody grammar pattern (.ofLetters letters) body

/-- Make a pattern of the standard grammar ready for matching. -/
def compile (pattern : String) : Except PatternFault Node := compileWith standardGrammar pattern

/-- A pattern that matches a text as it stands, in any case. -/
def ignoringCase (text : String) : Node :=
  let f : Flags := { ignoreCase := true }
  text.toList.foldr (fun c rest => (literalNode f c).andThen rest) .empty

end StateExpr.Regex
