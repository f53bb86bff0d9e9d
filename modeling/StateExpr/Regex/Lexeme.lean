import StateExpr.Regex.Class
/-!
# The small parts of written patterns

Escapes, counts, switches and names of groups.  Each reader takes the characters from its part on
and gives what stands behind it; nothing means that the pattern is malformed.
-/

namespace StateExpr.Regex

/-- The characters behind blanks and comments; a comment runs from a hash to the end of its line. -/
def skipSpace : (inComment : Bool) → List Char → List Char
  | _, [] => []
  | true, c :: cs => skipSpace (c != '\n') cs
  | false, c :: cs =>
    if isBlank c then skipSpace false cs
    else if c == '#' then skipSpace true cs
    else c :: cs

/-- The characters that count at this place. -/
def Flags.spaced (f : Flags) (cs : List Char) : List Char :=
  if f.verbose then skipSpace false cs else cs

/-- The characters of a class at the front, without the blanks and comments that count for
nothing. -/
def takeRun (p : Char → Bool) (verbose : Bool) : (inComment : Bool) → List Char →
    List Char × List Char
  | _, [] => ([], [])
  | true, c :: cs => takeRun p verbose (c != '\n') cs
  | false, c :: cs =>
    if p c then
      let (run, rest) := takeRun p verbose false cs
      (c :: run, rest)
    else if verbose && isBlank c then takeRun p verbose false cs
    else if verbose && c == '#' then takeRun p verbose true cs
    else ([], c :: cs)

/-- What stands before a closing brace, and what is behind the brace. -/
def takeBraced? (f : Flags) (cs : List Char) : Option (List Char × List Char) :=
  let inside (c : Char) : Bool := c != '\x7d' && !(f.verbose && (isBlank c || c == '#'))
  match takeRun inside f.verbose false cs with
  | (run, '}' :: rest) => some (run, rest)
  | _ => none

/-- The value of a hexadecimal digit. -/
def hexValue? (c : Char) : Option Nat :=
  if c.isDigit then some (c.toNat - 48)
  else if 'a' ≤ c.toLower ∧ c.toLower ≤ 'f' then some (c.toLower.toNat - 87)
  else none

/-- The character of a code point. -/
def charOf? (n : Nat) : Option Char := if n.isValidChar then some (Char.ofNat n) else none

/-- The character whose code point has these hexadecimal digits. -/
def hexChar? : List Char → Option Char
  | [] => none
  | digits => do charOf? (← digits.foldlM (fun n c => (hexValue? c).map (16 * n + ·)) 0)

/-- So many characters. -/
def takeCounted? (f : Flags) : Nat → List Char → Option (List Char × List Char)
  | 0, cs => some ([], cs)
  | n + 1, cs =>
    match f.spaced cs with
    | [] => none
    | c :: rest => (takeCounted? f n rest).map fun (run, rest) => (c :: run, rest)

/-- A character by its code point: so many hexadecimal digits, or any number of them in braces.
Without Unicode two digits name an octet, which must be an ASCII one. -/
def takeHex? (f : Flags) (digits : Nat) (cs : List Char) : Option (Char × List Char) :=
  match f.spaced cs with
  | '{' :: rest => do
    let (run, rest) ← takeBraced? f rest
    some (← hexChar? run, rest)
  | cs => do
    let (run, rest) ← takeCounted? f digits cs
    let c ← hexChar? run
    if digits == 2 && !f.unicode && 127 < c.toNat then none else some (c, rest)

/-- Characters with a meaning of their own in patterns. -/
def isMeta (c : Char) : Bool := "\\.+*?()|[]\x7b\x7d^$#&-~".toList.contains c

/-- Characters that stand for themselves behind a backslash. -/
def isEscapable (c : Char) : Bool :=
  isMeta c || (c.toNat < 128 && !c.isAlphanum && c != '<' && c != '>')

/-- What an escape stands for. -/
inductive Escape where
  | literal (c : Char)
  | set (set : Ranges)
  | look (l : Look)

/-- The control characters with an escape of their own. -/
def controlEscape? : Char → Option Char
  | 'a' => some '\x07'
  | 'f' => some '\x0c'
  | 't' => some '\t'
  | 'n' => some '\n'
  | 'r' => some '\r'
  | 'v' => some '\x0b'
  | _ => none

/-- A set of characters by a property: one letter, or a query in braces. -/
def takeProperty? (f : Flags) (negate : Bool) (cs : List Char) : Option (Escape × List Char) := do
  guard f.unicode
  match f.spaced cs with
  | [] => none
  | '{' :: rest =>
    let (query, rest) ← takeBraced? f rest
    let (set, others) ← querySet? query
    some (.set (← f.negated? (negate != others) (f.closed set)), rest)
  | c :: rest =>
    guard (c != '\\')
    some (.set (← f.negated? negate (f.closed (← namedSet? [c]))), f.spaced rest)

/-- The edge of a word by its braced name. -/
def namedEdge? (name : String) : Option WordEdge :=
  match name with
  | "start" => some .starts
  | "end" => some .ends
  | "start-half" => some .startsHalf
  | "end-half" => some .endsHalf
  | _ => none

/-- An edge of a word.  A brace behind it holds a name if it starts like one, and is left for a
count otherwise. -/
def takeBoundary? (f : Flags) (cs : List Char) : Option (Escape × List Char) :=
  let named (c : Char) := c.isAlpha || c == '-'
  match cs with
  | '{' :: inner =>
    match f.spaced inner with
    | [] => none
    | c :: rest =>
      if named c then
        match takeRun named f.verbose false (c :: rest) with
        | (name, '}' :: rest) =>
          (namedEdge? (String.ofList name)).map fun e => (.look (.word e !f.unicode), rest)
        | _ => none
      else some (.look (.word .boundary !f.unicode), cs)
  | _ => some (.look (.word .boundary !f.unicode), cs)

/-- An escape, from behind its backslash. -/
def takeEscape? (f : Flags) : List Char → Option (Escape × List Char)
  | [] => none
  | c :: cs =>
    if c == 'x' then (takeHex? f 2 cs).map fun (c, rest) => (.literal c, rest)
    else if c == 'u' then (takeHex? f 4 cs).map fun (c, rest) => (.literal c, rest)
    else if c == 'U' then (takeHex? f 8 cs).map fun (c, rest) => (.literal c, rest)
    else if c == 'p' then takeProperty? f false cs
    else if c == 'P' then takeProperty? f true cs
    else if c == 'b' then takeBoundary? f cs
    else if c == 'B' then some (.look (.word .inside !f.unicode), cs)
    else if c == '<' then some (.look (.word .starts !f.unicode), cs)
    else if c == '>' then some (.look (.word .ends !f.unicode), cs)
    else if c == 'A' then some (.look .textStart, cs)
    else if c == 'z' then some (.look .textEnd, cs)
    else if isEscapable c then some (.literal c, cs)
    else
      match LetterClass.ofChar? c, controlEscape? c with
      | some (cls, negate), _ => (f.negated? negate (cls.set f.unicode)).map fun s => (.set s, cs)
      | none, some control => some (.literal control, cs)
      | none, none => none

/-- A decimal number, which may stand between blanks; nothing for none and for one that is too
large. -/
def takeDecimal (f : Flags) (cs : List Char) : Option Nat × List Char :=
  let (digits, rest) := takeRun Char.isDigit f.verbose false (cs.dropWhile isBlank)
  let n := digits.foldl (fun n c => 10 * n + (c.toNat - 48)) 0
  (if digits.isEmpty || 4294967296 ≤ n then none else some n, rest.dropWhile isBlank)

/-- The bounds of a repetition. -/
structure Bounds where
  min : Nat
  max : Option Nat

/-- A mark for lazy repetition right at the front. -/
def takeLazy : List Char → Bool × List Char
  | '?' :: rest => (true, rest)
  | cs => (false, cs)

/-- The bounds between braces, from behind the opening one. -/
def takeBounds? (f : Flags) (cs : List Char) : Option (Bounds × List Char) := do
  let (low?, cs) := takeDecimal f (f.spaced cs)
  let low ← low?
  let (bounds, cs) ← match cs with
    | ',' :: rest =>
      match f.spaced rest with
      | '}' :: rest => some (Bounds.mk low none, '}' :: rest)
      | rest => do
        let (high?, rest) := takeDecimal f rest
        some (Bounds.mk low (some (← high?)), rest)
    | _ => some (Bounds.mk low (some low), cs)
  match cs with
  | '}' :: rest => if bounds.max.all fun high => low ≤ high then some (bounds, rest) else none
  | _ => none

/-- Switches that are turned on or off together. -/
structure Switches where
  seen : List Char := []
  flags : Flags
  negated : Bool := false
  /-- The last character was the sign that turns switches off. -/
  dangling : Bool := false

/-- Turn a switch on or off. -/
def Flags.set? (f : Flags) (on : Bool) : Char → Option Flags
  | 'i' => some { f with ignoreCase := on }
  | 'm' => some { f with multiLine := on }
  | 's' => some { f with dotAll := on }
  | 'U' => some { f with swapGreed := on }
  | 'u' => some { f with unicode := on }
  | 'R' => some { f with carriage := on }
  | 'x' => some { f with verbose := on }
  | _ => none

/-- Switches up to a colon or a closing parenthesis, which is left for the caller.  No switch and no
sign may stand twice, and a sign needs a switch behind it. -/
def takeSwitches? (s : Switches) : List Char → Option (Switches × List Char)
  | [] => none
  | c :: rest =>
    if c == ':' || c == ')' then if s.dangling then none else some (s, c :: rest)
    else if s.seen.contains c then none
    else if c == '-' then
      takeSwitches? { s with seen := c :: s.seen, negated := true, dangling := true } rest
    else
      match s.flags.set? (!s.negated) c with
      | some flags =>
        takeSwitches? { s with seen := c :: s.seen, flags := flags, dangling := false } rest
      | none => none

/-- A character that may stand in the name of a group. -/
def isNameChar (first : Bool) (c : Char) : Bool :=
  if first then c == '_' || isAlphabetic c
  else c == '_' || c == '.' || c == '[' || c == ']' || isAlphanumeric c

/-- The name of a group, from behind its opening angle. -/
def takeName? (cs : List Char) : Option (List Char × List Char) :=
  match cs with
  | [] => none
  | c :: rest =>
    if isNameChar true c then
      match rest.span (isNameChar false) with
      | (name, '>' :: rest) => some (c :: name, rest)
      | _ => none
    else none

end StateExpr.Regex
