import StateExpr.JsonPath.Basic
import StateExpr.Json.Parser
/-!
# Reading paths

`Path.parse?` reads a path that starts at the root.  Blanks may stand between the parts of a path,
but not at its ends, not inside a name and not in front of two points.  Only a direct path may be
compared, and each function takes arguments of its own kinds.
-/

namespace StateExpr.JsonPath

open StateExpr.Json (Document skipBlanks takeNumber? hexUnit? shortEscape?)

/-- A character that a bare name may start with. -/
def startsName (c : Char) : Bool := c.isAlpha || c == '_' || 128 ≤ c.toNat

/-- A bare name and what is behind it. -/
def takeName? : List Char → Option (String × List Char)
  | [] => none
  | c :: cs =>
    if startsName c then
      let (more, rest) := cs.span fun d => startsName d || d.isDigit
      some (String.ofList (c :: more), rest)
    else none

/-- The characters of a quoted text behind its opening mark, and what is behind its closing one. The
first half of a surrogate pair is written with a capital letter in front. -/
def takeQuoted? (mark : Char) : List Char → Option (List Char × List Char)
  | [] => none
  | '\\' :: 'u' :: a :: b :: c :: d :: '\\' :: 'u' :: e :: f :: g :: h :: rest => do
    let first ← hexUnit? a b c d
    if 0xd800 ≤ first ∧ first < 0xdc00 then
      let second ← hexUnit? e f g h
      guard (a == 'D' && decide (0xdc00 ≤ second ∧ second < 0xe000))
      let (more, tail) ← takeQuoted? mark rest
      some (Char.ofNat (0x10000 + (first - 0xd800) * 1024 + (second - 0xdc00)) :: more, tail)
    else
      guard (!(0xdc00 ≤ first ∧ first < 0xe000))
      let (more, tail) ← takeQuoted? mark ('\\' :: 'u' :: e :: f :: g :: h :: rest)
      some (Char.ofNat first :: more, tail)
  | '\\' :: 'u' :: a :: b :: c :: d :: rest => do
    let unit ← hexUnit? a b c d
    guard (!(0xd800 ≤ unit ∧ unit < 0xe000))
    let (more, tail) ← takeQuoted? mark rest
    some (Char.ofNat unit :: more, tail)
  | '\\' :: c :: rest => do
    let escaped ← if c == mark then some c else if c == '"' then none else shortEscape? c
    let (more, tail) ← takeQuoted? mark rest
    some (escaped :: more, tail)
  | c :: rest =>
    if c == mark then some ([], rest)
    else do
      guard (32 ≤ c.toNat && c != '\\')
      let (more, tail) ← takeQuoted? mark rest
      some (c :: more, tail)

/-- A text in quotes of either kind. -/
def takeText? : List Char → Option (String × List Char)
  | c :: rest =>
    if c == '\'' || c == '"' then
      (takeQuoted? c rest).map fun (cs, rest) => (String.ofList cs, rest)
    else none
  | [] => none

/-- The greatest position that may be written. -/
def maxPosition : Nat := 9007199254740991

/-- A position: no zeros in front, and no negative zero. -/
def takePosition? (cs : List Char) : Option (Int × List Char) := do
  let (negative, unsigned) := match cs with
    | '-' :: rest => (true, rest)
    | _ => (false, cs)
  let (digits, rest) := spanDigits unsigned
  guard (!digits.isEmpty && (digits.head? != some '0' || (digits.length == 1 && !negative)))
  let n := digitsValue digits
  guard (n ≤ maxPosition)
  some (if negative then -(n : Int) else n, rest)

/-- A position where one is written. -/
def takeBound? (cs : List Char) : Option (Option Int × List Char) :=
  match cs with
  | c :: _ =>
    if c == '-' || c.isDigit then (takePosition? cs).map fun (i, rest) => (some i, rest)
    else some (none, cs)
  | [] => some (none, cs)

/-- The end and the step of a slice, from behind its first colon. -/
def takeSlice? (start : Option Int) (cs : List Char) : Option (Selector × List Char) := do
  let (stop, rest) ← takeBound? (skipBlanks cs)
  match skipBlanks rest with
  | ':' :: more =>
    let (step, rest) ← takeBound? (skipBlanks more)
    some (.slice start stop (step.getD 1), rest)
  | _ => some (.slice start stop 1, rest)

/-- A position or a slice. -/
def takePositions? (cs : List Char) : Option (Selector × List Char) := do
  let (start, rest) ← takeBound? cs
  match skipBlanks rest, start with
  | ':' :: more, _ => takeSlice? start more
  | _, some i => some (.index i, rest)
  | _, none => none

/-- A comparison sign. -/
def takeComparator? : List Char → Option (Comparator × List Char)
  | '=' :: '=' :: rest => some (.equal, rest)
  | '!' :: '=' :: rest => some (.notEqual, rest)
  | '<' :: '=' :: rest => some (.atMost, rest)
  | '>' :: '=' :: rest => some (.atLeast, rest)
  | '<' :: rest => some (.less, rest)
  | '>' :: rest => some (.greater, rest)
  | _ => none

/-- A node written in a path. -/
def takeLiteral? (cs : List Char) : Option (Document × List Char) :=
  match cs with
  | 't' :: 'r' :: 'u' :: 'e' :: rest => some (.bool true, rest)
  | 'f' :: 'a' :: 'l' :: 's' :: 'e' :: rest => some (.bool false, rest)
  | 'n' :: 'u' :: 'l' :: 'l' :: rest => some (.null, rest)
  | c :: _ =>
    if c == '-' || c.isDigit then (takeNumber? cs).map fun (n, rest) => (.number n, rest)
    else (takeText? cs).map fun (s, rest) => (.text s, rest)
  | [] => none

/-- The name of a function and what is behind its opening parenthesis. -/
def takeCall? : List Char → Option (String × List Char)
  | [] => none
  | c :: cs =>
    if c.isLower then
      match cs.span fun d => d.isLower || d.isDigit || d == '_' with
      | (more, '(' :: rest) => some (String.ofList (c :: more), skipBlanks rest)
      | _ => none
    else none

/-- What is behind a character, with blanks allowed in front of it. -/
def dropMark? (mark : Char) (cs : List Char) : Option (List Char) :=
  match skipBlanks cs with
  | c :: rest => if c == mark then some rest else none
  | [] => none

mutual

/-- The segments that stand here. -/
def takeSegments? : (fuel : Nat) → List Char → Option (List Segment × List Char)
  | 0, _ => none
  | fuel + 1, cs => do
    let step ← match cs with
      | '.' :: '.' :: '[' :: rest =>
        (takeSelectors? fuel rest).map fun (selectors, rest) => some (.descendant selectors, rest)
      | '.' :: '.' :: '*' :: rest => some (some (.descendant [.every], rest))
      | '.' :: '.' :: rest =>
        (takeName? rest).map fun (name, rest) => some (.descendant [.name name], rest)
      | _ =>
        match skipBlanks cs with
        | '.' :: '*' :: rest => some (some (.child [.every], rest))
        | '.' :: rest => (takeName? rest).map fun (name, rest) => some (.child [.name name], rest)
        | '[' :: rest =>
          (takeSelectors? fuel rest).map fun (selectors, rest) => some (.child selectors, rest)
        | _ => some none
    match step with
    | some (segment, rest) =>
      let (segments, tail) ← takeSegments? fuel rest
      some (segment :: segments, tail)
    | none => some ([], cs)

/-- Selectors from behind an opening bracket up to and with the closing one. -/
def takeSelectors? : (fuel : Nat) → List Char → Option (List Selector × List Char)
  | 0, _ => none
  | fuel + 1, cs => do
    let (selector, rest) ← match skipBlanks cs with
      | '*' :: rest => some (.every, rest)
      | '?' :: rest =>
        (takeCondition? fuel (skipBlanks rest)).map fun (c, rest) => (.filter c, rest)
      | inner =>
        ((takeText? inner).map fun (name, rest) => (Selector.name name, rest)).orElse
          fun _ => takePositions? inner
    match skipBlanks rest with
    | ',' :: more =>
      let (selectors, tail) ← takeSelectors? fuel more
      some (selector :: selectors, tail)
    | ']' :: tail => some ([selector], tail)
    | _ => none

/-- Conditions of which one has to hold. -/
def takeCondition? : (fuel : Nat) → List Char → Option (Condition × List Char)
  | 0, _ => none
  | fuel + 1, cs => do
    let (first, rest) ← takeConjunction? fuel cs
    match skipBlanks rest with
    | '|' :: '|' :: more =>
      let (others, tail) ← takeCondition? fuel (skipBlanks more)
      some (.either first others, tail)
    | _ => some (first, rest)

/-- Conditions all of which have to hold. -/
def takeConjunction? : (fuel : Nat) → List Char → Option (Condition × List Char)
  | 0, _ => none
  | fuel + 1, cs => do
    let (first, rest) ← takeClause? fuel cs
    match skipBlanks rest with
    | '&' :: '&' :: more =>
      let (others, tail) ← takeConjunction? fuel (skipBlanks more)
      some (.both first others, tail)
    | _ => some (first, rest)

/-- A comparison, a test or a condition in parentheses. -/
def takeClause? : (fuel : Nat) → List Char → Option (Condition × List Char)
  | 0, _ => none
  | fuel + 1, cs =>
    match takePath? fuel cs with
    | some (path, rest) =>
      match takeComparator? (skipBlanks rest) with
      | some sign => do takeRight? fuel (.direct (← path.direct?)) sign
      | none => some (.found path, rest)
    | none =>
      match cs with
      | '!' :: rest => (takeTest? fuel (skipBlanks rest)).map fun (c, rest) => (.negated c, rest)
      | _ =>
        match takeOperand? fuel cs with
        | some (operand, rest) => do takeRight? fuel operand (← takeComparator? (skipBlanks rest))
        | none => takeTest? fuel cs

/-- A comparison, from behind its sign. -/
def takeRight? : (fuel : Nat) → Operand → Comparator × List Char → Option (Condition × List Char)
  | 0, _, _ => none
  | fuel + 1, left, (how, cs) =>
    (takeOperand? fuel (skipBlanks cs)).map fun (right, rest) => (.compared how left right, rest)

/-- A condition in parentheses, a path that has to lead somewhere, or a match with a pattern. -/
def takeTest? : (fuel : Nat) → List Char → Option (Condition × List Char)
  | 0, _ => none
  | fuel + 1, cs => do
    match cs with
    | '(' :: rest =>
      let (condition, rest) ← takeCondition? fuel (skipBlanks rest)
      some (condition, ← dropMark? ')' rest)
    | _ =>
      match takePath? fuel cs with
      | some (path, rest) => some (.found path, rest)
      | none =>
        let (name, rest) ← takeCall? cs
        guard (name == "match" || name == "search")
        let (text, rest) ← takeOperand? fuel rest
        let rest ← dropMark? ',' rest
        let (pattern, rest) ← takeOperand? fuel (skipBlanks rest)
        some (.matched (name == "match") text pattern, ← dropMark? ')' rest)

/-- A path of any kind. -/
def takePath? : (fuel : Nat) → List Char → Option (Path × List Char)
  | 0, _ => none
  | fuel + 1, cs =>
    match cs with
    | '$' :: rest =>
      (takeSegments? fuel rest).map fun (segments, rest) => (.fromRoot segments, rest)
    | '@' :: rest =>
      (takeSegments? fuel rest).map fun (segments, rest) => (.fromHere segments, rest)
    | _ => none

/-- Something with a value: a literal, a direct path, or a function of one argument. -/
def takeOperand? : (fuel : Nat) → List Char → Option (Operand × List Char)
  | 0, _ => none
  | fuel + 1, cs =>
    match takeLiteral? cs with
    | some (d, rest) => some (.literal d, rest)
    | none =>
      match takePath? fuel cs with
      | some (path, rest) => path.direct?.map fun direct => (.direct direct, rest)
      | none => do
        let (name, rest) ← takeCall? cs
        match name with
        | "length" =>
          let (operand, rest) ← takeOperand? fuel rest
          some (.length operand, ← dropMark? ')' rest)
        | "count" =>
          let (path, rest) ← takePath? fuel rest
          some (.count path.found, ← dropMark? ')' rest)
        | "value" =>
          let (path, rest) ← takePath? fuel rest
          some (.only path.found, ← dropMark? ')' rest)
        | _ => none

end

/-- The path that a text spells. -/
def Path.parse? (text : String) : Option Path :=
  match text.toList with
  | '$' :: rest =>
    match takeSegments? (8 * (rest.length + 1)) rest with
    | some (segments, []) => some (.fromRoot segments)
    | _ => none
  | _ => none

end StateExpr.JsonPath
