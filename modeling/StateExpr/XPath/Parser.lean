import StateExpr.XPath.Token
/-!
# Reading queries

`Term.parse?` reads a query.  Operators bind, from loosest to tightest: `or`, `and`, the two
equalities, the four orders, sums, products, the minus sign and the union; all of them group to
the left.

A reader either fails, or gives what is behind the tokens that it took, with a term if it found one.
A reader that finds no term may have passed over tokens: an axis that no test follows, and
parentheses with no term inside, stand for nothing in front of the term behind them.
-/

namespace StateExpr.XPath

/-- How many levels of operators there are. -/
def levels : Nat := 6

/-- What an operator of a level makes of its two sides. -/
def operatorAt? (level : Nat) (token : Token) : Option (Term → Term → Term) :=
  match level, token with
  | 0, .mark "or" => some .either
  | 1, .mark "and" => some .both
  | 2, .mark "=" => some .equal
  | 2, .mark "!=" => some .notEqual
  | 3, .mark "<" => some (.ordered .less)
  | 3, .mark "<=" => some (.ordered .atMost)
  | 3, .mark ">" => some (.ordered .greater)
  | 3, .mark ">=" => some (.ordered .atLeast)
  | 4, .mark "+" => some (.computed .plus)
  | 4, .mark "-" => some (.computed .minus)
  | 5, .mark "*" => some (.computed .times)
  | 5, .mark "div" => some (.computed .div)
  | 5, .mark "mod" => some (.computed .mod)
  | _, _ => none

/-- The axis of a step; a step without one goes to children. -/
def takeAxis : List Token → Axis × List Token
  | .axis axis :: rest => (axis, rest)
  | tokens => (.child, tokens)

mutual

/-- A term of a level of operators. -/
def takeTerm? : (fuel level : Nat) → List Token → Option (Option Term × List Token)
  | 0, _, _ => none
  | fuel + 1, level, tokens =>
    if level < levels then do
      match ← takeTerm? fuel (level + 1) tokens with
      | (some left, rest) => takeOperators? fuel level left rest
      | (none, rest) => some (none, rest)
    else do
      match ← takeUnion? fuel tokens with
      | (none, .mark "-" :: rest) =>
        let (some term, rest) ← takeTerm? fuel level rest | none
        some (some (.negated term), rest)
      | result => some result

/-- The operators of a level behind their first operand; each needs a second one. -/
def takeOperators? : (fuel level : Nat) → Term → List Token → Option (Option Term × List Token)
  | 0, _, _, _ => none
  | fuel + 1, level, left, tokens =>
    match tokens with
    | [] => some (some left, [])
    | token :: rest =>
      match operatorAt? level token with
      | none => some (some left, tokens)
      | some combine => do
        let (some right, rest) ← takeTerm? fuel (level + 1) rest | none
        takeOperators? fuel level (combine left right) rest

/-- The union of one or more operands. -/
def takeUnion? : (fuel : Nat) → List Token → Option (Option Term × List Token)
  | 0, _ => none
  | fuel + 1, tokens => do
    match ← takeOperand? fuel tokens with
    | (some first, rest) => takeOthers? fuel first rest
    | (none, rest) => some (none, rest)

/-- The other operands of a union. -/
def takeOthers? : (fuel : Nat) → Term → List Token → Option (Option Term × List Token)
  | 0, _, _ => none
  | fuel + 1, left, tokens =>
    match tokens with
    | .mark "|" :: rest => do
      let (some right, rest) ← takeOperand? fuel rest | none
      takeOthers? fuel (.union left right) rest
    | _ => some (some left, tokens)

/-- A location, or a primary term with predicates and steps behind it. -/
def takeOperand? : (fuel : Nat) → List Token → Option (Option Term × List Token)
  | 0, _ => none
  | fuel + 1, tokens => do
    match ← takeSteps? fuel .here tokens with
    | (some location, rest) => some (some location, rest)
    | (none, .mark "/" :: rest) =>
      let (location?, rest) ← takeSteps? fuel .root rest
      some (some (location?.getD .root), rest)
    | (none, rest) =>
      match ← takePrimary? fuel rest with
      | (none, rest) => some (none, rest)
      | (some primary, rest) =>
        let (predicates, rest) ← takePredicates? fuel rest
        let start := predicates.foldl .filtered primary
        match rest with
        | .mark "/" :: rest =>
          let (some location, rest) ← takeSteps? fuel start rest | none
          some (some location, rest)
        | _ => some (some start, rest)

/-- A term in parentheses, a literal, a variable or a call. -/
def takePrimary? : (fuel : Nat) → List Token → Option (Option Term × List Token)
  | 0, _ => none
  | fuel + 1, tokens =>
    match tokens with
    | .variable name :: rest => some (some (.variable name), rest)
    | .mark "(" :: rest => do
      match ← takeTerm? fuel 0 rest with
      | (some term, .mark ")" :: rest) => some (some term, rest)
      | (none, .mark ")" :: rest) => takeSimple? fuel rest
      | _ => none
    | _ => takeSimple? fuel tokens

/-- A literal or a call. -/
def takeSimple? : (fuel : Nat) → List Token → Option (Option Term × List Token)
  | 0, _ => none
  | fuel + 1, tokens =>
    match tokens with
    | .literal s :: rest => some (some (.text s), rest)
    | .number x :: rest => some (some (.number x), rest)
    | .function name :: .mark "(" :: rest => do
      match ← takeTerm? fuel 0 rest with
      | (some first, rest) =>
        let (others, rest) ← takeArguments? fuel rest
        some (some (.call name (first :: others)), rest)
      | (none, .mark ")" :: rest) => some (some (.call name []), rest)
      | _ => none
    | _ => some (none, tokens)

/-- The arguments behind the first one, up to and with the closing parenthesis. -/
def takeArguments? : (fuel : Nat) → List Token → Option (List Term × List Token)
  | 0, _ => none
  | fuel + 1, tokens =>
    match tokens with
    | .mark "," :: rest => do
      let (some next, rest) ← takeTerm? fuel 0 rest | none
      let (others, rest) ← takeArguments? fuel rest
      some (next :: others, rest)
    | .mark ")" :: rest => some ([], rest)
    | _ => none

/-- Predicates in brackets. -/
def takePredicates? : (fuel : Nat) → List Token → Option (List Term × List Token)
  | 0, _ => none
  | fuel + 1, tokens =>
    match tokens with
    | .mark "[" :: rest => do
      match ← takeTerm? fuel 0 rest with
      | (some first, .mark "]" :: rest) =>
        let (others, rest) ← takePredicates? fuel rest
        some (first :: others, rest)
      | _ => none
    | _ => some ([], tokens)

/-- One or more steps with slashes between them. -/
def takeSteps? : (fuel : Nat) → Term → List Token → Option (Option Term × List Token)
  | 0, _, _ => none
  | fuel + 1, start, tokens => do
    let (axis, rest) := takeAxis tokens
    match rest with
    | .test test :: rest =>
      let (predicates, rest) ← takePredicates? fuel rest
      let reached := Term.located start (.along axis test predicates)
      match rest with
      | .mark "/" :: rest =>
        let (some location, rest) ← takeSteps? fuel reached rest | none
        some (some location, rest)
      | _ => some (some reached, rest)
    | _ => some (none, rest)

end

/-- The query that a text spells. -/
def Term.parse? (text : String) : Option Term := do
  let tokens ← tokens? text
  let (some term, []) ← takeTerm? (16 * (tokens.length + 1)) 0 tokens | none
  some term

end StateExpr.XPath
