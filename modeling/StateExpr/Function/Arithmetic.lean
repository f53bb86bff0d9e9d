import StateExpr.Function.Arguments
/-!
# Arithmetic

Folds over numbers, roundings, and what is computed from lists of numbers.  The sum of no numbers is
the negative zero, which leaves every other number as it is when it is added to it.
-/

namespace StateExpr.Arithmetic

def add (a b : Value) : Value := .number (a.numberOrZero + b.numberOrZero)

def subtract (a b : Value) : Value := .number (a.numberOrZero - b.numberOrZero)

def multiply (a b : Value) : Value := .number (a.numberOrZero * b.numberOrZero)

/-- A quotient, rounded down when both operands are integers. -/
def divide (a b : Value) : Value :=
  let quotient := a.numberOrZero / b.numberOrZero
  .number (if a.isInteger && b.isInteger then floored quotient else quotient)

def power (a b : Value) : Value := .number (a.numberOrZero.pow b.numberOrZero)

/-- The remainder with the sign of the dividend. -/
def remainder (args : List Value) : Except String Value :=
  let a := (argument args 0).numberOrZero
  let b := (argument args 1).numberOrZero
  if b == 0 then .error "Cannot mod by 0." else .ok (.number (numberRemainder a b))

/-- The numbers of the arguments, those of lists included. -/
def numbers (args : List Value) : List Float :=
  args.flatMap fun
    | .list items => items.map Value.numberOrZero
    | v => [v.numberOrZero]

/-- The smaller of two numbers, or the one that is a number. -/
def lesser (a b : Float) : Float := if a.isNaN then b else if b < a then b else a

/-- The greater of two numbers, or the one that is a number. -/
def greater (a b : Float) : Float := if a.isNaN then b else if a < b then b else a

def minimum (args : List Value) : Except String Value :=
  match numbers args with
  | [] => .error "Cannot take the min of an empty list."
  | x :: rest => .ok (.number (rest.foldl lesser x))

def maximum (args : List Value) : Except String Value :=
  match numbers args with
  | [] => .error "Cannot take the max of an empty list."
  | x :: rest => .ok (.number (rest.foldl greater x))

/-- The sum of the numbers, from the first to the last. -/
def total (args : List Value) : Float := (numbers args).foldl (· + ·) (-0.0)

def sum (args : List Value) : Value := .number (total args)

def average (args : List Value) : Except String Value :=
  match (argument args 0).items.length with
  | 0 => .error "Cannot take the average of an empty list."
  | n => .ok (.number (total args / numberOfInt n))

/-- The size of a text, a list or a map. -/
def count (args : List Value) : Value :=
  match argument args 0 with
  | .text s => .ofNat s.length
  | .list items => .ofNat items.length
  | .map entries => .ofNat entries.length
  | _ => .null

/-- So many integers from a start on. -/
def range (args : List Value) : Except String Value :=
  let start := (argument args 0).integer?.getD 0
  let count := (argument args 1).integer?.getD 0
  if count ≤ 0 then .error "Second paramter must be more than zero"
  else if int64Max < start + (count - 1) then
    .error ("range(" ++ toString start ++ ", " ++ toString count
      ++ ") is out of the integer range.")
  else .ok (.list ((List.range count.toNat).map fun (i : Nat) => .ofInt (start + i)))

def floor (args : List Value) : Value := .number (floored (argument args 0).numberOrZero)

def ceiling (args : List Value) : Value := .number (ceiled (argument args 0).numberOrZero)

def absolute (args : List Value) : Value := .number (argument args 0).numberOrZero.abs

def squareRoot (args : List Value) : Except String Value :=
  let x := (argument args 0).numberOrZero
  if x < 0 then .error ((argument args 0).plainText ++ " is not a non-negative number.")
  else .ok (.number x.sqrt)

/-- Round to some places, a half away from zero. -/
def roundTo (x : Float) (places : Nat) : Float :=
  let scale := numberOfInt (Nat.pow 10 places)
  roundedAway (x * scale) / scale

/-- Round to at most fifteen places, without a second argument to none. -/
def round (args : List Value) : Except String Value :=
  let x := (argument args 0).numberOrZero
  match args[1]? with
  | none => .ok (.number (roundTo x 0))
  | some places =>
    match places.integer? with
    | some n =>
      if 0 ≤ n ∧ n ≤ 15 then .ok (.number (roundTo x n.toNat)) else .error (badPlaces places)
    | none => .error (badPlaces places)
where
  badPlaces (places : Value) : String :=
    "The second parameter " ++ places.plainText ++ " must be an integer between 0 and 15."

end StateExpr.Arithmetic
