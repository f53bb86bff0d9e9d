import StateExpr.Number.Dyadic
import StateExpr.Number.Reading
import StateExpr.Number.Text
import StateExpr.Text.Words
import StateExpr.Xml.Outline
/-!
# Answers of queries

An answer is a truth value, a number, a text or a set of nodes, which are listed in document order.
A set stands for the text of its first node where a text is asked for.
-/

namespace StateExpr.XPath

open StateExpr.Xml (Outline)

/-- What a query gives. -/
inductive Answer where
  | bool (b : Bool)
  | number (x : Float)
  | text (s : String)
  | nodes (rows : List Nat)

/-- Rows in document order, each once. -/
def inOrder (rows : List Nat) : List Nat :=
  (rows.mergeSort fun a b => a ≤ b).eraseReps

/-- The text of a number. -/
def answerText (x : Float) : String :=
  if x.isInf then if x < 0 then "-Infinity" else "Infinity" else positionalText x

/-- The number that a text spells between blanks, or NaN. -/
def spelledNumber (s : String) : Float := (readNumber? (trimChars s.toList)).getD (0.0 / 0.0)

namespace Answer

def asText (o : Outline) : Answer → String
  | bool b => toString b
  | number x => answerText x
  | text s => s
  | nodes rows => (rows.head?.map o.text).getD ""

def asNumber (o : Outline) : Answer → Float
  | bool b => if b then 1 else 0
  | number x => x
  | answer => spelledNumber (answer.asText o)

def asBool : Answer → Bool
  | bool b => b
  | number x => x != 0 && !x.isNaN
  | text s => !s.isEmpty
  | nodes rows => !rows.isEmpty

def asNodes? : Answer → Option (List Nat)
  | nodes rows => some rows
  | _ => none

/-- Equality: a set of nodes equals what one of its nodes equals; beside a truth value all is a
truth value, and beside a number all is a number. -/
def equals (o : Outline) (a b : Answer) : Bool :=
  match a, b with
  | bool a, b => a == b.asBool
  | a, bool b => a.asBool == b
  | nodes a, nodes b => a.any fun i => b.any fun j => o.text i == o.text j
  | nodes rows, number x | number x, nodes rows => rows.any fun i => spelledNumber (o.text i) == x
  | nodes rows, text s | text s, nodes rows => rows.any fun i => o.text i == s
  | number a, b => a == b.asNumber o
  | a, number b => a.asNumber o == b
  | text a, text b => a == b

end Answer

end StateExpr.XPath
