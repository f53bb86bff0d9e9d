/-!
# Searching in texts

Occurrences of one text in another, counted in characters: the first, the last, and the split and
the replacement at all of them from the left, none overlapping the one before.
-/

namespace StateExpr.Search

/-- Position of the first occurrence. -/
def first? (needle : List Char) : List Char → Option Nat
  | [] => if needle.isEmpty then some 0 else none
  | c :: rest => if needle.isPrefixOf (c :: rest) then some 0 else (first? needle rest).map (· + 1)

/-- Position of the last occurrence. -/
def last? (needle : List Char) : List Char → Option Nat
  | [] => if needle.isEmpty then some 0 else none
  | c :: rest =>
    match last? needle rest with
    | some k => some (k + 1)
    | none => if needle.isPrefixOf (c :: rest) then some 0 else none

/-- Put a character in front of the first of some pieces. -/
def consFirst (c : Char) : List (List Char) → List (List Char)
  | [] => [[c]]
  | piece :: rest => (c :: piece) :: rest

/-- The pieces between occurrences of a separator that is not empty; `skip` characters still belong
to an occurrence. -/
def pieces (separator : List Char) : (skip : Nat) → List Char → List (List Char)
  | _, [] => [[]]
  | 0, c :: rest =>
    if separator.isPrefixOf (c :: rest) then [] :: pieces separator (separator.length - 1) rest
    else consFirst c (pieces separator 0 rest)
  | skip + 1, _ :: rest => pieces separator skip rest

/-- The pieces between occurrences of a separator; the empty one separates all characters. -/
def split (separator text : List Char) : List (List Char) :=
  if separator.isEmpty then text.map fun c => [c] else pieces separator 0 text

/-- Put `by_` in the place of each occurrence; `skip` characters still belong to one. -/
def replaced (needle by_ : List Char) : (skip : Nat) → List Char → List Char
  | _, [] => []
  | 0, c :: rest =>
    if needle.isPrefixOf (c :: rest) then by_ ++ replaced needle by_ (needle.length - 1) rest
    else c :: replaced needle by_ 0 rest
  | skip + 1, _ :: rest => replaced needle by_ skip rest

/-- Put another text in the place of each occurrence of a text that is not empty. -/
def replace (needle by_ text : List Char) : List Char := replaced needle by_ 0 text

/-- What stands before and after the first occurrence of a character. -/
def splitFirst? (c : Char) (cs : List Char) : Option (List Char × List Char) :=
  match cs.dropWhile (· != c) with
  | _ :: rest => some (cs.takeWhile (· != c), rest)
  | [] => none

end StateExpr.Search
