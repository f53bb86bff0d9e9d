import StateExpr.Unicode.Property
/-!
# Words and edges

Cutting white space off the edges of a text and splitting it into words at white space.
-/

namespace StateExpr

/-- A text without white space at its edges. -/
def trimChars (cs : List Char) : List Char :=
  ((cs.dropWhile isBlank).reverse.dropWhile isBlank).reverse

def trimText (s : String) : String := String.ofList (trimChars s.toList)

/-- The words from here on, given whether the character before belongs to a word. -/
def wordsFrom : (inside : Bool) → List Char → List (List Char)
  | _, [] => []
  | inside, c :: rest =>
    if isBlank c then wordsFrom false rest
    else
      let word := c :: rest.takeWhile fun d => !isBlank d
      if inside then wordsFrom true rest else word :: wordsFrom true rest

/-- The maximal runs of characters that are no white space. -/
def words (cs : List Char) : List (List Char) := wordsFrom false cs

end StateExpr
