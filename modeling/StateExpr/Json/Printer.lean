import StateExpr.Value.Text
/-!
# Writing JSON

`Json.render` writes a value without blanks.  Numbers that are not finite are written as null, and
control characters by their short escapes where JSON has them.
-/

namespace StateExpr.Json

/-- One character of a string. -/
def renderChar (c : Char) : List Char :=
  if c = '\x08' then ['\\', 'b']
  else if c = '\x0c' then ['\\', 'f']
  else escapeChar c

def renderString (s : String) : String :=
  String.ofList ('"' :: s.toList.flatMap renderChar ++ ['"'])

mutual

/-- The JSON text of a value. -/
def render : Value → String
  | .null => "null"
  | .bool b => toString b
  | .number x => jsonNumberText x
  | .text s => renderString s
  | .list items => "[" ++ renderItems items ++ "]"
  | .map entries => "\x7b" ++ renderEntries entries ++ "\x7d"

/-- Items with commas between them. -/
def renderItems : List Value → String
  | [] => ""
  | [v] => render v
  | v :: rest => render v ++ "," ++ renderItems rest

/-- Members with commas between them. -/
def renderEntries : List (String × Value) → String
  | [] => ""
  | [(k, v)] => renderString k ++ ":" ++ render v
  | (k, v) :: rest => renderString k ++ ":" ++ render v ++ "," ++ renderEntries rest

end

end StateExpr.Json
