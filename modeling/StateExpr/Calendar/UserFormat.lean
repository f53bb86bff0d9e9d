import StateExpr.Calendar.Pattern
/-!
# User formats

The formats that users write, such as `yyyy-MM-dd HH:mm` or `MM-DD-YY`, are turned into
patterns.  Runs of a format letter become specifiers; texts in quotes or square brackets, characters
behind a backslash and all other characters stand for themselves.

Main definition: `UserFormat.toPattern`.
-/

namespace StateExpr.UserFormat

/-- A character that stands for itself in a pattern. -/
def literal (c : Char) : List Char := if c = '%' then ['%', '%'] else [c]

/-- Whole seconds with three places and the letter of universal time. -/
def isoPattern : String := "%Y-%m-%dT%H:%M:%S%.3fZ"

/-- Whole seconds with three places and the offset. -/
def defaultPattern : String := "%Y-%m-%dT%H:%M:%S%.3f%:z"

/-- The specifier of a run of one letter. -/
def specifier? (c : Char) (run : Nat) : Option String :=
  match c with
  | 'y' | 'Y' => some (if run ≤ 2 then "%y" else "%Y")
  | 'M' => some (match run with | 1 => "%-m" | 2 => "%m" | 3 => "%b" | _ => "%B")
  | 'd' => some (match run with | 1 => "%-d" | 2 => "%d" | 3 => "%a" | _ => "%A")
  | 'D' => some (match run with | 1 => "%-d" | 2 => "%d" | _ => "%j")
  | 'H' => some (if run = 1 then "%-H" else "%H")
  | 'h' => some (if run = 1 then "%-I" else "%I")
  | 'm' => some (if run = 1 then "%-M" else "%M")
  | 's' => some (if run = 1 then "%-S" else "%S")
  | 'f' | 'F' | 'S' => some (if run ≤ 3 then "%3f" else if run ≤ 6 then "%6f" else "%9f")
  | 't' => some "%p"
  | 'A' => if run = 1 then some "%p" else none
  | 'a' => if run = 1 then some "%P" else none
  | 'z' => some (if run ≤ 2 then "%:::z" else "%:z")
  | 'Z' => some (if run = 1 then "%:z" else "%z")
  | 'K' => some "%:z"
  | _ => none

/-- The pattern of a run of one letter. -/
def ofRun (c : Char) (run : Nat) : List Char :=
  match specifier? c run with
  | some text => text.toList
  | none => (List.replicate run c).flatMap literal

/-- What closes a quotation that a character opens. -/
def closing? (c : Char) : Option Char :=
  if c = '\'' ∨ c = '"' then some c else if c = '[' then some ']' else none

/-- Where a reader of a format stands: outside, inside a quotation with its closing character,
behind a backslash, or in a run of one letter. -/
inductive Place where
  | outside
  | quoted (close : Char)
  | escaped
  | inRun (c : Char) (run : Nat)
deriving Repr, DecidableEq

/-- The place after a character outside of quotations and runs. -/
def enter (c : Char) : Place :=
  match closing? c with
  | some close => .quoted close
  | none => if c = '\\' then .escaped else .inRun c 1

/-- The pattern of the rest of a format from a place on. -/
def translate : Place → List Char → List Char
  | .inRun c run, [] => ofRun c run
  | _, [] => []
  | .outside, c :: rest => translate (enter c) rest
  | .escaped, c :: rest => literal c ++ translate .outside rest
  | .quoted close, c :: rest =>
    if c = close then translate .outside rest else literal c ++ translate (.quoted close) rest
  | .inRun d run, c :: rest =>
    if c = d then translate (.inRun d (run + 1)) rest else ofRun d run ++ translate (enter c) rest

/-- The pattern of a format; two formats of one letter are names of fixed patterns. -/
def toPattern (format : String) : String :=
  if format = "o" ∨ format = "O" then "%Y-%m-%dT%H:%M:%S%.7f%:z"
  else if format = "s" then "%Y-%m-%dT%H:%M:%S"
  else String.ofList (translate .outside format.toList)

end StateExpr.UserFormat
