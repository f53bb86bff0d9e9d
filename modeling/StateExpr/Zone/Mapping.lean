import StateExpr.Text.Search
import StateExpr.Text.Words
import StateExpr.Value.Basic
import StateExpr.Zone.Names
/-!
# Windows and IANA names

A mapping between two vocabularies of zone names, loaded from lines of a Windows name, a territory
and blank-separated IANA names.  It consists of three tables, which the lines fill one after the
other; what is in a table already stays, so that the first line that lists a name decides.

Main definitions: `ZoneMapping.ofText`, `toWindows`, `toIana` and `holds`.
-/

namespace StateExpr

/-- Set the value under a key that has none yet. -/
def Entries.insertNew {α : Type} (key : String) (value : α) (es : List (String × α)) :
    List (String × α) :=
  match get? key es with
  | some _ => es
  | none => insert key value es

/-- A line of the mapping. -/
structure ZoneRow where
  windows : String
  territory : String
  /-- The first of the IANA names, which is the main one. -/
  main : String
  others : List String
deriving Repr, DecidableEq

/-- A line that is none of the mapping, with its number. -/
structure MalformedRow where
  line : Nat
  row : String
deriving Repr, DecidableEq

def MalformedRow.message (m : MalformedRow) : String :=
  "malformed timezone mapping at line " ++ toString m.line ++ ": " ++ m.row

namespace ZoneRow

/-- The IANA names in order. -/
def ianas (r : ZoneRow) : List String := r.main :: r.others

/-- A trimmed line that is not blank, as a line of the mapping. -/
def ofChars? (row : List Char) : Option ZoneRow := do
  let (windows, rest) ← Search.splitFirst? ',' row
  let (territory, rest) ← Search.splitFirst? ',' rest
  let windows := trimChars windows
  let territory := trimChars territory
  match (words rest).map String.ofList with
  | [] => none
  | main :: others =>
    if windows.isEmpty || territory.isEmpty then none
    else some ⟨String.ofList windows, String.ofList territory, main, others⟩

end ZoneRow

/-- The tables of a mapping. -/
structure ZoneMapping where
  /-- Windows names by IANA names. -/
  windowsNames : List (String × String)
  /-- Main IANA names by territory and Windows name. -/
  ianaNames : List (String × String)
  /-- The names of either vocabulary. -/
  known : List String
deriving Repr, DecidableEq

namespace ZoneMapping

def empty : ZoneMapping := ⟨[], [], []⟩

/-- The territory whose rows hold the main zone of a Windows name. -/
def world : String := "001"

/-- Territory and Windows name as one key, with a bar between them. -/
def territoryKey (territory windows : String) : String := territory ++ "|" ++ windows

/-- Put an IANA name of a Windows name into the tables. -/
def addIana (windows : String) (mapping : ZoneMapping) (iana : String) : ZoneMapping :=
  { mapping with
    windowsNames := Entries.insertNew iana windows mapping.windowsNames
    known := mapping.known.insert iana }

/-- Put a row into the tables. -/
def addRow (mapping : ZoneMapping) (r : ZoneRow) : ZoneMapping :=
  let key := territoryKey r.territory r.windows
  let main := { mapping with ianaNames := Entries.insertNew key r.main mapping.ianaNames }
  let names := r.ianas.foldl (addIana r.windows) main
  { names with known := names.known.insert r.windows }

/-- The lines of a text. -/
def linesOf (text : String) : List (List Char) :=
  Search.pieces ['\n'] 0 text.toList

/-- The mapping with the rows of further lines, from a line number on; blank lines are skipped. -/
def addLines : ZoneMapping → (line : Nat) → List (List Char) → Except MalformedRow ZoneMapping
  | mapping, _, [] => .ok mapping
  | mapping, line, cs :: rest =>
    let row := trimChars cs
    if row.isEmpty then addLines mapping (line + 1) rest
    else
      match ZoneRow.ofChars? row with
      | some r => addLines (mapping.addRow r) (line + 1) rest
      | none => .error ⟨line, String.ofList row⟩

/-- The mapping of a text, or its first malformed line. -/
def ofText (text : String) : Except MalformedRow ZoneMapping := addLines empty 1 (linesOf text)

/-- The Windows name of a zone; an unknown name stays as it is. -/
def toWindows (mapping : ZoneMapping) (iana : String) : String :=
  (Entries.get? iana mapping.windowsNames).getD iana

/-- The main zone of a Windows name; an unknown name stays as it is. -/
def toIana (mapping : ZoneMapping) (windows : String) : String :=
  (Entries.get? (territoryKey world windows) mapping.ianaNames).getD windows

/-- The name is one of either vocabulary. -/
def holds (mapping : ZoneMapping) (id : String) : Bool := mapping.known.contains id

/-- The mapping of the bundled names. -/
def bundled : ZoneMapping := (ofText zoneNamesText).toOption.getD empty

end ZoneMapping

end StateExpr
