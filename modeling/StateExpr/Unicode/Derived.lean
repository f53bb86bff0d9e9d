import StateExpr.Unicode.Casing
/-!
# Derived properties of characters

Properties that follow from the category of a character, or from its upper and lower case, but for
some characters that are listed here: the characters of identifiers, those that change with their
case, and those that stand on their own or extend others.
-/

namespace StateExpr.Property

/-- The characters of a run. -/
def runRanges (run : Casing.Run) : Ranges :=
  let (first, last, step, _) := run
  if step = 1 then [(first, last)]
  else (List.range ((last - first) / step + 1)).map fun i => (first + step * i, first + step * i)

/-- The characters that an identifier may start with. -/
def identifierStart (_ : Unit) : Ranges :=
  (Category.group ['L'] ++ Category.ofNames ["Nl"] ++
    .ofText "1885-1886 2118 212e 309b-309c").difference (.ofText "2e2f")

/-- The characters that an identifier may go on with. -/
def identifierPart (_ : Unit) : Ranges :=
  identifierStart () ++ Category.ofNames ["Mn", "Mc", "Nd", "Pc"] ++
    .ofText "b7 387 1369-1371 19da 200c-200d 30fb ff65"

/-- Characters whose compatible forms may not stand in identifiers. -/
def brokenForms : Ranges :=
  .ofText "37a 309b-309c fc5e-fc63 fdfa-fdfb fe70 fe72 fe74 fe76 fe78 fe7a fe7c fe7e"

/-- Characters whose compatible forms may not start identifiers. -/
def brokenStarts : Ranges := brokenForms ++ .ofText "e33 eb3 ff9e-ff9f"

/-- The characters that differ from their upper case. -/
def changingUpper (_ : Unit) : Ranges :=
  Casing.upperRuns.flatMap runRanges ++ Casing.upperExpansions.map fun e => (e.1, e.1)

/-- The characters that differ from their lower case. -/
def changingLower (_ : Unit) : Ranges := (0x130, 0x130) :: Casing.lowerRuns.flatMap runRanges

/-- The characters that differ from their form at the start of a title. -/
def changingTitle (_ : Unit) : Ranges :=
  ((changingUpper ()).difference
    (.ofText "1c5 1c8 1cb 1f2 10d0-10fa 10fd-10ff 1f88-1f8f 1f98-1f9f 1fa8-1faf 1fbc 1fcc 1ffc")) ++
    .ofText "1c4 1c7 1ca 1f1"

/-- The characters that differ from their form without case. -/
def changingFolded (_ : Unit) : Ranges :=
  ((changingLower ()).difference (.ofText "13a0-13f5")) ++
    .ofText
      "b5 df 149 17f 345 3c2 3d0-3d1 3d5-3d6 3f0-3f1 3f5 587 13f8-13fd 1c80-1c88 1e9a-1e9b
1f80-1f87 1f90-1f97 1fa0-1fa7 1fb2-1fb4 1fb7 1fc2-1fc4 1fc7 1ff2-1ff4 1ff7 ab70-abbf
fb00-fb06 fb13-fb17"

/-- The characters that extend the one before them. -/
def extending (_ : Unit) : Ranges :=
  Category.ofNames ["Mn", "Me"] ++
    .ofText
      "9be 9d7 b3e b57 bbe bd7 cc0 cc2 cc7-cc8 cca-ccb cd5-cd6 d3e d57 dcf ddf 1715 1734 1b35
1b3b 1b3d 1b43-1b44 1baa 1bf2-1bf3 200c 302e-302f a953 a9c0 ff9e-ff9f 111c0 11235 1133e
1134d 11357 113b8 113c2 113c5 113c7-113c9 113cf 114b0 114bd 115af 116b6 11930 1193d
11f41 16ff0-16ff1 1d165-1d166 1d16d-1d172 e0020-e007f"

/-- The characters with a derived property, by its folded name. -/
def derived? (folded : String) : Option Ranges :=
  match folded with
  | "ids" | "idstart" => some (identifierStart ())
  | "idc" | "idcontinue" => some (identifierPart ())
  | "xids" | "xidstart" => some ((identifierStart ()).difference brokenStarts)
  | "xidc" | "xidcontinue" => some ((identifierPart ()).difference brokenForms)
  | "cwu" | "changeswhenuppercased" => some (changingUpper ())
  | "cwl" | "changeswhenlowercased" => some (changingLower ())
  | "cwt" | "changeswhentitlecased" => some (changingTitle ())
  | "cwcf" | "changeswhencasefolded" => some (changingFolded ())
  | "cwcm" | "changeswhencasemapped" =>
    some (changingUpper () ++ changingLower () ++ changingTitle ())
  | "grext" | "graphemeextend" => some (extending ())
  | "grbase" | "graphemebase" =>
    some (Category.group ['L', 'M', 'N', 'P', 'S'] ++ Category.ofNames ["Zs"] |>.difference
      (extending ()))
  | _ => none

end StateExpr.Property
