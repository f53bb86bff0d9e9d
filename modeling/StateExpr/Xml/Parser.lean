import StateExpr.Xml.Basic
import StateExpr.Unicode.Ranges
import StateExpr.Text.Search
/-!
# Reading marked-up text

`parse?` reads a document: perhaps a declaration, then comments and instructions around exactly one
element.  There are no document types, so the only entities are the five that are always there.
Each run of plain characters, each reference and each literal section is a text of its own.
-/

namespace StateExpr.Xml

/-- The four blanks of markup. -/
def isSpace (c : Char) : Bool := c == ' ' || c == '\t' || c == '\n' || c == '\r'

def skipSpace (cs : List Char) : List Char := cs.dropWhile isSpace

/-- The characters that a name may start with. -/
def nameStart : Ranges :=
  .ofText "41-5a 5f 61-7a c0-d6 d8-f6 f8-2ff 370-37d 37f-1fff 200c-200d 2070-218f 2c00-2fef
3001-d7ff f900-fdcf fdf0-fffd 10000-effff"

/-- The characters that a name may go on with. -/
def namePart : Ranges := nameStart ++ .ofText "2d 2e 30-39 b7 300-36f 203f-2040"

/-- What is behind a text that stands here. -/
def dropText? (expected : String) (cs : List Char) : Option (List Char) :=
  if expected.toList.isPrefixOf cs then some (cs.drop expected.length) else none

/-- What stands before a text, and what is behind it. -/
def takeUntil? (stop : String) (cs : List Char) : Option (List Char × List Char) :=
  (Search.first? stop.toList cs).map fun k => (cs.take k, cs.drop (k + stop.length))

/-- A name without a qualifier. -/
def takeNamePart? : List Char → Option (String × List Char)
  | [] => none
  | c :: cs =>
    if nameStart.contains c then
      let (more, rest) := cs.span namePart.contains
      some (String.ofList (c :: more), rest)
    else none

/-- A name as it is written: its qualifier, if it has one, and its local part. -/
structure WrittenName where
  qualifier : Option String
  localPart : String
deriving Repr, DecidableEq

/-- A name with an optional qualifier. -/
def takeName? (cs : List Char) : Option (WrittenName × List Char) := do
  let (first, rest) ← takeNamePart? cs
  match rest with
  | ':' :: more =>
    let (second, rest) ← takeNamePart? more
    some (⟨some first, second⟩, rest)
  | _ => some (⟨none, first⟩, rest)

/-- The character that the inside of a reference stands for. -/
def referenced? (name : List Char) : Option Char :=
  let ofDigits (base : Nat) (digits : List Char) : Option Char := do
    guard (!digits.isEmpty && digits.all fun c =>
      c.isDigit || (base == 16 && "abcdefABCDEF".toList.contains c))
    let n := digits.foldl (fun n c => base * n + Ranges.hexDigit c.toLower) 0
    if n.isValidChar then some (Char.ofNat n) else none
  match name with
  | '#' :: 'x' :: digits => ofDigits 16 digits
  | '#' :: digits => ofDigits 10 digits
  | _ =>
    match String.ofList name with
    | "amp" => some '&'
    | "lt" => some '<'
    | "gt" => some '>'
    | "apos" => some '\''
    | "quot" => some '"'
    | _ => none

/-- The character of a reference from behind its ampersand. -/
def takeReference? (cs : List Char) : Option (Char × List Char) := do
  let (name, rest) ← takeUntil? ";" cs
  some (← referenced? name, rest)

/-- The characters of a quoted value up to and with the closing mark. -/
def takeQuoted? (mark : Char) : (fuel : Nat) → List Char → Option (List Char × List Char)
  | 0, _ => none
  | _ + 1, [] => none
  | fuel + 1, c :: cs =>
    if c == mark then some ([], cs)
    else do
      let (c, rest) ←
        if c == '<' then none else if c == '&' then takeReference? cs else some (c, cs)
      let (more, rest) ← takeQuoted? mark fuel rest
      some (c :: more, rest)

/-- A value in quotes of either kind, behind an equality sign. -/
def takeValue? (cs : List Char) : Option (String × List Char) := do
  let .cons '=' rest := skipSpace cs | none
  let .cons mark rest := skipSpace rest | none
  guard (mark == '\'' || mark == '"')
  let (value, rest) ← takeQuoted? mark rest.length rest
  some (String.ofList value, rest)

/-- The attributes of a tag, each with a blank in front, and what is behind the last of them. -/
def takeAttributes? : (fuel : Nat) → List Char → Option (List (WrittenName × String) × List Char)
  | 0, _ => none
  | fuel + 1, cs =>
    let rest := skipSpace cs
    match rest with
    | c :: _ =>
      if c == '>' || c == '/' || c == '?' then some ([], rest)
      else if rest.length == cs.length then none
      else do
        let (name, rest) ← takeName? rest
        let (value, rest) ← takeValue? rest
        let (others, rest) ← takeAttributes? fuel rest
        some ((name, value) :: others, rest)
    | [] => none

/-- No two attributes share a name. -/
def distinctNames : List (WrittenName × String) → Bool
  | [] => true
  | a :: rest => rest.all (·.1 != a.1) && distinctNames rest

/-- The qualifiers that attributes declare. -/
def declaredBy (attributes : List (WrittenName × String)) : Spaces :=
  attributes.filterMap fun (name, value) =>
    if name.qualifier == some "xmlns" then some (name.localPart, value) else none

/-- The address that attributes give to bare element names. -/
def bareAddress? (attributes : List (WrittenName × String)) : Option String :=
  attributes.lookup ⟨none, "xmlns"⟩

/-- The spaces inside an element with these attributes.  An empty address of bare names is for the
element alone. -/
def declareSpaces (outer : Spaces) (attributes : List (WrittenName × String)) : Spaces :=
  let bare := ((bareAddress? attributes).filter (· != "")).map fun address => ("", address)
  declaredBy attributes ++ bare.toList ++ outer

/-- The attribute declares a space. -/
def declaresSpace (name : WrittenName) : Bool :=
  name == ⟨none, "xmlns"⟩ || name.qualifier == some "xmlns"

/-- A name with the address of its space, if its qualifier is declared; `bare` is the address of
names without one. -/
def resolve? (spaces : Spaces) (bare : Option String) (name : WrittenName) : Option Name :=
  match name.qualifier with
  | some q => (spaces.lookup q).map fun address => ⟨some q, some address, name.localPart⟩
  | none => some ⟨none, bare, name.localPart⟩

/-- The last attributes of each name in a space. -/
def lastOfEach : List Attribute → List Attribute
  | [] => []
  | a :: rest =>
    if rest.any fun b => b.name.space == a.name.space && b.name.localPart == a.name.localPart
    then lastOfEach rest else a :: lastOfEach rest

/-- A comment, from behind its opening mark. -/
def takeComment? (cs : List Char) : Option (Node × List Char) := do
  let (content, rest) ← takeUntil? "--" cs
  some (.comment (String.ofList content), ← dropText? ">" rest)

/-- An instruction, from behind its opening mark; the name of the declaration is no target. -/
def takeInstruction? (cs : List Char) : Option (Node × List Char) := do
  let (target, rest) ← takeNamePart? cs
  guard (String.ofList (target.toList.map Char.toLower) != "xml")
  match dropText? "?>" rest with
  | some rest => some (.instruction target "", rest)
  | none =>
    guard ((rest.head?.map isSpace).getD false)
    let (content, rest) ← takeUntil? "?>" (skipSpace rest)
    some (.instruction target (String.ofList content), rest)

mutual

/-- An element, from behind its opening mark. -/
def takeElement? : (fuel : Nat) → Spaces → List Char → Option (Node × List Char)
  | 0, _, _ => none
  | fuel + 1, outer, cs => do
    let (written, rest) ← takeName? cs
    let (given, rest) ← takeAttributes? (rest.length + 1) rest
    let declared := declaredBy given
    guard (distinctNames given && declared.all (·.2 != ""))
    let spaces := declareSpaces outer given
    let bare := if bareAddress? given == some "" then none else spaces.lookup ""
    let name ← resolve? spaces bare written
    let attributes ← (given.filter fun a => !declaresSpace a.1).mapM fun a =>
      (resolve? spaces none a.1).map fun name => Attribute.mk name a.2
    let attributes := lastOfEach attributes
    match rest with
    | '/' :: '>' :: rest => some (.element name declared attributes [], rest)
    | '>' :: rest =>
      let (children, rest) ← takeContent? fuel spaces rest
      let (closing, rest) ← takeName? rest
      guard (closing == written)
      some (.element name declared attributes children, ← dropText? ">" (skipSpace rest))
    | _ => none

/-- The nodes inside an element, and what is behind the opening mark of its closing tag. -/
def takeContent? : (fuel : Nat) → Spaces → List Char → Option (List Node × List Char)
  | 0, _, _ => none
  | fuel + 1, spaces, cs => do
    let step ← match cs with
      | [] => none
      | '<' :: '/' :: _ => some none
      | '<' :: '!' :: '-' :: '-' :: rest => (takeComment? rest).map some
      | '<' :: '!' :: rest => do
        let (content, rest) ← takeUntil? "]]>" (← dropText? "[CDATA[" rest)
        some (some (.text (String.ofList content), rest))
      | '<' :: '?' :: rest => (takeInstruction? rest).map some
      | '<' :: rest => (takeElement? fuel spaces rest).map some
      | '&' :: rest =>
        (takeReference? rest).map fun (c, rest) => some (.text (String.ofList [c]), rest)
      | _ =>
        let (content, rest) := cs.span fun c => c != '<' && c != '&'
        if (Search.first? "]]>".toList content).isSome then none
        else some (some (.text (String.ofList content), rest))
    match step with
    | some (node, rest) =>
      let (others, rest) ← takeContent? fuel spaces rest
      some (node :: others, rest)
    | none => some ([], cs.drop 2)

end

/-- Comments and instructions with blanks around them. -/
def takeSurroundings? : (fuel : Nat) → List Char → Option (List Node × List Char)
  | 0, _ => none
  | fuel + 1, cs => do
    let step ← match skipSpace cs with
      | '<' :: '!' :: '-' :: '-' :: rest => (takeComment? rest).map some
      | '<' :: '?' :: rest => (takeInstruction? rest).map some
      | _ => some none
    match step with
    | some (node, rest) =>
      let (others, rest) ← takeSurroundings? fuel rest
      some (node :: others, rest)
    | none => some ([], skipSpace cs)

/-- The characters of a version behind its first two. -/
def isVersion (s : String) : Bool :=
  match s.toList with
  | '1' :: '.' :: digits => !digits.isEmpty && digits.all Char.isDigit
  | _ => false

/-- A name of an encoding. -/
def isEncoding (s : String) : Bool :=
  match s.toList with
  | c :: cs => c.isAlpha && cs.all fun d => d.isAlphanum || d == '.' || d == '_' || d == '-'
  | [] => false

/-- What may stand in a declaration, in this order and with the first part always there. -/
def isDeclaration : List (WrittenName × String) → Bool
  | (⟨none, "version"⟩, version) :: rest =>
    isVersion version &&
      (match rest with
        | [] => true
        | [(⟨none, "encoding"⟩, encoding)] => isEncoding encoding
        | [(⟨none, "standalone"⟩, answer)] => answer == "yes" || answer == "no"
        | [(⟨none, "encoding"⟩, encoding), (⟨none, "standalone"⟩, answer)] =>
          isEncoding encoding && (answer == "yes" || answer == "no")
        | _ => false)
  | _ => false

/-- What is behind the declaration, if there is one. -/
def dropDeclaration? (cs : List Char) : Option (List Char) :=
  match dropText? "<?xml" cs with
  | some rest =>
    if (rest.head?.map isSpace).getD false then do
      let (parts, rest) ← takeAttributes? (rest.length + 1) rest
      guard (isDeclaration parts)
      dropText? "?>" rest
    else some cs
  | none => some cs

/-- The spaces that are there from the start. -/
def initialSpaces : Spaces := [("xml", startAddress)]

/-- The nodes of a document. -/
def parse? (text : String) : Option (List Node) := do
  let cs ← dropDeclaration? text.toList
  let (before, rest) ← takeSurroundings? (cs.length + 1) cs
  let rest ← dropText? "<" rest
  let (element, rest) ← takeElement? (2 * cs.length + 2) initialSpaces rest
  let (behind, rest) ← takeSurroundings? (rest.length + 1) rest
  guard rest.isEmpty
  some (before ++ element :: behind)

end StateExpr.Xml
