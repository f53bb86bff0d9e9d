import StateExpr.Url.Host
/-!
# Absolute addresses

`Url.parse?` reads an absolute address: a scheme, perhaps a host and a port, a path and perhaps a
query.  The special schemes (`http`, `https`, `ws`, `wss`, `ftp` and `file`) have hosts that are
domain names and paths that start with a slash, and take a backslash for a slash.  Blanks at the
edges and all tabs and line ends are left out, and steps such as `.` and `..` are taken.

An address keeps its parts in the written form: characters outside of ASCII and some others are
percent-encoded.
-/

namespace StateExpr

/-- The parts of an address as they are written. -/
structure Url where
  scheme : String
  host : Option String
  port : Option Nat
  path : String
  query : Option String
deriving Repr, DecidableEq

namespace Url

/-- The host, or nothing. -/
def hostText (url : Url) : String := url.host.getD ""

def pathText (url : Url) : String := url.path

/-- The port, unless it is the usual one of the scheme. -/
def portText (url : Url) : String :=
  match url.port with
  | some port => toString port
  | none => ""

/-- The query with its question mark. -/
def queryText (url : Url) : String :=
  match url.query with
  | some query => "?" ++ query
  | none => ""

/-- The path and the query with its question mark. -/
def pathAndQueryText (url : Url) : String := url.path ++ url.queryText

/-- The usual port of a scheme. -/
def usualPort? (scheme : String) : Option Nat :=
  match scheme with
  | "http" | "ws" => some 80
  | "https" | "wss" => some 443
  | "ftp" => some 21
  | _ => none

/-- The schemes whose addresses have a structure of their own. -/
def isSpecial (scheme : String) : Bool := (usualPort? scheme).isSome || scheme == "file"

/-- Characters that are percent-encoded in paths. -/
def encodedInPath (c : Char) : Bool := " \"<>`#?\x7b\x7d".toList.contains c

/-- Characters that are percent-encoded in queries. -/
def encodedInQuery (special : Bool) (c : Char) : Bool :=
  " \"#<>".toList.contains c || (special && c == '\'')

/-- The scheme, in lower case, and what is behind its colon. -/
def takeScheme? : List Char → Option (String × List Char)
  | [] => none
  | c :: rest =>
    if !c.isAlpha then none
    else
      match rest.span fun d => d.isAlphanum || d == '+' || d == '-' || d == '.' with
      | (more, ':' :: rest) => some (String.ofList ((c :: more).map Char.toLower), rest)
      | _ => none

/-- The character ends an authority. -/
def endsAuthority (special : Bool) (c : Char) : Bool :=
  c == '/' || c == '?' || c == '#' || (special && c == '\\')

/-- Two characters that name a drive. -/
def isDrive : List Char → Bool
  | [letter, mark] => letter.isAlpha && (mark == ':' || mark == '|')
  | _ => false

/-- A drive in its written form. -/
def isWrittenDrive : List Char → Bool
  | [letter, ':'] => letter.isAlpha
  | _ => false

/-- A step to the same place. -/
def isSingleDot (segment : List Char) : Bool :=
  [".", "%2e"].contains (String.ofList (segment.map Char.toLower))

/-- A step to the place above. -/
def isDoubleDot (segment : List Char) : Bool :=
  ["..", ".%2e", "%2e.", "%2e%2e"].contains (String.ofList (segment.map Char.toLower))

/-- A path without its last segment; a drive alone stays. -/
def shortened (file : Bool) (path : List (List Char)) : List (List Char) :=
  match path with
  | [only] => if file && isWrittenDrive only then path else []
  | _ => path.dropLast

/-- A path with one more written segment, which is the last or has a slash behind it. -/
def addSegment (file : Bool) (path : List (List Char)) (segment : List Char) (isLast : Bool) :
    List (List Char) :=
  if isDoubleDot segment then
    if isLast then shortened file path ++ [[]] else shortened file path
  else if isSingleDot segment then if isLast then path ++ [[]] else path
  else
    match segment with
    | [letter, _] =>
      if file && path.isEmpty && isDrive segment then path ++ [[letter, ':']]
      else path ++ [Percent.escapeChars encodedInPath segment]
    | _ => path ++ [Percent.escapeChars encodedInPath segment]

/-- All segments of a path. -/
def addSegments (file : Bool) (path : List (List Char)) : List (List Char) → List (List Char)
  | [] => path
  | [last] => addSegment file path last true
  | segment :: rest => addSegments file (addSegment file path segment false) rest

/-- Split at slashes. -/
def segmentsOf (special : Bool) (cs : List Char) : List (List Char) :=
  Search.split ['/'] (if special then cs.map fun c => if c == '\\' then '/' else c else cs)

/-- The written path of some characters behind the first slash. -/
def pathOf (special file : Bool) (cs : List Char) : String :=
  let segments := segmentsOf special cs
  let path := addSegments file [] (if file then segments.dropWhile List.isEmpty else segments)
  let path := if file && path.isEmpty then [[]] else path
  String.ofList (path.flatMap fun segment => '/' :: segment)

/-- The path of an address with an authority. -/
def authorityPath (special file : Bool) : List Char → String
  | [] => if special then "/" else ""
  | c :: rest =>
    if c == '/' || (special && c == '\\') then pathOf special file rest
    else pathOf special file (c :: rest)

/-- What is before the query, and the written query, if there is one. -/
def splitQuery (special : Bool) (cs : List Char) : List Char × Option String :=
  let (address, _) := cs.span (· != '#')
  match address.span (· != '?') with
  | (front, '?' :: query) =>
    (front, some (String.ofList (Percent.escapeChars (encodedInQuery special) query)))
  | (front, _) => (front, none)

/-- The host without the user, and whether a user was named; a user needs a host. -/
def dropUser? (authority : List Char) : Option (List Char × Bool) :=
  match authority.reverse.span (· != '@') with
  | (host, _ :: user) =>
    if user.isEmpty && host.isEmpty then none
    else some (host.reverse, !user.isEmpty && user != [':'])
  | (_, []) => some (authority, false)

/-- The host and the port, which stand around the first colon outside of brackets. -/
def splitPort : (inside : Bool) → List Char → List Char × Option (List Char)
  | _, [] => ([], none)
  | inside, c :: rest =>
    if c == ':' && !inside then ([], some rest)
    else
      let (host, port) :=
      splitPort (if c == '[' then true else if c == ']' then false else inside) rest
      (c :: host, port)

/-- The number of a port; nothing inside when it is the usual one or is not given. -/
def port? (scheme : String) (cs : List Char) : Option (Option Nat) :=
  if !cs.all Char.isDigit then none
  else
    let n := digitsValue cs
    if cs.isEmpty then some none
    else if 65535 < n then none
    else some (if usualPort? scheme == some n then none else some n)

/-- The host and the port of an authority. -/
def authority? (scheme : String) (authority : List Char) :
    Option (Option String × Option Nat) := do
  let (rest, named) ← dropUser? authority
  let (host, portDigits) := splitPort false rest
  let port ← port? scheme (portDigits.getD [])
  if host.isEmpty then
    guard (!isSpecial scheme && portDigits.isNone && !named)
    some (none, port)
  else
    let text ← if isSpecial scheme then Host.domain? host else Host.opaqueText? host
    some (some text, port)

/-- An address with an authority, from behind its two slashes. -/
def withAuthority? (scheme : String) (cs : List Char) : Option Url := do
  let special := isSpecial scheme
  let (front, query) := splitQuery special cs
  let (authority, path) := front.span fun c => !endsAuthority special c
  let (host, port) ← authority? scheme authority
  some ⟨scheme, host, port, authorityPath special false path, query⟩

/-- The first segment of a path behind its slash is a drive. -/
def startsWithDrive (path : List Char) : Bool :=
  isDrive ((path.drop 1).takeWhile fun c => !endsAuthority true c)

/-- The host of a file and its path, from behind the two slashes; a drive is no host, and nothing
before a drive is one. -/
def fileHost? (cs : List Char) : Option (Option String × List Char) :=
  let (host, path) := cs.span fun c => !endsAuthority true c
  if host.isEmpty || isDrive host then some (none, cs)
  else do
    let text ← Host.domain? host
    some (if text == "localhost" || startsWithDrive path then none else some text, path)

/-- The address of a file. -/
def file? (cs : List Char) : Option Url := do
  let (front, query) := splitQuery true cs
  let isSlash (c : Char) := c == '/' || c == '\\'
  let (host, path) ← match front with
    | a :: b :: rest => if isSlash a && isSlash b then fileHost? rest else some (none, front)
    | _ => some (none, front)
  some ⟨"file", host, none, pathOf true true (path.dropWhile isSlash), query⟩

/-- An address without authority: a path that starts with a slash, or one that stays as it is. -/
def withoutAuthority (scheme : String) (cs : List Char) : Url :=
  let (front, query) := splitQuery false cs
  let path := match front with
    | '/' :: rest => pathOf false false rest
    | _ => String.ofList (Percent.escapeChars (fun _ => false) front)
  ⟨scheme, none, none, path, query⟩

/-- The characters of an address that count. -/
def significant (text : String) : List Char :=
  let isEdge (c : Char) : Bool := c.toNat ≤ 32
  let trimmed := ((text.toList.dropWhile isEdge).reverse.dropWhile isEdge).reverse
  trimmed.filter fun c => c != '\t' && c != '\n' && c != '\r'

/-- Read an absolute address. -/
def parse? (text : String) : Option Url := do
  let (scheme, rest) ← takeScheme? (significant text)
  if scheme == "file" then file? rest
  else if isSpecial scheme then
    withAuthority? scheme (rest.dropWhile fun c => c == '/' || c == '\\')
  else
    match rest with
    | '/' :: '/' :: rest => withAuthority? scheme rest
    | rest => some (withoutAuthority scheme rest)

end Url

end StateExpr
