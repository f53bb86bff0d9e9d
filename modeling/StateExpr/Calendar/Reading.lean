import StateExpr.Calendar.Pattern
import StateExpr.Calendar.UserFormat
import StateExpr.Number.Reading
import StateExpr.Text.Words
/-!
# Reading timestamps

Three ways of writing a moment are read here: the timestamps of RFC 3339, the dates of mail headers
(RFC 2822), and a few plain forms without an offset.  `Timestamp.lenient?` tries them in this order
and takes a moment without an offset for universal time; `Timestamp.iso?` accepts only what
`Timestamp.isoText` writes.
-/

namespace StateExpr.Timestamp

/-- A moment as it is written, and the instant when an offset is written too. -/
structure Written where
  clock : Moment
  instant : Option Moment
deriving Repr

/-- At least `low` and at most `high` digits, as a number. -/
def takeDigits? (low high : Nat) (cs : List Char) : Option (Nat × List Char) :=
  let digits := (cs.take high).takeWhile Char.isDigit
  if digits.length < low then none else some (digitsValue digits, cs.drop digits.length)

/-- One given character. -/
def takeChar? (c : Char) : List Char → Option (List Char)
  | d :: rest => if d = c then some rest else none
  | [] => none

/-- At least one digit of a fraction of a second, in nanoseconds; digits beyond the ninth count for
nothing. -/
def takeFraction? (cs : List Char) : Option (Nat × List Char) :=
  let (digits, rest) := spanDigits cs
  if digits.isEmpty then none
  else
    let kept := digits.take 9
    some (digitsValue kept * Nat.pow 10 (9 - kept.length), rest)

/-- A point and a fraction, or nothing. -/
def takeOptionalFraction? : List Char → Option (Nat × List Char)
  | '.' :: rest => takeFraction? rest
  | cs => some (0, cs)

/-- The moment of a date and a time of day; second 60 is a leap second. -/
def moment? (year : Int) (month day hour minute second nanos : Nat) : Option Moment := do
  let date ← (⟨year, month, day⟩ : Date).checked
  if hour < 24 ∧ minute < 60 ∧ second ≤ 60 then
    let leap := if second = 60 then 1 else 0
    some ⟨date.dayNumber, hour * 3600 + minute * 60 + (second - leap),
      nanos + leap * 1000000000⟩
  else none

/-- A moment with an offset, if the instant lies in a year that is kept. -/
def withOffset? (clock : Moment) (offset : Int) : Option Written :=
  (clock.moveClock (-offset)).checked.map fun instant => ⟨clock, some instant⟩

/-- Hours and minutes of an offset behind its sign, with `separator` between them. -/
def takeOffset? (separator : List Char → Option (List Char)) (negative : Bool) (cs : List Char) :
    Option (Int × List Char) := do
  let (hours, rest) ← takeDigits? 2 2 cs
  let rest ← separator rest
  let (minutes, rest) ← takeDigits? 2 2 rest
  if minutes < 60 then
    let size : Int := hours * 3600 + minutes * 60
    some (if negative then -size else size, rest)
  else none

/-- The offset of RFC 3339; the minus sign may be the typographic one. -/
def takeOffset3339? : List Char → Option (Int × List Char)
  | [] => none
  | c :: rest =>
    if c = 'Z' ∨ c = 'z' then some (0, rest)
    else if c = '+' then takeOffset? (takeChar? ':') false rest
    else if c = '-' ∨ c.toNat = 0x2212 then takeOffset? (takeChar? ':') true rest
    else none

/-- A timestamp of RFC 3339; a `t` or a blank may stand for the `T`. -/
def rfc3339? (cs : List Char) : Option Written := do
  let (year, cs) ← takeDigits? 4 4 cs
  let cs ← takeChar? '-' cs
  let (month, cs) ← takeDigits? 2 2 cs
  let cs ← takeChar? '-' cs
  let (day, cs) ← takeDigits? 2 2 cs
  let cs ← match cs with
    | c :: rest => if c = 'T' ∨ c = 't' ∨ c = ' ' then some rest else none
    | [] => none
  let (hour, cs) ← takeDigits? 2 2 cs
  let cs ← takeChar? ':' cs
  let (minute, cs) ← takeDigits? 2 2 cs
  let cs ← takeChar? ':' cs
  let (second, cs) ← takeDigits? 2 2 cs
  let (nanos, cs) ← takeOptionalFraction? cs
  let (offset, cs) ← takeOffset3339? cs
  if cs.isEmpty ∧ offset.natAbs < 86400 then
    withOffset? (← moment? year month day hour minute second nanos) offset
  else none

/-- At least one blank, and all that follow it. -/
def takeBlanks? (cs : List Char) : Option (List Char) :=
  match cs with
  | c :: rest => if isBlank c then some (rest.dropWhile isBlank) else none
  | [] => none

def skipBlanks (cs : List Char) : List Char := cs.dropWhile isBlank

/-- The position of the name that the first three letters abbreviate, in any case. -/
def takeShortName? (names : List String) (cs : List Char) : Option (Nat × List Char) :=
  let letters := (cs.take 3).map Char.toLower
  (names.findIdx? fun name => (shortName name).toList.map Char.toLower == letters).map fun i =>
    (i, cs.drop 3)

/-- Offsets in hours of the zones that mail headers may name. -/
def mailZones : List (String × Int) :=
  [("gmt", 0), ("ut", 0), ("z", 0), ("edt", -4), ("est", -5), ("cdt", -5), ("cst", -6),
    ("mdt", -6), ("mst", -7), ("pdt", -7), ("pst", -8)]

/-- The offset of a mail header: four digits with a sign, or a name. -/
def takeMailOffset? (cs : List Char) : Option (Int × List Char) :=
  let (letters, rest) := cs.span Char.isAlpha
  if letters.isEmpty then
    match cs with
    | '+' :: rest => takeOffset? some false rest
    | '-' :: rest => takeOffset? some true rest
    | _ => none
  else
    let name := String.ofList (letters.map Char.toLower)
    match mailZones.find? fun z => z.1 == name with
    | some z => some (z.2 * 3600, rest)
    | none => if letters.length = 1 ∧ name ≠ "j" then some (0, rest) else none

/-- A comment behind its opening parenthesis, at a depth of parentheses, up to the closing one. -/
def takeComment? : (depth : Nat) → (escaped : Bool) → List Char → Option (List Char)
  | _, _, [] => none
  | depth, true, _ :: rest => takeComment? depth false rest
  | depth, false, c :: rest =>
    if c = '\\' then takeComment? depth true rest
    else if c = '(' then takeComment? (depth + 1) false rest
    else if c = ')' then
      match depth with
      | 0 => some rest
      | depth + 1 => takeComment? depth false rest
    else takeComment? depth false rest

/-- The text behind the comments that it starts with, read in at most `fuel` steps. -/
def skipComments : (fuel : Nat) → List Char → List Char
  | 0, cs => cs
  | fuel + 1, cs =>
    match skipBlanks cs with
    | '(' :: rest =>
      match takeComment? 0 false rest with
      | some rest => skipComments fuel rest
      | none => cs
    | _ => cs

/-- The year that two or three digits of a mail header stand for. -/
def mailYear (digits : Nat) (year : Nat) : Nat :=
  if digits = 2 then (if year ≤ 49 then year + 2000 else year + 1900)
  else if digits = 3 then year + 1900 else year

/-- A weekday with its comma, if one is written. -/
def takeWeekday? (cs : List Char) : Option (Option Nat × List Char) :=
  match takeShortName? weekdayNames cs with
  | some (weekday, rest) => (takeChar? ',' rest).map fun rest => (some weekday, rest)
  | none => some (none, cs)

/-- A colon and seconds, if they are written. -/
def takeMailSeconds? (cs : List Char) : Option (Nat × List Char) :=
  match skipBlanks cs with
  | ':' :: rest => takeDigits? 2 2 rest
  | _ => some (0, cs)

/-- A date of a mail header; a weekday must be that of the date. -/
def rfc2822? (cs : List Char) : Option Written := do
  let (weekday, cs) ← takeWeekday? (skipBlanks cs)
  let (day, cs) ← takeDigits? 1 2 (skipBlanks cs)
  let cs ← takeBlanks? cs
  let (month, cs) ← takeShortName? monthNames cs
  let cs ← takeBlanks? cs
  let (digits, _) := spanDigits cs
  let (year, cs) ← takeDigits? 2 digits.length cs
  let cs ← takeBlanks? cs
  let (hour, cs) ← takeDigits? 2 2 cs
  let cs ← takeChar? ':' (skipBlanks cs)
  let (minute, cs) ← takeDigits? 2 2 (skipBlanks cs)
  let (second, cs) ← takeMailSeconds? cs
  let cs ← takeBlanks? cs
  let (offset, cs) ← takeMailOffset? cs
  let clock ← moment? (mailYear digits.length year) (month + 1) day hour minute second 0
  if (skipComments cs.length cs).isEmpty ∧ weekday.all (· == clock.date.weekday)
      ∧ offset.natAbs < 86400 then
    withOffset? clock offset
  else none

/-- The pieces of the plain forms. -/
inductive PlainItem where
  | year | month | day | hour | minute | second | fraction
  | literal (c : Char)

/-- The numbers of a plain form. -/
structure Fields where
  year : Int := 0
  month : Nat := 0
  day : Nat := 0
  hour : Nat := 0
  minute : Nat := 0
  second : Nat := 0
  nanos : Nat := 0

/-- A year: four digits at most, and more behind a sign. -/
def takeYear? : List Char → Option (Int × List Char)
  | '-' :: rest => (takeDigits? 1 rest.length rest).map fun r => (-(r.1 : Int), r.2)
  | '+' :: rest => (takeDigits? 1 rest.length rest).map fun r => ((r.1 : Int), r.2)
  | cs => (takeDigits? 1 4 cs).map fun r => ((r.1 : Int), r.2)

/-- One piece of a plain form; blanks in front of a number are skipped. -/
def takePlain? (fields : Fields) (cs : List Char) : PlainItem → Option (Fields × List Char)
  | .year => (takeYear? (skipBlanks cs)).map fun r => ({ fields with year := r.1 }, r.2)
  | .month => (takeDigits? 1 2 (skipBlanks cs)).map fun r => ({ fields with month := r.1 }, r.2)
  | .day => (takeDigits? 1 2 (skipBlanks cs)).map fun r => ({ fields with day := r.1 }, r.2)
  | .hour => (takeDigits? 1 2 (skipBlanks cs)).map fun r => ({ fields with hour := r.1 }, r.2)
  | .minute => (takeDigits? 1 2 (skipBlanks cs)).map fun r => ({ fields with minute := r.1 }, r.2)
  | .second => (takeDigits? 1 2 (skipBlanks cs)).map fun r => ({ fields with second := r.1 }, r.2)
  | .fraction => (takeOptionalFraction? cs).map fun r => ({ fields with nanos := r.1 }, r.2)
  | .literal c => (takeChar? c cs).map fun rest => (fields, rest)

/-- All pieces of a plain form. -/
def takePlainItems? (fields : Fields) (cs : List Char) :
    List PlainItem → Option (Fields × List Char)
  | [] => some (fields, cs)
  | item :: rest => do
    let (fields, cs) ← takePlain? fields cs item
    takePlainItems? fields cs rest

/-- The moment of a text in a plain form that leaves nothing over. -/
def plain? (items : List PlainItem) (cs : List Char) : Option Moment := do
  let (f, rest) ← takePlainItems? {} cs items
  if rest.isEmpty then moment? f.year f.month f.day f.hour f.minute f.second f.nanos else none

open PlainItem in
/-- The plain forms, in the order in which they are tried. -/
def plainForms : List (List PlainItem) :=
  let hyphens := [year, literal '-', month, literal '-', day]
  let american := [month, literal '/', day, literal '/', year]
  let minutes := [hour, literal ':', minute]
  let seconds := minutes ++ [literal ':', second]
  [hyphens ++ [literal 'T'] ++ seconds ++ [fraction],
    hyphens ++ [literal ' '] ++ seconds ++ [fraction],
    hyphens ++ [literal 'T'] ++ minutes,
    hyphens ++ [literal ' '] ++ minutes,
    american ++ [literal ' '] ++ seconds,
    hyphens, american,
    [year, literal '/', month, literal '/', day]]

/-- A moment in any of the ways, blanks at the edges aside. -/
def written? (text : String) : Option Written :=
  let cs := trimChars text.toList
  (rfc3339? cs).orElse fun _ => (rfc2822? cs).orElse fun _ =>
    (plainForms.findSome? fun items => plain? items cs).map fun clock => ⟨clock, none⟩

/-- The instant of a text; without an offset it is one of universal time. -/
def lenient? (text : String) : Option Moment :=
  (written? text).map fun w => w.instant.getD w.clock

/-- An instant with three places of its second and the letter of universal time. -/
def isoText (m : Moment) : String :=
  (Pattern.render? UserFormat.isoPattern (.utc m)).getD ""

/-- The instant of a text that is exactly what `isoText` writes for it. -/
def iso? (text : String) : Option Moment := do
  let written ← rfc3339? text.toList
  let instant ← written.instant
  if isoText instant = text then some instant else none

end StateExpr.Timestamp
