import StateExpr.Json.Parser
import StateExpr.Json.Printer
import StateExpr.Proofs.Number.Text
import StateExpr.Proofs.Value
/-!
# Reading what was written

The two ways to write a value as JSON differ in the digits of numbers and in the escapes of
characters only.  Here a way to write is a `Writer` of these two, and reading a written value is
followed piece by piece: a piece is taken off the text whatever follows it, containers have room
for their pieces, and keys that differ are kept as they come.

Main statements: `Writer.Sound.takeValue_write`, the step for one piece, and
`Writer.Sound.parse?_write`: the document read is the value but for its numbers, each of which is
what its own text reads as.
-/

namespace StateExpr.Json

/-- What two ways to write a value as JSON differ in: the digits of a number and the characters of
a text. -/
structure Writer where
  number : Float → List Char
  char : Char → List Char

namespace Writer

variable (w : Writer)

def string (s : String) : List Char := '"' :: s.toList.flatMap w.char ++ ['"']

mutual

/-- A value as JSON, without blanks. -/
def write : Value → List Char
  | .null => ['n', 'u', 'l', 'l']
  | .bool true => ['t', 'r', 'u', 'e']
  | .bool false => ['f', 'a', 'l', 's', 'e']
  | .number x => if x.isFinite then w.number x else ['n', 'u', 'l', 'l']
  | .text s => w.string s
  | .list items => '[' :: writeItems items ++ [']']
  | .map entries => '\x7b' :: writeEntries entries ++ ['\x7d']

def writeItems : List Value → List Char
  | [] => []
  | [v] => write v
  | v :: rest => write v ++ ',' :: writeItems rest

def writeEntries : List (String × Value) → List Char
  | [] => []
  | [(k, v)] => w.string k ++ ':' :: write v
  | (k, v) :: rest => w.string k ++ ':' :: (write v ++ ',' :: writeEntries rest)

end

mutual

/-- What a reader makes of a value that was written: the value but for its numbers. -/
def reread : Value → Option Document
  | .null => some .null
  | .bool b => some (.bool b)
  | .number x =>
    if x.isFinite then (takeNumber? (w.number x)).map fun r => .number r.1 else some .null
  | .text s => some (.text s)
  | .list items => (rereadItems items).map .list
  | .map entries => (rereadEntries entries).map .map

def rereadItems : List Value → Option (List Document)
  | [] => some []
  | v :: rest => do some ((← reread v) :: (← rereadItems rest))

def rereadEntries : List (String × Value) → Option (List (String × Document))
  | [] => some []
  | (k, v) :: rest => do some ((k, ← reread v) :: (← rereadEntries rest))

end

/-- Numbers are spelled decimals, and what is written for a character is read as that one. -/
structure Sound : Prop where
  number : ∀ x, x.isFinite = true → ∃ negative y, Spelled (w.number x) negative y
  char : ∀ c rest, takeString? (w.char c ++ rest) =
    (takeString? rest).map fun r => (c :: r.1, r.2)

end Writer

/-! ## Characters of a text -/

theorem takeString?_plain {c : Char} (hquote : c ≠ '"') (hescape : c ≠ '\\')
    (hplain : ¬ c.toNat < 32) (rest : List Char) :
    takeString? (c :: rest) = (takeString? rest).map fun r => (c :: r.1, r.2) := by
  rw [takeString?, if_neg (by simp [hplain, hescape])]
  · cases takeString? rest <;> rfl
  · exact hquote
  all_goals
    intros
    contradiction

theorem takeString?_short {c e : Char} (h : shortEscape? c = some e) (rest : List Char) :
    takeString? ('\\' :: c :: rest) = (takeString? rest).map fun r => (e :: r.1, r.2) := by
  have hc : c ≠ 'u' := by
    rintro rfl
    cases h
  rw [takeString?, h]
  · cases takeString? rest <;> rfl
  all_goals
    intros
    contradiction

theorem takeString?_unit {a b c d : Char} {n : ℕ} (h : hexUnit? a b c d = some n) (hn : n < 0xd800)
    (rest : List Char) : takeString? ('\\' :: 'u' :: a :: b :: c :: d :: rest) =
      (takeString? rest).map fun r => (Char.ofNat n :: r.1, r.2) := by
  by_cases hpair : ∃ e f g h tail, rest = '\\' :: 'u' :: e :: f :: g :: h :: tail
  · obtain ⟨e, f, g, h', tail, rfl⟩ := hpair
    rw [takeString?, h]
    simp only [Option.bind_eq_bind, Option.bind_some]
    rw [if_neg (by omega), if_neg (by omega)]
    cases takeString? ('\\' :: 'u' :: e :: f :: g :: h' :: tail) <;> rfl
  · rw [takeString?, h]
    · simp only [Option.bind_eq_bind, Option.bind_some]
      rw [if_neg (by omega)]
      cases takeString? rest <;> rfl
    · intro e f g h' tail heq
      exact hpair ⟨e, f, g, h', tail, heq⟩


theorem exists_fourHexDigits {n : ℕ} (h : n < 32) :
    ∃ a b c d, fourHexDigits n = [a, b, c, d] ∧ hexUnit? a b c d = some n := by
  have hall : ∀ n : Fin 32,
      fourHexDigits n = ['0', '0', Nat.digitChar (n / 16), Nat.digitChar (n % 16)] ∧
      hexUnit? '0' '0' (Nat.digitChar (n / 16)) (Nat.digitChar (n % 16)) = some n.val := by
    decide +kernel
  obtain ⟨hdigits, hunit⟩ := hall ⟨n, h⟩
  exact ⟨_, _, _, _, hdigits, hunit⟩

/-- A character is read back from between the quotes of displayed text. -/
theorem takeString?_escapeChar (c : Char) (rest : List Char) :
    takeString? (escapeChar c ++ rest) = (takeString? rest).map fun r => (c :: r.1, r.2) := by
  unfold escapeChar
  by_cases hquote : c = '"'
  · subst hquote
    exact takeString?_short rfl rest
  by_cases hescape : c = '\\'
  · subst hescape
    exact takeString?_short rfl rest
  by_cases hnewline : c = '\n'
  · subst hnewline
    exact takeString?_short rfl rest
  by_cases hreturn : c = '\r'
  · subst hreturn
    exact takeString?_short rfl rest
  by_cases htab : c = '\t'
  · subst htab
    exact takeString?_short rfl rest
  rw [if_neg hquote, if_neg hescape, if_neg hnewline, if_neg hreturn, if_neg htab]
  by_cases hcontrol : c.toNat < 32
  · rw [if_pos hcontrol]
    obtain ⟨a, b, d, e, hdigits, hunit⟩ := exists_fourHexDigits hcontrol
    have hread := takeString?_unit hunit (by omega) rest
    rw [Char.ofNat_toNat] at hread
    rw [hdigits]
    exact hread
  · rw [if_neg hcontrol]
    exact takeString?_plain hquote hescape hcontrol rest

/-- A character is read back from between the quotes of JSON text. -/
theorem takeString?_renderChar (c : Char) (rest : List Char) :
    takeString? (renderChar c ++ rest) = (takeString? rest).map fun r => (c :: r.1, r.2) := by
  unfold renderChar
  by_cases hbackspace : c = '\x08'
  · subst hbackspace
    exact takeString?_short rfl rest
  by_cases hfeed : c = '\x0c'
  · subst hfeed
    exact takeString?_short rfl rest
  rw [if_neg hbackspace, if_neg hfeed]
  exact takeString?_escapeChar c rest

theorem skipBlanks_cons {c : Char} (h : isJsonBlank c = false) (cs : List Char) :
    skipBlanks (c :: cs) = c :: cs := by
  unfold skipBlanks
  rw [List.dropWhile_cons_of_neg (by rw [h]; exact Bool.false_ne_true)]

/-! ## One document -/

theorem insert_of_not_mem {α : Type} {k : String} (a : α) {es : List (String × α)}
    (h : k ∉ es.map Prod.fst) : Entries.insert k a es = es ++ [(k, a)] := by
  induction es with
  | nil => rfl
  | cons e rest ih =>
    obtain ⟨l, b⟩ := e
    rw [List.map_cons, List.mem_cons, not_or] at h
    rw [Entries.insert, if_neg (Ne.symm h.1), ih h.2]
    rfl

/-- Members under different keys are kept as they come. -/
theorem ofList_of_nodup {α : Type} {pairs : List (String × α)} (h : (pairs.map Prod.fst).Nodup) :
    Entries.ofList pairs = pairs := by
  suffices hfold : ∀ start : List (String × α), ((start ++ pairs).map Prod.fst).Nodup →
      pairs.foldl (fun entries p => Entries.insert p.1 p.2 entries) start = start ++ pairs from
    hfold [] h
  clear h
  induction pairs with
  | nil =>
    intro start _
    rw [List.append_nil]
    rfl
  | cons p rest ih =>
    intro start hdistinct
    have hnew : p.1 ∉ start.map Prod.fst := by
      rw [List.map_append, List.map_cons, List.nodup_append] at hdistinct
      intro hmem
      exact hdistinct.2.2 p.1 hmem p.1 List.mem_cons_self rfl
    rw [List.foldl_cons, insert_of_not_mem p.2 hnew, ih]
    · rw [List.append_assoc]
      rfl
    · rwa [List.append_assoc]

theorem takeValue_number {c : Char} (hc : c = '-' ∨ c.isDigit = true) (depth : ℕ) (cs : List Char) :
    takeValue depth (c :: cs) = (takeNumber? (c :: cs)).map fun r => (.number r.1, r.2) := by
  rw [takeValue.eq_def]
  dsimp only
  split
  case h_7 => rfl
  all_goals
    rename_i heq
    cases heq
    exact absurd hc (by decide)

theorem takeValue_text (depth : ℕ) (cs : List Char) : takeValue depth ('"' :: cs) =
    (takeString? cs).map fun r => (.text (String.ofList r.1), r.2) := by
  rw [takeValue.eq_def]
  rfl

theorem takeValue_list {cs inner : List Char} {c : Char} (hskip : skipBlanks cs = c :: inner)
    (hc : c ≠ ']') (depth : ℕ) : takeValue (depth + 1) ('[' :: cs) =
      (takeItems (takeValue depth) (c :: inner).length (c :: inner)).map fun r =>
        (.list r.1, r.2) := by
  rw [takeValue.eq_def]
  dsimp only
  split
  case h_5 heq =>
    cases heq
    rw [hskip]
    split
    · rename_i hclose
      cases hclose
      exact absurd rfl hc
    · rfl
  case h_7 hnot _ => exact absurd rfl (hnot cs)
  all_goals
    rename_i heq
    cases heq

theorem takeValue_map {cs inner : List Char} {c : Char} (hskip : skipBlanks cs = c :: inner)
    (hc : c ≠ '\x7d') (depth : ℕ) : takeValue (depth + 1) ('\x7b' :: cs) =
      (takeMembers (takeValue depth) (c :: inner).length (c :: inner)).map fun r =>
        (.map (Entries.ofList r.1), r.2) := by
  rw [takeValue.eq_def]
  dsimp only
  split
  case h_6 heq =>
    cases heq
    rw [hskip]
    split
    · rename_i hclose
      cases hclose
      exact absurd rfl hc
    · rfl
  case h_7 hnot => exact absurd rfl (hnot cs)
  all_goals
    rename_i heq
    cases heq

namespace Writer

theorem writeItems_cons_cons (w : Writer) (v u : Value) (us : List Value) :
    w.writeItems (v :: u :: us) = w.write v ++ ',' :: w.writeItems (u :: us) := rfl

theorem writeEntries_cons_cons (w : Writer) (k : String) (v : Value) (e : String × Value)
    (es : Entries) : w.writeEntries ((k, v) :: e :: es) =
      w.string k ++ ':' :: (w.write v ++ ',' :: w.writeEntries (e :: es)) := rfl

/-- Each item takes room for itself or for the comma behind it. -/
theorem length_le_writeItems (w : Writer) (items : List Value) :
    items.length ≤ (w.writeItems items).length + 1 := by
  induction items with
  | nil => exact Nat.zero_le _
  | cons v vs ih =>
    cases vs with
    | nil => exact Nat.le_add_left 1 _
    | cons u us =>
      rw [writeItems_cons_cons]
      simp only [List.length_cons, List.length_append] at ih ⊢
      omega

theorem length_le_writeEntries (w : Writer) (entries : Entries) :
    entries.length ≤ (w.writeEntries entries).length + 1 := by
  induction entries with
  | nil => exact Nat.zero_le _
  | cons e es ih =>
    obtain ⟨k, v⟩ := e
    cases es with
    | nil => exact Nat.le_add_left 1 _
    | cons e es =>
      rw [writeEntries_cons_cons]
      simp only [List.length_cons, List.length_append] at ih ⊢
      omega

/-- The members of a map start with the quote of a key. -/
theorem exists_entriesHead (w : Writer) {entries : Entries} (hne : entries ≠ []) :
    ∃ cs, w.writeEntries entries = '"' :: cs := by
  cases entries with
  | nil => exact absurd rfl hne
  | cons e es =>
    obtain ⟨k, v⟩ := e
    cases es with
    | nil => exact ⟨_, rfl⟩
    | cons e es => exact ⟨_, rfl⟩

theorem skipBlanks_writeEntries (w : Writer) {entries : Entries} (hne : entries ≠ [])
    (rest : List Char) : skipBlanks (w.writeEntries entries ++ rest) =
      w.writeEntries entries ++ rest := by
  obtain ⟨cs, hcons⟩ := w.exists_entriesHead hne
  rw [hcons, List.cons_append, skipBlanks_cons (by decide)]

variable {w : Writer} (hw : w.Sound)
include hw

theorem Sound.takeString?_string (s : String) (rest : List Char) :
    takeString? (s.toList.flatMap w.char ++ ('"' :: rest)) = some (s.toList, rest) := by
  induction s.toList with
  | nil =>
    rw [List.flatMap_nil, List.nil_append]
    rfl
  | cons c cs ih => rw [List.flatMap_cons, List.append_assoc, hw.char, ih, Option.map_some]

/-- What is written starts with no blank and closes no container. -/
theorem Sound.exists_head (v : Value) : ∃ c cs, w.write v = c :: cs ∧
    isJsonBlank c = false ∧ c ≠ ']' ∧ c ≠ '\x7d' := by
  cases v with
  | null => exact ⟨_, _, rfl, by decide⟩
  | bool b => cases b <;> exact ⟨_, _, rfl, by decide⟩
  | number x =>
    unfold write
    by_cases hx : x.isFinite = true
    · obtain ⟨negative, y, hspelled⟩ := hw.number x hx
      obtain ⟨c, cs, hcons, hc⟩ := hspelled.exists_head
      rw [if_pos hx]
      refine ⟨c, cs, hcons, ?_⟩
      rcases hc with rfl | hdigit
      · decide
      · unfold isJsonBlank
        refine ⟨?_, ?_, ?_⟩
        · rw [Bool.eq_false_iff]
          intro hblank
          simp only [Bool.or_eq_true, decide_eq_true_eq] at hblank
          rcases hblank with ((rfl | rfl) | rfl) | rfl <;> exact absurd hdigit (by decide)
        · rintro rfl
          exact absurd hdigit (by decide)
        · rintro rfl
          exact absurd hdigit (by decide)
    · rw [if_neg hx]
      exact ⟨_, _, rfl, by decide⟩
  | text s => exact ⟨_, _, rfl, by decide⟩
  | list items => exact ⟨_, _, rfl, by decide⟩
  | map entries => exact ⟨_, _, rfl, by decide⟩

/-- So do the items of a list. -/
theorem Sound.exists_itemsHead {items : List Value} (hne : items ≠ []) : ∃ c cs,
    w.writeItems items = c :: cs ∧ isJsonBlank c = false ∧ c ≠ ']' := by
  cases items with
  | nil => exact absurd rfl hne
  | cons v vs =>
    obtain ⟨c, cs, hcons, hblank, hclose, -⟩ := hw.exists_head v
    cases vs with
    | nil => exact ⟨c, cs, hcons, hblank, hclose⟩
    | cons u us =>
      rw [writeItems_cons_cons, hcons]
      exact ⟨c, _, rfl, hblank, hclose⟩

theorem Sound.skipBlanks_writeItems {items : List Value} (hne : items ≠ []) (rest : List Char) :
    skipBlanks (w.writeItems items ++ rest) = w.writeItems items ++ rest := by
  obtain ⟨c, cs, hcons, hblank, -⟩ := hw.exists_itemsHead hne
  rw [hcons, List.cons_append, skipBlanks_cons hblank]

theorem Sound.skipBlanks_write (v : Value) (rest : List Char) :
    skipBlanks (w.write v ++ rest) = w.write v ++ rest :=
  hw.skipBlanks_writeItems (List.cons_ne_nil v []) rest

section

variable {reader : Reader}

theorem Sound.takeItems_writeItems {items : List Value} (hne : items ≠ []) {fuel : ℕ}
    (hfuel : items.length ≤ fuel) (rest : List Char)
    (hreader : ∀ v ∈ items, ∀ rest, Spelling.NoNumeralHead rest →
      reader (w.write v ++ rest) = (w.reread v).map (·, rest)) :
    takeItems reader fuel (w.writeItems items ++ ']' :: rest) =
      (w.rereadItems items).map (·, rest) := by
  induction items generalizing fuel with
  | nil => exact absurd rfl hne
  | cons v vs ih =>
    obtain ⟨fuel, rfl⟩ := Nat.exists_eq_succ_of_ne_zero (n := fuel) (by
      rw [List.length_cons] at hfuel
      omega)
    cases vs with
    | nil =>
      have hv := hreader v List.mem_cons_self (']' :: rest)
        (Spelling.noNumeralHead_cons (by decide) (by decide) rest)
      rw [writeItems, takeItems, hv, rereadItems, rereadItems]
      cases w.reread v with
      | none => rfl
      | some d =>
        simp [skipBlanks_cons (c := ']') (by decide)]
    | cons u us =>
      have hv := hreader v List.mem_cons_self (',' :: (w.writeItems (u :: us) ++ ']' :: rest))
        (Spelling.noNumeralHead_cons (by decide) (by decide) _)
      have hrest := ih (List.cons_ne_nil u us) (by simpa using hfuel)
        fun v hv => hreader v (List.mem_cons_of_mem _ hv)
      have hskip := hw.skipBlanks_writeItems (List.cons_ne_nil u us) (']' :: rest)
      rw [writeItems_cons_cons, List.append_assoc, List.cons_append, takeItems, hv, rereadItems]
      cases w.reread v with
      | none => rfl
      | some d =>
        simp only [Option.map_some, Option.bind_eq_bind, Option.bind_some,
          skipBlanks_cons (c := ',') (by decide), hskip, hrest]
        cases w.rereadItems (u :: us) <;> rfl

theorem Sound.takeMembers_last {v : Value} {rest : List Char}
    (hreader : reader (w.write v ++ '\x7d' :: rest) = (w.reread v).map (·, '\x7d' :: rest))
    (k : String) (fuel : ℕ) :
    takeMembers reader (fuel + 1) (w.string k ++ ':' :: (w.write v ++ '\x7d' :: rest)) =
      (w.reread v).map fun d => ([(k, d)], rest) := by
  have hkey := hw.takeString?_string k (':' :: (w.write v ++ '\x7d' :: rest))
  have hwritten : w.string k ++ ':' :: (w.write v ++ '\x7d' :: rest) =
      '"' :: (k.toList.flatMap w.char ++ '"' :: ':' :: (w.write v ++ '\x7d' :: rest)) := by
    simp [string]
  rw [hwritten, takeMembers, hkey]
  simp only [Option.bind_eq_bind, Option.bind_some, skipBlanks_cons (c := ':') (by decide),
    hw.skipBlanks_write, hreader]
  cases w.reread v with
  | none => rfl
  | some d => simp [skipBlanks_cons (c := '\x7d') (by decide)]

theorem Sound.takeMembers_more {v : Value} {rest : List Char}
    (hreader : reader (w.write v ++ ',' :: rest) = (w.reread v).map (·, ',' :: rest))
    (k : String) (fuel : ℕ) :
    takeMembers reader (fuel + 1) (w.string k ++ ':' :: (w.write v ++ ',' :: rest)) =
      (w.reread v).bind fun d =>
        (takeMembers reader fuel (skipBlanks rest)).map fun r => ((k, d) :: r.1, r.2) := by
  have hkey := hw.takeString?_string k (':' :: (w.write v ++ ',' :: rest))
  have hwritten : w.string k ++ ':' :: (w.write v ++ ',' :: rest) =
      '"' :: (k.toList.flatMap w.char ++ '"' :: ':' :: (w.write v ++ ',' :: rest)) := by
    simp [string]
  rw [hwritten, takeMembers, hkey]
  simp only [Option.bind_eq_bind, Option.bind_some, skipBlanks_cons (c := ':') (by decide),
    hw.skipBlanks_write, hreader]
  cases w.reread v with
  | none => rfl
  | some d =>
    simp only [Option.map_some, Option.bind_some, skipBlanks_cons (c := ',') (by decide),
      String.ofList_toList]
    cases takeMembers reader fuel (skipBlanks rest) <;> rfl

theorem Sound.takeMembers_writeEntries {entries : Entries} (hne : entries ≠ []) {fuel : ℕ}
    (hfuel : entries.length ≤ fuel) (rest : List Char)
    (hreader : ∀ e ∈ entries, ∀ rest, Spelling.NoNumeralHead rest →
      reader (w.write e.2 ++ rest) = (w.reread e.2).map (·, rest)) :
    takeMembers reader fuel (w.writeEntries entries ++ '\x7d' :: rest) =
      (w.rereadEntries entries).map (·, rest) := by
  induction entries generalizing fuel with
  | nil => exact absurd rfl hne
  | cons e es ih =>
    obtain ⟨k, v⟩ := e
    obtain ⟨fuel, rfl⟩ := Nat.exists_eq_succ_of_ne_zero (n := fuel) (by
      rw [List.length_cons] at hfuel
      omega)
    have hv := hreader (k, v) List.mem_cons_self
    cases es with
    | nil =>
      rw [writeEntries, List.append_assoc, List.cons_append, hw.takeMembers_last (hv _
        (Spelling.noNumeralHead_cons (by decide) (by decide) rest))]
      simp only [rereadEntries]
      cases w.reread v <;> rfl
    | cons e es =>
      have hrest := ih (List.cons_ne_nil e es) (by simpa using hfuel)
        fun e he => hreader e (List.mem_cons_of_mem _ he)
      have hskip := w.skipBlanks_writeEntries (List.cons_ne_nil e es) ('\x7d' :: rest)
      have hreread : w.rereadEntries ((k, v) :: e :: es) = (w.reread v).bind fun d =>
          (w.rereadEntries (e :: es)).bind fun ds => some ((k, d) :: ds) := rfl
      rw [writeEntries_cons_cons, List.append_assoc, List.cons_append, List.append_assoc,
        List.cons_append, hw.takeMembers_more (hv _
          (Spelling.noNumeralHead_cons (by decide) (by decide) _)), hskip, hrest, hreread]
      cases w.reread v with
      | none => rfl
      | some d => cases w.rereadEntries (e :: es) <;> rfl

end

omit hw in
theorem keys_of_rereadEntries {entries : Entries} {ds : List (String × Document)}
    (h : w.rereadEntries entries = some ds) : ds.map Prod.fst = entries.map Prod.fst := by
  induction entries generalizing ds with
  | nil =>
    cases h
    rfl
  | cons e es ih =>
    obtain ⟨k, v⟩ := e
    simp only [rereadEntries, Option.bind_eq_bind, Option.bind_eq_some_iff, Option.some.injEq] at h
    obtain ⟨d, -, ds, hds, rfl⟩ := h
    rw [List.map_cons, List.map_cons, ih hds]

theorem Sound.takeValue_write {v : Value} (hkeyed : v.Keyed) {depth : ℕ} (hdepth : v.depth ≤ depth)
    {rest : List Char} (hrest : Spelling.NoNumeralHead rest) :
    takeValue depth (w.write v ++ rest) = (w.reread v).map (·, rest) := by
  induction v using Value.induction generalizing depth rest with
  | null => rw [takeValue.eq_def]; rfl
  | bool b => cases b <;> rw [takeValue.eq_def] <;> rfl
  | number x =>
    unfold write reread
    by_cases hx : x.isFinite = true
    · obtain ⟨negative, y, hspelled⟩ := hw.number x hx
      obtain ⟨n, hn⟩ := hspelled.takeNumber?
      obtain ⟨c, cs, hcons, hc⟩ := hspelled.exists_head
      have halone := hn [] Spelling.noNumeralHead_nil
      rw [List.append_nil] at halone
      rw [if_pos hx, if_pos hx, halone]
      have hnumber := hn rest hrest
      rw [hcons, List.cons_append] at hnumber ⊢
      rw [takeValue_number hc, hnumber]
      cases n <;> rfl
    · rw [if_neg hx, if_neg hx, takeValue.eq_def]
      rfl
  | text s =>
    have hstring := hw.takeString?_string s rest
    have hwritten : w.write (.text s) ++ rest =
        '"' :: (s.toList.flatMap w.char ++ '"' :: rest) := by
      simp [write, string]
    rw [hwritten, takeValue_text, hstring, Option.map_some, String.ofList_toList]
    rfl
  | list items ih =>
    cases hkeyed with | list hbeneath =>
    obtain ⟨depth, rfl⟩ := Nat.exists_eq_succ_of_ne_zero (n := depth) (by
      rw [Value.depth] at hdepth
      omega)
    rw [Value.depth, Nat.succ_le_succ_iff, Value.itemsDepth_le_iff] at hdepth
    cases items with
    | nil =>
      rw [takeValue.eq_def]
      rfl
    | cons v vs =>
      obtain ⟨c, cs, hcons, hblank, hclose⟩ := hw.exists_itemsHead (List.cons_ne_nil v vs)
      have hskip := hw.skipBlanks_writeItems (List.cons_ne_nil v vs) (']' :: rest)
      have hfuel : (v :: vs).length ≤ (w.writeItems (v :: vs) ++ ']' :: rest).length := by
        have hlength := w.length_le_writeItems (v :: vs)
        simp only [List.length_cons, List.length_append] at hlength ⊢
        omega
      have hitems := hw.takeItems_writeItems (List.cons_ne_nil v vs) hfuel rest
        fun u hu rest hrest => ih u hu (hbeneath u hu) (hdepth u hu) hrest
      have hwritten : w.write (.list (v :: vs)) ++ rest =
          '[' :: (w.writeItems (v :: vs) ++ ']' :: rest) := by
        simp [write]
      rw [hcons, List.cons_append] at hskip hitems
      rw [hwritten, hcons, List.cons_append, takeValue_list hskip hclose, hitems, reread]
      cases w.rereadItems (v :: vs) <;> rfl
  | map entries ih =>
    cases hkeyed with | map hdistinct hbeneath =>
    obtain ⟨depth, rfl⟩ := Nat.exists_eq_succ_of_ne_zero (n := depth) (by
      rw [Value.depth] at hdepth
      omega)
    rw [Value.depth, Nat.succ_le_succ_iff, Value.entriesDepth_le_iff] at hdepth
    cases entries with
    | nil =>
      rw [takeValue.eq_def]
      rfl
    | cons e es =>
      obtain ⟨cs, hcons⟩ := w.exists_entriesHead (List.cons_ne_nil e es)
      have hskip := w.skipBlanks_writeEntries (List.cons_ne_nil e es) ('\x7d' :: rest)
      have hfuel : (e :: es).length ≤ (w.writeEntries (e :: es) ++ '\x7d' :: rest).length := by
        have hlength := w.length_le_writeEntries (e :: es)
        simp only [List.length_cons, List.length_append] at hlength ⊢
        omega
      have hentries := hw.takeMembers_writeEntries (List.cons_ne_nil e es) hfuel rest
        fun u hu rest hrest => ih u hu (hbeneath u hu) (hdepth u hu) hrest
      have hwritten : w.write (.map (e :: es)) ++ rest =
          '\x7b' :: (w.writeEntries (e :: es) ++ '\x7d' :: rest) := by
        simp [write]
      rw [hcons, List.cons_append] at hskip hentries
      rw [hwritten, hcons, List.cons_append, takeValue_map hskip (by decide), hentries, reread]
      cases hds : w.rereadEntries (e :: es) with
      | none => rfl
      | some ds =>
        have hkeys : (ds.map Prod.fst).Nodup := by
          rw [keys_of_rereadEntries hds]
          exact hdistinct
        rw [Option.map_some, Option.map_some, Option.map_some, Option.map_some,
          ofList_of_nodup hkeys]

/-- Reading what was written gives the value but for its numbers. -/
theorem Sound.parse?_write {v : Value} (hkeyed : v.Keyed) (hdepth : v.depth ≤ maxDepth) :
    Document.parse? (String.ofList (w.write v)) = w.reread v := by
  have hread := hw.takeValue_write hkeyed hdepth Spelling.noNumeralHead_nil
  have hskip := hw.skipBlanks_write v []
  rw [List.append_nil] at hread hskip
  unfold Document.parse?
  rw [String.toList_ofList, hskip, hread]
  cases w.reread v <;> rfl

end Writer

end StateExpr.Json
