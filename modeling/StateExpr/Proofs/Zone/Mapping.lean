import Mathlib.Data.List.Find
import Mathlib.Data.List.TakeWhile
import StateExpr.Proofs.Pieces
import StateExpr.Zone.Mapping
/-!
# Loading a mapping of zones

What the lines of a mapping say can be read off the text alone: a line is blank, or it holds a row,
or it is malformed.  The tables that are filled line by line say the same as the list of all rows,
of which the first one that lists a name decides.

Main statements: `ZoneRow.ofChars?_eq_some_iff`, what a line holds; `ZoneMapping.Records.addRow`,
the step for one row, and `ZoneMapping.records_of_rows` for a whole run of them;
`ZoneMapping.addLines_eq_ok_iff` and `ZoneMapping.addLines_eq_error_iff`; and
`ZoneMapping.first_row_decides`.
-/

namespace StateExpr

/-- The line has nothing but white space. -/
def Blank (line : List Char) : Prop := ∀ c ∈ line, isBlank c = true

/-! ## Edges and words -/

section Words

variable {cs front back : List Char}

theorem trimChars_append_left (h : Blank front) : trimChars (front ++ cs) = trimChars cs := by
  rw [trimChars, List.dropWhile_append_of_pos h, trimChars]

/-- A text is what trimming leaves of it between white space. -/
theorem exists_trimChars (cs : List Char) :
    ∃ front back, Blank front ∧ Blank back ∧ cs = front ++ trimChars cs ++ back := by
  have hfront := List.takeWhile_append_dropWhile (p := isBlank) (l := cs)
  have hback := List.takeWhile_append_dropWhile (p := isBlank) (l := (cs.dropWhile isBlank).reverse)
  refine ⟨cs.takeWhile isBlank, ((cs.dropWhile isBlank).reverse.takeWhile isBlank).reverse,
    fun c hc => List.mem_takeWhile_imp hc, ?_, ?_⟩
  · intro c hc
    exact List.mem_takeWhile_imp (List.mem_reverse.mp hc)
  · rw [trimChars, List.append_assoc, ← List.reverse_append, hback, List.reverse_reverse, hfront]

theorem trimChars_eq_nil_iff : trimChars cs = [] ↔ Blank cs := by
  constructor
  · intro h
    obtain ⟨front, back, hfront, hback, hcs⟩ := exists_trimChars cs
    rw [hcs, h, List.append_nil]
    exact List.forall_mem_append.mpr ⟨hfront, hback⟩
  · intro h
    rw [trimChars, List.dropWhile_eq_nil_iff.mpr h]
    rfl

theorem wordsFrom_of_blank (h : Blank cs) (inside : Bool) : wordsFrom inside cs = [] := by
  induction cs generalizing inside with
  | nil => rfl
  | cons c rest ih =>
    rw [Blank, List.forall_mem_cons] at h
    rw [wordsFrom, if_pos h.1]
    exact ih h.2 false

theorem wordsFrom_append_right (h : Blank back) (inside : Bool) :
    wordsFrom inside (cs ++ back) = wordsFrom inside cs := by
  induction cs generalizing inside with
  | nil => exact wordsFrom_of_blank h inside
  | cons c rest ih =>
    have hword : (rest ++ back).takeWhile (fun d => !isBlank d) =
        rest.takeWhile fun d => !isBlank d := by
      have hback : back.takeWhile (fun d => !isBlank d) = [] := by
        cases back with
        | nil => rfl
        | cons d _ => rw [List.takeWhile_cons, h d List.mem_cons_self]; rfl
      rw [List.takeWhile_append, hback, List.append_nil]
      split
      · rename_i hall
        exact ((List.takeWhile_prefix _).eq_of_length hall).symm
      · rfl
    rw [List.cons_append, wordsFrom, wordsFrom, hword, ih, ih]

theorem words_append_right (h : Blank back) : words (cs ++ back) = words cs :=
  wordsFrom_append_right h false

end Words

namespace Search

variable {c : Char} {cs before after front back : List Char}

theorem splitFirst?_eq_some_iff :
    splitFirst? c cs = some (before, after) ↔ c ∉ before ∧ cs = before ++ c :: after := by
  constructor
  · intro h
    have hcs := List.takeWhile_append_dropWhile (p := (· != c)) (l := cs)
    unfold splitFirst? at h
    split at h
    · rename_i d rest hdrop
      rw [Option.some.injEq, Prod.mk.injEq] at h
      obtain ⟨rfl, rfl⟩ := h
      have hd : d = c := by
        have := List.head?_dropWhile_not (· != c) cs
        rw [hdrop] at this
        simpa using this
      rw [hdrop, hd] at hcs
      refine ⟨fun hmem => ?_, hcs.symm⟩
      simpa using List.mem_takeWhile_imp hmem
    · cases h
  · rintro ⟨hbefore, rfl⟩
    exact splitFirst?_append hbefore after

theorem splitFirst?_eq_none_iff : splitFirst? c cs = none ↔ c ∉ cs := by
  constructor
  · intro h hmem
    obtain ⟨before, after, rfl, hbefore⟩ := List.eq_append_cons_of_mem hmem
    rw [splitFirst?_append hbefore] at h
    cases h
  · intro h
    rw [Option.eq_none_iff_forall_ne_some]
    rintro ⟨before, after⟩ hsome
    apply h
    rw [(splitFirst?_eq_some_iff.mp hsome).2]
    exact List.mem_append_right _ List.mem_cons_self

/-- What surrounds a text without holding the separator stays where it is. -/
theorem splitFirst?_surrounded (hfront : c ∉ front) (hback : c ∉ back) (cs : List Char) :
    splitFirst? c (front ++ cs ++ back) =
      (splitFirst? c cs).map fun (before, after) => (front ++ before, after ++ back) := by
  cases h : splitFirst? c cs with
  | none =>
    rw [splitFirst?_eq_none_iff] at h
    rw [Option.map_none, splitFirst?_eq_none_iff]
    simp only [List.mem_append, hfront, h, hback, or_self, not_false_eq_true]
  | some halves =>
    obtain ⟨before, after⟩ := halves
    obtain ⟨hbefore, rfl⟩ := splitFirst?_eq_some_iff.mp h
    rw [Option.map_some, splitFirst?_eq_some_iff]
    refine ⟨?_, by simp⟩
    simp only [List.mem_append, hfront, hbefore, or_self, not_false_eq_true]

theorem pieces_singleton (c : Char) (text : List Char) : pieces [c] 0 text = text.splitOn c := by
  unfold List.splitOn
  induction text with
  | nil => rfl
  | cons d rest ih =>
    rw [List.splitOnP_cons_eq_if_modifyHead, ← ih, pieces]
    by_cases hd : d = c
    · simp [hd]
    · have hne : ¬ c = d := fun h => hd h.symm
      simp only [List.isPrefixOf, hne, hd, beq_iff_eq, Bool.and_true, if_false]
      cases hpieces : pieces [c] 0 rest with
      | nil => exact absurd hpieces (pieces_ne_nil _ _ _)
      | cons p ps => rfl

end Search

/-! ## What a line holds -/

namespace ZoneRow

variable {line : List Char} {r : ZoneRow}

/-- The line holds the row: up to the first comma its Windows name, up to the second its territory
and behind that its IANA names.  White space around a name is no part of it, and no name is
missing. -/
def Written (r : ZoneRow) (line : List Char) : Prop :=
  ∃ windows territory rest, line = windows ++ ',' :: (territory ++ ',' :: rest) ∧
    ',' ∉ windows ∧ ',' ∉ territory ∧
    r.windows.toList = trimChars windows ∧ r.windows ≠ "" ∧
    r.territory.toList = trimChars territory ∧ r.territory ≠ "" ∧
    r.ianas.map String.toList = words rest

theorem isBlank_comma : isBlank ',' = false := by decide

theorem comma_notMem_of_blank (h : Blank line) : ',' ∉ line := by
  intro hmem
  have := h _ hmem
  rw [isBlank_comma] at this
  cases this

theorem Written.not_blank (h : r.Written line) : ¬ Blank line := by
  obtain ⟨windows, territory, rest, rfl, -⟩ := h
  intro hblank
  apply comma_notMem_of_blank hblank
  simp

theorem ofChars?_eq_some_iff : ofChars? line = some r ↔ r.Written line := by
  unfold ofChars? Written
  simp only [Option.bind_eq_bind, Option.bind_eq_some_iff, Prod.exists,
    Search.splitFirst?_eq_some_iff]
  constructor
  · rintro ⟨windows, _, ⟨hwindows, rfl⟩, territory, rest, ⟨hterritory, rfl⟩, h⟩
    split at h
    · cases h
    · rename_i main others hianas
      split at h
      · cases h
      · rename_i hfields
        obtain rfl := Option.some.inj h
        simp only [Bool.or_eq_true, List.isEmpty_iff, not_or] at hfields
        refine ⟨windows, territory, rest, rfl, hwindows, hterritory, String.toList_ofList, ?_,
          String.toList_ofList, ?_, ?_⟩
        · simpa using hfields.1
        · simpa using hfields.2
        · rw [ianas, ← hianas, List.map_map]
          simp
  · rintro ⟨windows, territory, rest, rfl, hwindows, hterritory, hw, hw', ht, ht', hianas⟩
    refine ⟨windows, _, ⟨hwindows, rfl⟩, territory, rest, ⟨hterritory, rfl⟩, ?_⟩
    have hnames : (words rest).map String.ofList = r.main :: r.others := by
      rw [← hianas, List.map_map]
      simp [ianas, Function.comp_def]
    have hnonempty : ((trimChars windows).isEmpty || (trimChars territory).isEmpty) = false := by
      rw [← hw, ← ht]
      simp [hw', ht']
    rw [hnames]
    dsimp only
    rw [hnonempty, if_neg Bool.false_ne_true, ← hw, ← ht, String.ofList_toList,
      String.ofList_toList]

/-- White space around a line changes nothing. -/
theorem ofChars?_trimChars (line : List Char) : ofChars? (trimChars line) = ofChars? line := by
  obtain ⟨front, back, hfront, hback, hline⟩ := exists_trimChars line
  generalize trimChars line = row at hline ⊢
  subst hline
  have hback' := comma_notMem_of_blank hback
  unfold ofChars?
  rw [Search.splitFirst?_surrounded (comma_notMem_of_blank hfront) hback']
  cases Search.splitFirst? ',' row with
  | none => rfl
  | some halves =>
    obtain ⟨windows, rest⟩ := halves
    have hrest := Search.splitFirst?_surrounded List.not_mem_nil hback' rest
    simp only [List.nil_append] at hrest
    simp only [Option.map_some, Option.bind_eq_bind, Option.bind_some, hrest]
    cases Search.splitFirst? ',' rest with
    | none => rfl
    | some halves =>
      obtain ⟨territory, ianas⟩ := halves
      simp only [Option.map_some, Option.bind_some, words_append_right hback,
        trimChars_append_left hfront]

end ZoneRow

namespace ZoneMapping

/-! ## Lines one after the other -/

/-- The lines hold these rows in order, and are blank but for them. -/
inductive Rows : List (List Char) → List ZoneRow → Prop where
  | nil : Rows [] []
  | blank {line lines rows} (here : Blank line) (rest : Rows lines rows) :
      Rows (line :: lines) rows
  | row {line lines r rows} (here : r.Written line) (rest : Rows lines rows) :
      Rows (line :: lines) (r :: rows)

variable {mapping : ZoneMapping} {line : List Char} {lines before after : List (List Char)}
  {rows : List ZoneRow} {r : ZoneRow} {number : ℕ}

/-- The line has something in it that is no row. -/
def Malformed (line : List Char) : Prop := ¬ Blank line ∧ ∀ r : ZoneRow, ¬ r.Written line

theorem addLines_of_blank (h : Blank line) (mapping : ZoneMapping) (number : ℕ) :
    addLines mapping number (line :: lines) = addLines mapping (number + 1) lines := by
  rw [addLines, trimChars_eq_nil_iff.mpr h]
  rfl

theorem addLines_of_written (h : r.Written line) (mapping : ZoneMapping) (number : ℕ) :
    addLines mapping number (line :: lines) = addLines (mapping.addRow r) (number + 1) lines := by
  have hrow : (trimChars line).isEmpty = false := by
    rw [List.isEmpty_eq_false_iff, ne_eq, trimChars_eq_nil_iff]
    exact h.not_blank
  rw [addLines]
  simp only [hrow, Bool.false_eq_true, if_false, ZoneRow.ofChars?_trimChars,
    ZoneRow.ofChars?_eq_some_iff.mpr h]

theorem addLines_of_malformed (h : Malformed line) (mapping : ZoneMapping) (number : ℕ) :
    addLines mapping number (line :: lines) =
      .error ⟨number, String.ofList (trimChars line)⟩ := by
  have hrow : (trimChars line).isEmpty = false := by
    rw [List.isEmpty_eq_false_iff, ne_eq, trimChars_eq_nil_iff]
    exact h.1
  have hnone : ZoneRow.ofChars? line = none := by
    rw [Option.eq_none_iff_forall_ne_some]
    exact fun r hr => h.2 r (ZoneRow.ofChars?_eq_some_iff.mp hr)
  rw [addLines]
  simp only [hrow, Bool.false_eq_true, if_false, ZoneRow.ofChars?_trimChars, hnone]

/-- **A run over lines that hold rows** puts them into the tables, one after the other. -/
theorem addLines_append (h : Rows before rows) (mapping : ZoneMapping) (number : ℕ) :
    addLines mapping number (before ++ after) =
      addLines (rows.foldl addRow mapping) (number + before.length) after := by
  induction h generalizing mapping number with
  | nil => rfl
  | blank here rest ih =>
    rw [List.cons_append, addLines_of_blank here, ih, List.length_cons, Nat.add_right_comm]
    rfl
  | row here rest ih =>
    rw [List.cons_append, addLines_of_written here, ih, List.length_cons, Nat.add_right_comm]
    rfl

/-- Lines hold rows, or there is a first one among them that is malformed. -/
theorem exists_rows_or_malformed (lines : List (List Char)) :
    (∃ rows, Rows lines rows) ∨
      ∃ before line after rows, lines = before ++ line :: after ∧ Rows before rows ∧
        Malformed line := by
  induction lines with
  | nil => exact .inl ⟨[], .nil⟩
  | cons line lines ih =>
    by_cases hmalformed : Malformed line
    · exact .inr ⟨[], line, lines, [], rfl, .nil, hmalformed⟩
    · -- a line that is not malformed goes in front of both cases
      obtain ⟨more, hmore⟩ : ∃ more, ∀ lines rows, Rows lines rows →
          Rows (line :: lines) (more ++ rows) := by
        by_cases hblank : Blank line
        · exact ⟨[], fun _ _ => .blank hblank⟩
        · simp only [Malformed, hblank, not_false_eq_true, true_and, not_forall, not_not]
            at hmalformed
          obtain ⟨r, hr⟩ := hmalformed
          exact ⟨[r], fun _ _ => .row hr⟩
      rcases ih with ⟨rows, hrows⟩ | ⟨before, bad, after, rows, rfl, hrows, hbad⟩
      · exact .inl ⟨_, hmore _ _ hrows⟩
      · exact .inr ⟨line :: before, bad, after, _, rfl, hmore _ _ hrows, hbad⟩

theorem Rows.not_malformed (h : Rows lines rows) : ∀ line ∈ lines, ¬ Malformed line := by
  induction h with
  | nil => exact List.forall_mem_nil _
  | blank here rest ih => exact List.forall_mem_cons.mpr ⟨fun h => h.1 here, ih⟩
  | row here rest ih => exact List.forall_mem_cons.mpr ⟨fun h => h.2 _ here, ih⟩

/-- Lines hold one list of rows at most. -/
theorem Rows.eq_filterMap (h : Rows lines rows) : rows = lines.filterMap ZoneRow.ofChars? := by
  induction h with
  | nil => rfl
  | @blank line _ _ here rest ih =>
    have hnone : ZoneRow.ofChars? line = none := by
      rw [Option.eq_none_iff_forall_ne_some]
      exact fun r hr => (ZoneRow.ofChars?_eq_some_iff.mp hr).not_blank here
    rw [List.filterMap_cons, hnone]
    exact ih
  | row here rest ih => rw [List.filterMap_cons, ZoneRow.ofChars?_eq_some_iff.mpr here, ← ih]

theorem exists_rows_iff : (∃ rows, Rows lines rows) ↔ ∀ line ∈ lines, ¬ Malformed line := by
  constructor
  · rintro ⟨rows, h⟩
    exact h.not_malformed
  · intro h
    rcases exists_rows_or_malformed lines with hrows | ⟨before, line, after, -, rfl, -, hline⟩
    · exact hrows
    · exact absurd hline (h line (by simp))

theorem addLines_eq_ok_iff {loaded : ZoneMapping} : addLines mapping number lines = .ok loaded ↔
    ∃ rows, Rows lines rows ∧ rows.foldl addRow mapping = loaded := by
  have hrun {rows} (h : Rows lines rows) :
      addLines mapping number lines = .ok (rows.foldl addRow mapping) := by
    have hall : addLines mapping number (lines ++ []) = addLines (rows.foldl addRow mapping) _ [] :=
      addLines_append h mapping number
    rwa [List.append_nil] at hall
  constructor
  · intro h
    rcases exists_rows_or_malformed lines with
      ⟨rows, hrows⟩ | ⟨before, line, after, rows, rfl, hrows, hline⟩
    · exact ⟨rows, hrows, Except.ok.inj ((hrun hrows).symm.trans h)⟩
    · rw [addLines_append hrows, addLines_of_malformed hline] at h
      cases h
  · rintro ⟨rows, hrows, rfl⟩
    exact hrun hrows

theorem addLines_eq_error_iff {fault : MalformedRow} :
    addLines mapping number lines = .error fault ↔
      ∃ before line after, lines = before ++ line :: after ∧ (∀ l ∈ before, ¬ Malformed l) ∧
        Malformed line ∧ fault = ⟨number + before.length, String.ofList (trimChars line)⟩ := by
  constructor
  · intro h
    rcases exists_rows_or_malformed lines with
      ⟨rows, hrows⟩ | ⟨before, line, after, rows, rfl, hrows, hline⟩
    · rw [addLines_eq_ok_iff.mpr ⟨rows, hrows, rfl⟩] at h
      cases h
    · rw [addLines_append hrows, addLines_of_malformed hline] at h
      exact ⟨before, line, after, rfl, hrows.not_malformed, hline, (Except.error.inj h).symm⟩
  · rintro ⟨before, line, after, rfl, hbefore, hline, rfl⟩
    obtain ⟨rows, hrows⟩ := exists_rows_iff.mpr hbefore
    rw [addLines_append hrows, addLines_of_malformed hline]

/-! ## Tables -/

theorem get?_insertNew {α : Type} (key other : String) (value : α) (es : List (String × α)) :
    Entries.get? other (Entries.insertNew key value es) =
      (Entries.get? other es).or (if key = other then some value else none) := by
  unfold Entries.insertNew
  by_cases hkey : key = other
  · subst hkey
    rw [if_pos rfl]
    cases h : Entries.get? key es with
    | some held => exact h
    | none => exact Entries.get?_insert_self key value es
  · rw [if_neg hkey, Option.or_none]
    cases Entries.get? key es with
    | some held => rfl
    | none => exact Entries.get?_insert_of_ne (Ne.symm hkey) value es

/-- The tables say what the rows say: the first row decides that lists an IANA name, or that has a
territory and a Windows name. -/
structure Records (mapping : ZoneMapping) (rows : List ZoneRow) : Prop where
  windows : ∀ iana, Entries.get? iana mapping.windowsNames =
    (rows.find? fun r => r.ianas.contains iana).map ZoneRow.windows
  main : ∀ key, Entries.get? key mapping.ianaNames =
    (rows.find? fun r => territoryKey r.territory r.windows == key).map ZoneRow.main
  known : ∀ id, id ∈ mapping.known ↔ ∃ r ∈ rows, r.windows = id ∨ id ∈ r.ianas

theorem get?_windowsNames_addIanas (windows iana : String) (ianas : List String)
    (mapping : ZoneMapping) :
    Entries.get? iana (ianas.foldl (addIana windows) mapping).windowsNames =
      (Entries.get? iana mapping.windowsNames).or
        (if ianas.contains iana then some windows else none) := by
  induction ianas generalizing mapping with
  | nil => exact (Option.or_none).symm
  | cons i rest ih =>
    rw [List.foldl_cons, ih, addIana, get?_insertNew, Option.or_assoc]
    congr 1
    by_cases hi : i = iana
    · simp [hi]
    · simp [hi, Ne.symm hi]

theorem ianaNames_addIanas (windows : String) (ianas : List String) (mapping : ZoneMapping) :
    (ianas.foldl (addIana windows) mapping).ianaNames = mapping.ianaNames := by
  induction ianas generalizing mapping with
  | nil => rfl
  | cons i rest ih => exact ih (addIana windows mapping i)

theorem mem_known_addIanas (windows id : String) (ianas : List String) (mapping : ZoneMapping) :
    id ∈ (ianas.foldl (addIana windows) mapping).known ↔ id ∈ mapping.known ∨ id ∈ ianas := by
  induction ianas generalizing mapping with
  | nil => simp
  | cons i rest ih =>
    rw [List.foldl_cons, ih, addIana, List.mem_insert_iff, List.mem_cons]
    tauto

/-- **One row** decides for the names for which no row before it did. -/
theorem Records.addRow (h : mapping.Records rows) (r : ZoneRow) :
    (mapping.addRow r).Records (rows ++ [r]) where
  windows iana := by
    rw [ZoneMapping.addRow, get?_windowsNames_addIanas, h.windows, List.find?_append,
      List.find?_singleton, Option.map_or]
    congr 1
    split <;> rfl
  main key := by
    rw [ZoneMapping.addRow, ianaNames_addIanas, get?_insertNew, h.main, List.find?_append,
      List.find?_singleton, Option.map_or]
    congr 1
    simp only [beq_iff_eq]
    split <;> rfl
  known id := by
    rw [ZoneMapping.addRow, List.mem_insert_iff, mem_known_addIanas, h.known]
    simp only [List.mem_append, List.mem_singleton, or_and_right, exists_or, exists_eq_left]
    rw [or_comm, or_assoc, eq_comm, or_comm (a := id ∈ r.ianas)]

/-- **A run over rows** from any tables on. -/
theorem Records.addRows (h : mapping.Records rows) (more : List ZoneRow) :
    (more.foldl ZoneMapping.addRow mapping).Records (rows ++ more) := by
  induction more generalizing mapping rows with
  | nil => rwa [List.append_nil]
  | cons r rest ih =>
    rw [List.append_cons]
    exact ih (h.addRow r)

theorem records_empty : empty.Records [] := ⟨fun _ => rfl, fun _ => rfl, by simp [empty]⟩

theorem records_of_rows (rows : List ZoneRow) : (rows.foldl addRow empty).Records rows :=
  records_empty.addRows rows

/-! ## Looking up -/

/-- A key tells its two parts apart when the territory holds no bar. -/
theorem territoryKey_eq_iff {territory windows territory' windows' : String}
    (h : '|' ∉ territory.toList) (h' : '|' ∉ territory'.toList) :
    territoryKey territory windows = territoryKey territory' windows' ↔
      territory = territory' ∧ windows = windows' := by
  refine ⟨fun hkey => ?_, fun ⟨ht, hw⟩ => ht ▸ hw ▸ rfl⟩
  have hsplit (t w : String) (ht : '|' ∉ t.toList) :
      Search.splitFirst? '|' (territoryKey t w).toList = some (t.toList, w.toList) := by
    rw [Search.splitFirst?_eq_some_iff]
    exact ⟨ht, by simp [territoryKey]⟩
  have hparts := (hsplit territory windows h).symm.trans
    ((congrArg _ (congrArg _ hkey)).trans (hsplit territory' windows' h'))
  rw [Option.some.injEq, Prod.mk.injEq, String.toList_inj, String.toList_inj] at hparts
  exact hparts

theorem Records.toWindows_eq (h : mapping.Records rows) (iana : String) :
    mapping.toWindows iana =
      ((rows.find? fun r => r.ianas.contains iana).map ZoneRow.windows).getD iana := by
  rw [toWindows, h.windows]

theorem Records.toIana_eq (h : mapping.Records rows)
    (hbar : ∀ r ∈ rows, '|' ∉ r.territory.toList) (windows : String) : mapping.toIana windows =
      ((rows.find? fun r => r.windows = windows ∧ r.territory = world).map
        ZoneRow.main).getD windows := by
  rw [toIana, h.main]
  congr 2
  apply List.find?_congr
  intro r hr
  have hkey : territoryKey r.territory r.windows = territoryKey world windows ↔
      r.territory = world ∧ r.windows = windows := territoryKey_eq_iff (hbar r hr) (by decide)
  rw [Bool.eq_iff_iff, beq_iff_eq, decide_eq_true_iff, hkey, and_comm]

theorem Records.holds_iff (h : mapping.Records rows) (id : String) :
    mapping.holds id = true ↔ ∃ r ∈ rows, r.windows = id ∨ id ∈ r.ianas := by
  rw [holds, List.contains_iff_mem, h.known]

theorem linesOf_eq (text : String) : linesOf text = text.toList.splitOn '\n' :=
  Search.pieces_singleton '\n' text.toList

/-- **The first row decides.**  A text is a mapping when each of its lines is blank or holds a row,
and otherwise its first malformed line is named, blank lines being counted.  The Windows name of an
IANA name is that of the first row that lists it, the main zone of a Windows name is that of its
first row for the world, if territories hold no bar, and names without such a row stay as they are.
The names of the rows are valid, and no others. -/
theorem first_row_decides (text : String) :
    let lines := text.toList.splitOn '\n'
    ((∃ mapping, ofText text = .ok mapping) ↔
      ∀ line ∈ lines, ¬ Blank line → ∃ r : ZoneRow, r.Written line) ∧
    (∀ fault, ofText text = .error fault ↔
      ∃ before line after, lines = before ++ line :: after ∧
        (∀ l ∈ before, ¬ Blank l → ∃ r : ZoneRow, r.Written l) ∧
        ¬ Blank line ∧ (∀ r : ZoneRow, ¬ r.Written line) ∧
        fault = ⟨before.length + 1, String.ofList (trimChars line)⟩) ∧
    ∀ mapping, ofText text = .ok mapping → ∃ rows, Rows lines rows ∧
      (∀ iana, mapping.toWindows iana =
        ((rows.find? fun r => r.ianas.contains iana).map ZoneRow.windows).getD iana) ∧
      ((∀ r ∈ rows, '|' ∉ r.territory.toList) → ∀ windows, mapping.toIana windows =
        ((rows.find? fun r => r.windows = windows ∧ r.territory = world).map
          ZoneRow.main).getD windows) ∧
      ∀ id, mapping.holds id = true ↔ ∃ r ∈ rows, r.windows = id ∨ id ∈ r.ianas := by
  intro lines
  have hfine (line : List Char) :
      ¬ Malformed line ↔ (¬ Blank line → ∃ r : ZoneRow, r.Written line) := by
    simp only [Malformed, not_and, not_forall, not_not]
  unfold ofText
  rw [linesOf_eq]
  refine ⟨?_, ?_, ?_⟩
  · simp only [addLines_eq_ok_iff, ← hfine, ← exists_rows_iff]
    exact ⟨fun ⟨_, rows, h, _⟩ => ⟨rows, h⟩, fun ⟨rows, h⟩ => ⟨_, rows, h, rfl⟩⟩
  · intro fault
    simp only [addLines_eq_error_iff, ← hfine, Nat.add_comm 1]
    constructor
    · rintro ⟨before, line, after, hlines, hbefore, ⟨hblank, hrow⟩, hfault⟩
      exact ⟨before, line, after, hlines, hbefore, hblank, hrow, hfault⟩
    · rintro ⟨before, line, after, hlines, hbefore, hblank, hrow, hfault⟩
      exact ⟨before, line, after, hlines, hbefore, ⟨hblank, hrow⟩, hfault⟩
  · intro mapping h
    obtain ⟨rows, hrows, rfl⟩ := addLines_eq_ok_iff.mp h
    have hrecords := records_of_rows rows
    exact ⟨rows, hrows, hrecords.toWindows_eq, hrecords.toIana_eq, hrecords.holds_iff⟩

/-- Blank lines, white space around the names, a zone in two rows, and a line without a territory. -/
theorem first_row_decides_repeated_zone :
    let text := "\n Zone A , 001 ,Etc/A  Etc/B\r\nZone A,XX,Etc/C\n \nZone B,001,Etc/B Etc/A\n"
    (∃ mapping, ofText text = .ok mapping ∧ mapping.toIana "Zone A" = "Etc/A" ∧
      mapping.toIana "Zone B" = "Etc/B" ∧ mapping.toWindows "Etc/B" = "Zone A" ∧
      mapping.toWindows "Etc/C" = "Zone A" ∧ mapping.toWindows "Etc/X" = "Etc/X" ∧
      mapping.holds "Zone B" = true ∧ mapping.holds "001" = false) ∧
    ofText "Zone A,001,Etc/A\n\n Zone B , ,Etc/A\n" = .error ⟨3, "Zone B , ,Etc/A"⟩ := by
  intro text
  have hwritten (lines : List (List Char)) (h : ∀ line ∈ lines, trimChars line = [] ∨
      (ZoneRow.ofChars? line).isSome = true) :
      ∀ line ∈ lines, ¬ Blank line → ∃ r : ZoneRow, r.Written line := by
    intro line hline hblank
    rcases h line hline with hnil | hsome
    · exact absurd (trimChars_eq_nil_iff.mp hnil) hblank
    · obtain ⟨r, hr⟩ := Option.isSome_iff_exists.mp hsome
      exact ⟨r, ZoneRow.ofChars?_eq_some_iff.mp hr⟩
  constructor
  · obtain ⟨hloads, -, htables⟩ := first_row_decides text
    obtain ⟨mapping, hmapping⟩ := hloads.mpr (hwritten _ (by decide +kernel))
    obtain ⟨rows, hrows, hwindows, hiana, hholds⟩ := htables mapping hmapping
    have hlisted : rows = [⟨"Zone A", "001", "Etc/A", ["Etc/B"]⟩, ⟨"Zone A", "XX", "Etc/C", []⟩,
        ⟨"Zone B", "001", "Etc/B", ["Etc/A"]⟩] := by
      rw [hrows.eq_filterMap]
      decide +kernel
    subst hlisted
    replace hiana := hiana (by decide)
    refine ⟨mapping, hmapping, ?_, ?_, ?_, ?_, ?_, ?_, ?_⟩
    · exact (hiana _).trans (by decide)
    · exact (hiana _).trans (by decide)
    · exact (hwindows _).trans (by decide)
    · exact (hwindows _).trans (by decide)
    · exact (hwindows _).trans (by decide)
    · exact (hholds _).mpr (by decide)
    · exact Bool.eq_false_iff.mpr fun h => absurd ((hholds _).mp h) (by decide)
  · refine ((first_row_decides _).2.1 _).mpr ⟨["Zone A,001,Etc/A".toList, []],
      " Zone B , ,Etc/A".toList, [[]], by decide +kernel, hwritten _ (by decide +kernel), ?_, ?_,
      by decide +kernel⟩
    · rw [← trimChars_eq_nil_iff]
      decide +kernel
    · intro r hr
      have hnone : ZoneRow.ofChars? " Zone B , ,Etc/A".toList = none := by decide +kernel
      rw [ZoneRow.ofChars?_eq_some_iff.mpr hr] at hnone
      cases hnone

/-- A bar in a territory can stand for the one between the two parts of a key. -/
example : (ofText "B,001|A,Etc/A").map (·.toIana "A|B") = .ok "Etc/A" := by decide +kernel

end ZoneMapping

end StateExpr
