import StateExpr.Proofs.Json.Writer
/-!
# Values and their texts

A value has two texts in the form of JSON: the displayed one, and the one that is written where
JSON is asked for.  Both are writers in the sense of `Writer`, so reading either gives the value
back but for its numbers, and everything is settled by what becomes of a number alone.

Main statements: `displayed_sound`, `rendered_sound` and `Writer.Sound.roundTrips_iff`.
-/

namespace StateExpr

namespace Json

/-! ## The two printers -/

/-- The equations of a printer that writes numbers and characters as `w` does. -/
structure Writer.Prints (w : Writer) (quote : String → String) (value : Value → String)
    (items : List Value → String) (entries : Entries → String) : Prop where
  quoted : ∀ s, (quote s).toList = w.string s
  null : value .null = "null"
  bool : ∀ b, value (.bool b) = toString b
  number : ∀ x, (value (.number x)).toList =
    if x.isFinite then w.number x else ['n', 'u', 'l', 'l']
  text : ∀ s, value (.text s) = quote s
  list : ∀ vs, value (.list vs) = "[" ++ items vs ++ "]"
  map : ∀ es, value (.map es) = "\x7b" ++ entries es ++ "\x7d"
  noItem : items [] = ""
  oneItem : ∀ v, items [v] = value v
  moreItems : ∀ v u us, items (v :: u :: us) = value v ++ "," ++ items (u :: us)
  noEntry : entries [] = ""
  oneEntry : ∀ k v, entries [(k, v)] = quote k ++ ":" ++ value v
  moreEntries : ∀ k v e es,
    entries ((k, v) :: e :: es) = quote k ++ ":" ++ value v ++ "," ++ entries (e :: es)

section

variable {w : Writer} {quote : String → String} {value : Value → String}
  {items : List Value → String} {entries : Entries → String}
  (h : w.Prints quote value items entries)
include h

theorem Writer.Prints.toList_items {vs : List Value}
    (hvs : ∀ v ∈ vs, (value v).toList = w.write v) :
    (items vs).toList = w.writeItems vs := by
  induction vs with
  | nil =>
    rw [h.noItem]
    rfl
  | cons v vs ih =>
    have hv := hvs v List.mem_cons_self
    cases vs with
    | nil =>
      rw [h.oneItem]
      exact hv
    | cons u us =>
      have hrest := ih fun v hv => hvs v (List.mem_cons_of_mem _ hv)
      rw [Writer.writeItems_cons_cons, ← hv, ← hrest, h.moreItems]
      simp

theorem Writer.Prints.toList_entries {es : Entries}
    (hes : ∀ e ∈ es, (value e.2).toList = w.write e.2) :
    (entries es).toList = w.writeEntries es := by
  induction es with
  | nil =>
    rw [h.noEntry]
    rfl
  | cons e es ih =>
    obtain ⟨k, v⟩ := e
    have hv := hes (k, v) List.mem_cons_self
    cases es with
    | nil =>
      rw [h.oneEntry, Writer.writeEntries, ← hv, ← h.quoted]
      simp
    | cons e es =>
      have hrest := ih fun e he => hes e (List.mem_cons_of_mem _ he)
      rw [Writer.writeEntries_cons_cons, ← hv, ← hrest, ← h.quoted, h.moreEntries]
      simp

/-- A printer with these equations is the writer. -/
theorem Writer.Prints.toList (v : Value) : (value v).toList = w.write v := by
  induction v using Value.induction with
  | null =>
    rw [h.null]
    rfl
  | bool b =>
    rw [h.bool]
    cases b <;> rfl
  | number x => exact h.number x
  | text s =>
    rw [h.text, h.quoted]
    rfl
  | list vs ih =>
    rw [h.list, Writer.write, ← h.toList_items ih]
    simp
  | map es ih =>
    rw [h.map, Writer.write, ← h.toList_entries ih]
    simp

end

/-- The writer behind the displayed text of a value. -/
def displayed : Writer := ⟨fun x => (finiteText x).toList, escapeChar⟩

/-- The writer behind the JSON text of a value. -/
def rendered : Writer := ⟨fun x => (jsonNumberText x).toList, renderChar⟩

theorem displayed_prints :
    displayed.Prints StateExpr.quoted Value.display Value.displayItems Value.displayEntries where
  quoted _ := String.toList_ofList
  null := rfl
  bool _ := rfl
  number x := by
    unfold Value.display
    split <;> rfl
  text _ := rfl
  list _ := rfl
  map _ := rfl
  noItem := rfl
  oneItem _ := rfl
  moreItems _ _ _ := rfl
  noEntry := rfl
  oneEntry _ _ := rfl
  moreEntries _ _ _ _ := rfl

theorem rendered_prints :
    rendered.Prints renderString render renderItems renderEntries where
  quoted _ := String.toList_ofList
  null := rfl
  bool _ := rfl
  number x := by
    rw [render, Dyadic.isFinite_eq]
    cases hd : Dyadic.ofFloat? x with
    | none =>
      unfold jsonNumberText
      rw [hd, Option.isSome_none, if_neg Bool.false_ne_true]
      dsimp only
      rfl
    | some d => rfl
  text _ := rfl
  list _ := rfl
  map _ := rfl
  noItem := rfl
  oneItem _ := rfl
  moreItems _ _ _ := rfl
  noEntry := rfl
  oneEntry _ _ := rfl
  moreEntries _ _ _ _ := rfl

theorem displayed_sound : displayed.Sound where
  number x hx := by
    rw [Dyadic.isFinite_eq, Option.isSome_iff_exists] at hx
    obtain ⟨d, hd⟩ := hx
    exact exists_spelled_finiteText hd
  char := takeString?_escapeChar

theorem rendered_sound : rendered.Sound where
  number x hx := by
    rw [Dyadic.isFinite_eq, Option.isSome_iff_exists] at hx
    obtain ⟨d, hd⟩ := hx
    exact exists_spelled_jsonNumberText hd
  char := takeString?_renderChar

/-! ## Coming back -/

/-- Reading the text of a value gives an equal value with all keys in the same order. -/
def RoundTrips (print : Value → String) (v : Value) : Prop :=
  ∃ u, parse? (print v) = some u ∧ (u == v) = true ∧ u.aligned v = true

namespace Writer

variable {w : Writer}

theorem exists_alignedItems_iff {items : List Value} :
    (∃ ds, w.rereadItems items = some ds ∧
      Value.alignedItems (Document.itemValues ds) items = true) ↔
      ∀ v ∈ items, ∃ d, w.reread v = some d ∧ d.value.aligned v = true := by
  induction items with
  | nil => exact iff_of_true ⟨_, rfl, rfl⟩ (by intro v hv; cases hv)
  | cons v vs ih =>
    rw [List.forall_mem_cons, ← ih]
    constructor
    · rintro ⟨ds, hds, haligned⟩
      simp only [rereadItems, Option.bind_eq_bind, Option.bind_eq_some_iff,
        Option.some.injEq] at hds
      obtain ⟨d, hd, ds, hds, rfl⟩ := hds
      simp only [Document.itemValues, Value.alignedItems, Bool.and_eq_true] at haligned
      exact ⟨⟨d, hd, haligned.1⟩, ds, hds, haligned.2⟩
    · rintro ⟨⟨d, hd, hvalue⟩, ds, hds, hrest⟩
      refine ⟨d :: ds, ?_, ?_⟩
      · rw [rereadItems, hd, hds]
        rfl
      · rw [Document.itemValues, Value.alignedItems, hvalue, hrest]
        rfl

theorem exists_alignedEntries_iff {entries : Entries} :
    (∃ ds, w.rereadEntries entries = some ds ∧
      Value.alignedEntries (Document.entryValues ds) entries = true) ↔
      ∀ e ∈ entries, ∃ d, w.reread e.2 = some d ∧ d.value.aligned e.2 = true := by
  induction entries with
  | nil => exact iff_of_true ⟨_, rfl, rfl⟩ (by intro e he; cases he)
  | cons e es ih =>
    obtain ⟨k, v⟩ := e
    rw [List.forall_mem_cons, ← ih]
    constructor
    · rintro ⟨ds, hds, haligned⟩
      simp only [rereadEntries, Option.bind_eq_bind, Option.bind_eq_some_iff,
        Option.some.injEq] at hds
      obtain ⟨d, hd, ds, hds, rfl⟩ := hds
      simp only [Document.entryValues, Value.alignedEntries, Bool.and_eq_true] at haligned
      exact ⟨⟨d, hd, haligned.1.2⟩, ds, hds, haligned.2⟩
    · rintro ⟨⟨d, hd, hvalue⟩, ds, hds, hrest⟩
      dsimp only at hd hvalue
      refine ⟨(k, d) :: ds, ?_, ?_⟩
      · rw [rereadEntries, hd, hds]
        rfl
      · rw [Document.entryValues, Value.alignedEntries, hvalue, hrest, beq_self_eq_true]
        rfl

/-- A document read for a value agrees with it when each number read for one of its numbers does. -/
theorem exists_aligned_iff (v : Value) :
    (∃ d, w.reread v = some d ∧ d.value.aligned v = true) ↔
      ∀ x ∈ v.numbers, ∃ d, w.reread (.number x) = some d ∧ d.value.aligned (.number x) = true := by
  induction v using Value.induction with
  | null => exact iff_of_true ⟨_, rfl, rfl⟩ (by intro x hx; cases hx)
  | bool b => exact iff_of_true ⟨_, rfl, by cases b <;> rfl⟩ (by intro x hx; cases hx)
  | number x => simp [Value.numbers]
  | text s => exact iff_of_true ⟨_, rfl, beq_self_eq_true s⟩ (by intro x hx; cases hx)
  | list items ih =>
    have hlist : (∃ d, w.reread (.list items) = some d ∧ d.value.aligned (.list items) = true) ↔
        ∃ ds, w.rereadItems items = some ds ∧
          Value.alignedItems (Document.itemValues ds) items = true := by
      simp only [reread, Option.map_eq_some_iff]
      constructor
      · rintro ⟨_, ⟨ds, hds, rfl⟩, haligned⟩
        exact ⟨ds, hds, haligned⟩
      · rintro ⟨ds, hds, haligned⟩
        exact ⟨_, ⟨ds, hds, rfl⟩, haligned⟩
    rw [hlist, exists_alignedItems_iff]
    constructor
    · intro hitems x hx
      obtain ⟨v, hv, hxv⟩ := Value.mem_itemNumbers.mp hx
      exact (ih v hv).mp (hitems v hv) x hxv
    · intro hnumbers v hv
      exact (ih v hv).mpr fun x hx => hnumbers x (Value.mem_itemNumbers.mpr ⟨v, hv, hx⟩)
  | map entries ih =>
    have hmap : (∃ d, w.reread (.map entries) = some d ∧ d.value.aligned (.map entries) = true) ↔
        ∃ ds, w.rereadEntries entries = some ds ∧
          Value.alignedEntries (Document.entryValues ds) entries = true := by
      simp only [reread, Option.map_eq_some_iff]
      constructor
      · rintro ⟨_, ⟨ds, hds, rfl⟩, haligned⟩
        exact ⟨ds, hds, haligned⟩
      · rintro ⟨ds, hds, haligned⟩
        exact ⟨_, ⟨ds, hds, rfl⟩, haligned⟩
    rw [hmap, exists_alignedEntries_iff]
    constructor
    · intro hentries x hx
      obtain ⟨e, he, hxe⟩ := Value.mem_entryNumbers.mp hx
      exact (ih e he).mp (hentries e he) x hxe
    · intro hnumbers e he
      exact (ih e he).mpr fun x hx => hnumbers x (Value.mem_entryNumbers.mpr ⟨e, he, hx⟩)

theorem Sound.parse?_print (hw : w.Sound) {print : Value → String}
    (hprint : ∀ v, (print v).toList = w.write v) {v : Value} (hkeyed : v.Keyed)
    (hdepth : v.depth ≤ maxDepth) : parse? (print v) = (w.reread v).map Document.value := by
  have htext : print v = String.ofList (w.write v) := by rw [← hprint, String.ofList_toList]
  rw [parse?, htext, hw.parse?_write hkeyed hdepth]

/-- **A value comes back from its text when each of its numbers does.** -/
theorem Sound.roundTrips_iff (hw : w.Sound) {print : Value → String}
    (hprint : ∀ v, (print v).toList = w.write v) {v : Value} (hkeyed : v.Keyed)
    (hdepth : v.depth ≤ maxDepth) :
    RoundTrips print v ↔ ∀ x ∈ v.numbers, RoundTrips print (.number x) := by
  have hreread {u : Value} (hu : u.Keyed) (hd : u.depth ≤ maxDepth) :
      RoundTrips print u ↔ ∃ d, w.reread u = some d ∧ d.value.aligned u = true := by
    unfold RoundTrips
    rw [hw.parse?_print hprint hu hd]
    simp only [Option.map_eq_some_iff]
    constructor
    · rintro ⟨_, ⟨d, hd, rfl⟩, -, haligned⟩
      exact ⟨d, hd, haligned⟩
    · rintro ⟨d, hd, haligned⟩
      exact ⟨_, ⟨d, hd, rfl⟩, Value.beqIn_of_aligned hu haligned, haligned⟩
  rw [hreread hkeyed hdepth, exists_aligned_iff]
  constructor
  · intro hnumbers x hx
    exact (hreread .number (Nat.zero_le _)).mpr (hnumbers x hx)
  · intro hnumbers x hx
    exact (hreread .number (Nat.zero_le _)).mp (hnumbers x hx)

section

variable (hw : w.Sound) {print : Value → String} (hprint : ∀ v, (print v).toList = w.write v)
  {x : Float} (hx : x.isFinite = true) {n : Numeral} {rest : List Char}
  (hn : takeNumber? (w.number x) = some (n, rest))
include hw hprint hx hn

theorem Sound.parse?_number : parse? (print (.number x)) = some (.number n.toFloat) := by
  rw [hw.parse?_print hprint .number (Nat.zero_le _), reread, if_pos hx, hn]
  rfl

theorem Sound.roundTrips_number_iff :
    RoundTrips print (.number x) ↔ (n.toFloat == x) = true := by
  unfold RoundTrips
  rw [hw.parse?_number hprint hx hn]
  simp only [Option.some.injEq, exists_eq_left']
  exact and_self_iff

end

end Writer

end Json

end StateExpr
