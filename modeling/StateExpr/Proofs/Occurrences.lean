import StateExpr.Proofs.Slices
/-!
# Occurrences

Where a text stands in another and where a list holds a value.  Searches from the left and from the
right walk through all positions, the end of the text with them, so that the empty text is found at
the start and at the end of every text, and occurrences that overlap are told apart.

Main statements: `Search.first?_finds`, `Search.last?_finds`, `Value.lastPosition?_finds`,
`Expr.first_and_last_positions` and `Expr.contains_as_indexOf`.
-/

namespace StateExpr

/-- What a search for the best of some positions finds: none exactly when there is no position. -/
structure Finds (best : Set ℕ → ℕ → Prop) (positions : Set ℕ) (found : Option ℕ) : Prop where
  some_iff : ∀ k, found = some k ↔ best positions k
  none_iff : found = none ↔ positions = ∅

namespace Finds

variable {best : Set ℕ → ℕ → Prop} {positions : Set ℕ} {found : Option ℕ}

theorem of_unique (hmem : ∀ k, best positions k → k ∈ positions)
    (hunique : ∀ j k, best positions j → best positions k → j = k)
    (hsome : ∀ k, found = some k → best positions k) (hnone : found = none → positions = ∅) :
    Finds best positions found := by
  cases found with
  | none =>
    have hempty := hnone rfl
    constructor
    · intro k
      apply iff_of_false nofun
      intro hk
      exact Set.eq_empty_iff_forall_notMem.mp hempty k (hmem k hk)
    · exact iff_of_true rfl hempty
  | some l =>
    have hl := hsome l rfl
    constructor
    · intro k
      rw [Option.some.injEq]
      constructor
      · rintro rfl
        exact hl
      · exact hunique l k hl
    · exact iff_of_false nofun (Set.nonempty_iff_ne_empty.mp ⟨l, hmem l hl⟩)

theorem least (hsome : ∀ k, found = some k → k ∈ positions ∧ ∀ j ∈ positions, k ≤ j)
    (hnone : found = none → positions = ∅) : Finds IsLeast positions found :=
  of_unique (fun _ h => h.1) (fun _ _ => IsLeast.unique) hsome hnone

theorem greatest (hsome : ∀ k, found = some k → k ∈ positions ∧ ∀ j ∈ positions, j ≤ k)
    (hnone : found = none → positions = ∅) : Finds IsGreatest positions found :=
  of_unique (fun _ h => h.1) (fun _ _ => IsGreatest.unique) hsome hnone

theorem ne_none_iff (h : Finds best positions found) : found ≠ none ↔ positions.Nonempty := by
  rw [ne_eq, h.none_iff, Set.nonempty_iff_ne_empty]

end Finds

/-! ## Texts in texts -/

namespace Search

variable {needle text : List Char} {k : ℕ}

/-- The positions at which a text stands in another, counted in characters. -/
def occurrences (needle text : List Char) : Set ℕ :=
  {k | k ≤ text.length ∧ needle <+: text.drop k}

@[simp] theorem zero_mem_occurrences : 0 ∈ occurrences needle text ↔ needle <+: text := by
  simp [occurrences]

@[simp] theorem succ_mem_occurrences {c : Char} :
    k + 1 ∈ occurrences needle (c :: text) ↔ k ∈ occurrences needle text := by
  simp [occurrences]

@[simp] theorem mem_occurrences_nil : k ∈ occurrences needle [] ↔ needle = [] ∧ k = 0 := by
  simp [occurrences, and_comm]

/-- An occurrence ends within the text. -/
theorem add_length_le_of_mem_occurrences (h : k ∈ occurrences needle text) :
    k + needle.length ≤ text.length := by
  obtain ⟨hle, hprefix⟩ := h
  have hlength := hprefix.length_le
  rw [List.length_drop] at hlength
  omega

/-- **The first occurrence is found.** -/
theorem first?_finds (needle text : List Char) :
    Finds IsLeast (occurrences needle text) (first? needle text) := by
  induction text with
  | nil =>
    apply Finds.least
    · intro k hk
      by_cases h : needle = [] <;> simp_all [first?]
    · intro hnone
      ext k
      by_cases h : needle = [] <;> simp_all [first?]
  | cons c rest ih =>
    by_cases h : needle <+: c :: rest
    · have hfirst : first? needle (c :: rest) = some 0 := by simp [first?, h]
      rw [hfirst]
      apply Finds.least
      · rintro k ⟨⟩
        exact ⟨zero_mem_occurrences.mpr h, fun j _ => Nat.zero_le j⟩
      · nofun
    · have hfirst : first? needle (c :: rest) = (first? needle rest).map (· + 1) := by
        simp [first?, h]
      rw [hfirst]
      apply Finds.least
      · intro k hk
        obtain ⟨l, hl, rfl⟩ := Option.map_eq_some_iff.mp hk
        have hleast := (ih.some_iff l).mp hl
        refine ⟨succ_mem_occurrences.mpr hleast.1, fun j hj => ?_⟩
        cases j with
        | zero => exact absurd (zero_mem_occurrences.mp hj) h
        | succ j => exact Nat.succ_le_succ (hleast.2 (succ_mem_occurrences.mp hj))
      · intro hnone
        have hempty := ih.none_iff.mp (Option.map_eq_none_iff.mp hnone)
        ext k
        cases k <;> simp [h, hempty]

/-- **The last occurrence is found.** -/
theorem last?_finds (needle text : List Char) :
    Finds IsGreatest (occurrences needle text) (last? needle text) := by
  induction text with
  | nil =>
    apply Finds.greatest
    · intro k hk
      by_cases h : needle = [] <;> simp_all [last?]
    · intro hnone
      ext k
      by_cases h : needle = [] <;> simp_all [last?]
  | cons c rest ih =>
    cases hrest : last? needle rest with
    | some l =>
      have hgreatest := (ih.some_iff l).mp hrest
      have hlast : last? needle (c :: rest) = some (l + 1) := by simp [last?, hrest]
      rw [hlast]
      apply Finds.greatest
      · rintro k ⟨⟩
        refine ⟨succ_mem_occurrences.mpr hgreatest.1, fun j hj => ?_⟩
        cases j with
        | zero => exact Nat.zero_le _
        | succ j => exact Nat.succ_le_succ (hgreatest.2 (succ_mem_occurrences.mp hj))
      · nofun
    | none =>
      -- nothing stands farther right, so only the start is left
      have hempty := ih.none_iff.mp hrest
      by_cases h : needle <+: c :: rest
      · have hlast : last? needle (c :: rest) = some 0 := by simp [last?, hrest, h]
        rw [hlast]
        apply Finds.greatest
        · rintro k ⟨⟩
          refine ⟨zero_mem_occurrences.mpr h, fun j hj => ?_⟩
          cases j with
          | zero => exact le_rfl
          | succ j => simp [hempty] at hj
        · nofun
      · have hlast : last? needle (c :: rest) = none := by simp [last?, hrest, h]
        rw [hlast]
        apply Finds.greatest
        · nofun
        · intro _
          ext k
          cases k <;> simp [h, hempty]

end Search

/-! ## Values in lists -/

namespace Value

variable {shared : Value → Bool} {v : Value} {items : List Value} {k : ℕ}

/-- The positions at which a list holds a value that is equal to the given one. -/
def positions (shared : Value → Bool) (v : Value) (items : List Value) : Set ℕ :=
  {k | ∃ w, items[k]? = some w ∧ w.beqIn shared v = true}

theorem lt_length_of_mem_positions (h : k ∈ positions shared v items) : k < items.length := by
  obtain ⟨w, hw, -⟩ := h
  exact (List.getElem?_eq_some_iff.mp hw).1

theorem mem_positions_reverse (h : k ∈ positions shared v items) :
    items.length - 1 - k ∈ positions shared v items.reverse := by
  have hlt := lt_length_of_mem_positions h
  obtain ⟨w, hw, hbeq⟩ := h
  refine ⟨w, ?_, hbeq⟩
  rw [List.getElem?_reverse (by omega), show items.length - 1 - (items.length - 1 - k) = k by omega]
  exact hw

theorem positions_nonempty_iff :
    (positions shared v items).Nonempty ↔ (items.any fun w => w.beqIn shared v) = true := by
  rw [List.any_eq_true]
  constructor
  · rintro ⟨k, w, hw, hbeq⟩
    exact ⟨w, List.mem_of_getElem? hw, hbeq⟩
  · rintro ⟨w, hmem, hbeq⟩
    obtain ⟨k, hk⟩ := List.mem_iff_getElem?.mp hmem
    exact ⟨k, w, hk, hbeq⟩

theorem findIdx?_finds (shared : Value → Bool) (v : Value) (items : List Value) :
    Finds IsLeast (positions shared v items) (items.findIdx? fun w => w.beqIn shared v) := by
  apply Finds.least
  · intro k hk
    obtain ⟨hlt, hbeq, hbefore⟩ := List.findIdx?_eq_some_iff_getElem.mp hk
    refine ⟨⟨_, List.getElem?_eq_getElem hlt, hbeq⟩, ?_⟩
    rintro j ⟨w, hw, hjv⟩
    obtain ⟨hjlt, rfl⟩ := List.getElem?_eq_some_iff.mp hw
    by_contra hjk
    exact hbefore j (Nat.lt_of_not_le hjk) hjv
  · intro hnone
    rw [← Set.not_nonempty_iff_eq_empty, positions_nonempty_iff, List.any_eq_true]
    rintro ⟨w, hmem, hbeq⟩
    rw [List.findIdx?_eq_none_iff.mp hnone w hmem] at hbeq
    cases hbeq

/-- **The last position is found**, as the first one from the other end. -/
theorem lastPosition?_finds (shared : Value → Bool) (v : Value) (items : List Value) :
    Finds IsGreatest (positions shared v items) (Texts.lastPosition? shared v items) := by
  have hfirst := findIdx?_finds shared v items.reverse
  unfold Texts.lastPosition?
  apply Finds.greatest
  · intro k hk
    obtain ⟨i, hi, rfl⟩ := Option.map_eq_some_iff.mp hk
    obtain ⟨hmem, hleast⟩ := (hfirst.some_iff i).mp hi
    have hback := mem_positions_reverse hmem
    rw [List.reverse_reverse, List.length_reverse] at hback
    refine ⟨hback, fun j hj => ?_⟩
    have hjlt := lt_length_of_mem_positions hj
    have := hleast (mem_positions_reverse hj)
    omega
  · intro hnone
    have hempty := hfirst.none_iff.mp (Option.map_eq_none_iff.mp hnone)
    rw [Set.eq_empty_iff_forall_notMem] at hempty ⊢
    intro j hj
    exact hempty _ (mem_positions_reverse hj)

end Value

/-! ## Operators -/

/-- Only that there is no position is minus one. -/
theorem Texts.positionOrNone_eq_iff {p : Option ℕ} :
    positionOrNone p = .ofInt (-1) ↔ p = none := by
  cases p with
  | none => exact iff_of_true rfl rfl
  | some k =>
    apply iff_of_false _ nofun
    intro h
    exact numberOfInt_natCast_ne k (Value.number.inj h)

theorem Texts.integer?_positionOrNone {k : ℕ} (hk : k < 2 ^ 53) :
    (positionOrNone (some k)).integer? = some (k : ℤ) := by
  have hcounts : (Value.ofInt k).CountsAs k k := by
    refine ⟨?_, .inr ⟨rfl, hk⟩⟩
    unfold FitsInt64 int64Min int64Max
    omega
  exact hcounts.integer? (Int.natCast_nonneg k) le_rfl

namespace Expr

variable {ambient : Ambient}

theorem returns_indexOf {vs : List Value} {r : Value}
    (h : Texts.indexOf ambient.shared vs = .ok r) :
    Returns ambient .indexOf vs r :=
  (callGives_of_applyWithError rfl rfl (checked_none 0 vs)).returns h

theorem returns_lastIndexOf {vs : List Value} {r : Value}
    (h : Texts.lastIndexOf ambient.shared vs = .ok r) :
    Returns ambient .lastIndexOf vs r :=
  (callGives_of_applyWithError rfl rfl (checked_none 0 vs)).returns h

/-- A part of a text, so long as another, is that other exactly where it stands. -/
theorem returns_substring_iff {s t : String} {v w : Value} {k : ℕ}
    (hv : v.integer? = some (k : ℤ)) (hw : w.integer? = some (t.length : ℤ)) :
    Returns ambient .substring [.text s, v, w] (.text t) ↔
      k ∈ Search.occurrences t.toList s.toList := by
  rw [(callGives_substring _).returns_iff]
  constructor
  · intro h
    cases h with
    | counted _ hstart hcount hle hle' =>
      rw [hv, Option.some.injEq, Int.natCast_inj] at hstart
      subst hstart
      rw [String.toList_ofList, ← take_drop]
      rw [← String.length_toList] at hle
      exact ⟨hle, List.take_prefix _ _⟩
  · intro h
    have hend := Search.add_length_le_of_mem_occurrences h
    obtain ⟨hle, hprefix⟩ := h
    rw [String.length_toList] at hle
    rw [String.length_toList, String.length_toList] at hend
    have hpart : SubstringOf [.text s, v, w] _ := .counted [] hv hw hle (by omega)
    rw [← take_drop, ← String.length_toList, ← List.prefix_iff_eq_take.mp hprefix,
      String.ofList_toList] at hpart
    exact hpart

/-- **First and last positions.**  The operators that look for a text in a text give the number of
the first and of the last position at which the part of that length is the text wanted, and the
number minus one exactly when there is no such position.  In a list they give the first and the last
position of an item that is equal to the value wanted. -/
theorem first_and_last_positions (ambient : Ambient) :
    (∀ (s t : String) (v w : Value) (k : ℕ), v.integer? = some (k : ℤ) →
      w.integer? = some (t.length : ℤ) →
      (Returns ambient .substring [.text s, v, w] (.text t) ↔
        k ∈ Search.occurrences t.toList s.toList)) ∧
    (∀ s t : String, ∃ p q,
      Returns ambient .indexOf [.text s, .text t] (Texts.positionOrNone p) ∧
      Returns ambient .lastIndexOf [.text s, .text t] (Texts.positionOrNone q) ∧
      Finds IsLeast (Search.occurrences t.toList s.toList) p ∧
      Finds IsGreatest (Search.occurrences t.toList s.toList) q) ∧
    (∀ (l : List Value) (v : Value), ∃ p q,
      Returns ambient .indexOf [.list l, v] (Texts.positionOrNone p) ∧
      Returns ambient .lastIndexOf [.list l, v] (Texts.positionOrNone q) ∧
      Finds IsLeast (Value.positions ambient.shared v l) p ∧
      Finds IsGreatest (Value.positions ambient.shared v l) q) ∧
    (∀ p, Texts.positionOrNone p = .ofInt (-1) ↔ p = none) ∧
    ∀ k < 2 ^ 53, (Texts.positionOrNone (some k)).integer? = some (k : ℤ) := by
  refine ⟨fun _ _ _ _ _ => returns_substring_iff, ?_, ?_, fun _ => Texts.positionOrNone_eq_iff,
    fun _ => Texts.integer?_positionOrNone⟩
  · intro s t
    exact ⟨_, _, returns_indexOf rfl, returns_lastIndexOf rfl, Search.first?_finds _ _,
      Search.last?_finds _ _⟩
  · intro l v
    exact ⟨_, _, returns_indexOf rfl, returns_lastIndexOf rfl, Value.findIdx?_finds _ v l,
      Value.lastPosition?_finds _ v l⟩

/-- Two occurrences that overlap, in a text whose characters have several bytes. -/
theorem first_and_last_positions_overlapping :
    let ambient : Ambient := .still
    Returns ambient .indexOf [.text "äöäöä", .text "äöä"] (.ofInt 0) ∧
      Returns ambient .lastIndexOf [.text "äöäöä", .text "äöä"] (.ofInt 2) ∧
      Returns ambient .substring [.text "äöäöä", .ofInt 2, .ofInt 3] (.text "äöä") := by
  intro ambient
  obtain ⟨hsubstring, htexts, -, -, hexact⟩ := first_and_last_positions ambient
  obtain ⟨p, q, hindex, hlast, hp, hq⟩ := htexts "äöäöä" "äöä"
  have hzero : 0 ∈ Search.occurrences "äöä".toList "äöäöä".toList := ⟨by decide, by decide⟩
  have htwo : 2 ∈ Search.occurrences "äöä".toList "äöäöä".toList := ⟨by decide, by decide⟩
  have hleast : p = some 0 := by
    rw [hp.some_iff]
    exact ⟨hzero, fun j _ => Nat.zero_le j⟩
  have hgreatest : q = some 2 := by
    rw [hq.some_iff]
    refine ⟨htwo, fun j hj => ?_⟩
    have hend : j + 3 ≤ 5 := Search.add_length_le_of_mem_occurrences hj
    omega
  rw [hleast] at hindex
  rw [hgreatest] at hlast
  refine ⟨hindex, hlast, ?_⟩
  exact (hsubstring _ _ _ _ 2 (hexact 2 (by decide)) (hexact 3 (by decide))).mpr htwo

/-! ## Membership -/

theorem returns_contains (vs : List Value) : Returns ambient .contains vs
    (.bool (isContained (Value.beqIn ambient.shared) (argument vs 0) (argument vs 1))) := by
  apply returns_of_special rfl rfl
  intro e ms s s' h
  have hattempt : (Meaning.arguments none ms).attempt s = (.ok (.ok vs), s') := by
    simp [Action.attempt, h]
  exact Action.bind_of_ok hattempt

/-- Both operators tell alike whether a container holds an item. -/
def AgreeOn (ambient : Ambient) (container item : Value) : Prop :=
  ∃ found r, Returns ambient .contains [container, item] (.bool found) ∧
    Returns ambient .indexOf [container, item] r ∧ (found = true ↔ r ≠ .ofInt (-1))

theorem agreeOn_text (s t : String) : AgreeOn ambient (.text s) (.text t) := by
  have hindexOf : Returns ambient .indexOf [.text s, .text t]
      (Texts.positionOrNone (Search.first? t.toList s.toList)) := returns_indexOf rfl
  refine ⟨_, _, returns_contains _, hindexOf, ?_⟩
  rw [ne_eq, Texts.positionOrNone_eq_iff, ← ne_eq, ← Option.isSome_iff_ne_none]
  exact Iff.rfl

theorem agreeOn_list (l : List Value) (v : Value) : AgreeOn ambient (.list l) v := by
  have hindexOf : Returns ambient .indexOf [.list l, v]
      (Texts.positionOrNone (l.findIdx? fun w => w.beqIn ambient.shared v)) := returns_indexOf rfl
  refine ⟨_, _, returns_contains _, hindexOf, ?_⟩
  rw [ne_eq, Texts.positionOrNone_eq_iff, ← ne_eq, (Value.findIdx?_finds _ v l).ne_none_iff,
    Value.positions_nonempty_iff]
  exact Iff.rfl

theorem returns_contains_text_null (s : String) :
    Returns ambient .contains [.text s, .null] (.bool false) :=
  returns_contains _

/-- Null is searched for as the empty text, which stands at the start of every text. -/
theorem returns_indexOf_text_null (s : String) :
    Returns ambient .indexOf [.text s, .null] (.ofInt 0) := by
  have hfirst : Search.first? [] s.toList = some 0 := by
    rw [(Search.first?_finds [] s.toList).some_iff]
    exact ⟨Search.zero_mem_occurrences.mpr List.nil_prefix, fun j _ => Nat.zero_le j⟩
  have hcall : Returns ambient .indexOf [.text s, .null]
      (Texts.positionOrNone (Search.first? [] s.toList)) := returns_indexOf rfl
  rw [hfirst] at hcall
  exact hcall

theorem not_agreeOn_of_returns {container item : Value}
    (hcontains : Returns ambient .contains [container, item] (.bool false))
    (hindexOf : Returns ambient .indexOf [container, item] (.ofInt 0)) :
    ¬ AgreeOn ambient container item := by
  rintro ⟨found, r, hfound, hr, hiff⟩
  obtain rfl := hindexOf.unique hr
  obtain rfl := Value.bool.inj (hcontains.unique hfound)
  have hposition : Value.ofInt 0 ≠ .ofInt (-1) :=
    mt (Texts.positionOrNone_eq_iff (p := some 0)).mp nofun
  cases hiff.mpr hposition

/-- **A container holds what has a position in it.**  For every list with any value and every text
with any text, one operator tells that the item is there exactly when the other gives a position.
Null is no part of a text, but is looked for as the empty text, which stands at the start. -/
theorem contains_as_indexOf (ambient : Ambient) :
    (∀ l v, AgreeOn ambient (.list l) v) ∧
    (∀ s t, AgreeOn ambient (.text s) (.text t)) ∧
    ∀ s, Returns ambient .contains [.text s, .null] (.bool false) ∧
      Returns ambient .indexOf [.text s, .null] (.ofInt 0) :=
  ⟨agreeOn_list, agreeOn_text, fun s => ⟨returns_contains_text_null s, returns_indexOf_text_null s⟩⟩

/-- Null, and likewise a number, is not in a text and has a position there. -/
theorem null_within_text :
    let ambient : Ambient := .still
    (operation ambient .contains [constant (.text "abc"), constant .null]).evaluate.outcome .null =
        (.ok (.bool false), .null) ∧
      (operation ambient .indexOf [constant (.text "abc"), constant .null]).evaluate.outcome .null =
        (.ok (.ofInt 0), .null) ∧
      ¬ AgreeOn ambient (.text "abc") .null ∧ ¬ AgreeOn ambient (.text "abc") (.number 1) := by
  intro ambient
  have hcontains : Returns ambient .contains [.text "abc", .null] (.bool false) :=
    returns_contains_text_null "abc"
  have hindexOf : Returns ambient .indexOf [.text "abc", .null] (.ofInt 0) :=
    returns_indexOf_text_null "abc"
  have hoperands := Operands.constant [.text "abc", .null] .null
  refine ⟨hcontains _ _ _ hoperands, hindexOf _ _ _ hoperands,
    not_agreeOn_of_returns hcontains hindexOf, ?_⟩
  exact not_agreeOn_of_returns (returns_contains _) (returns_indexOf rfl)

end Expr

end StateExpr
