import StateExpr.Function.Conversion
import StateExpr.Proofs.Json.Number
import StateExpr.Proofs.Json.RoundTrip
/-!
# Which values come back from their texts

Integers of 64 bits come back from either text, and so do numbers in few digits near one.  Other
numbers may miss their last binary place, because the reader of JSON rounds twice, and displayed
whole numbers between `2 ^ 63` and `10 ^ 20` have lost their value before they are read.

Main statements: `roundTrips_render_iff` for JSON and `roundTrips_display_iff` for displayed values.
-/

namespace StateExpr

namespace Json

/-! ## Numbers that come back -/

section

variable {x : Float} {k n : ℤ}

theorem int64Value?_eq_some_iff : int64Value? x = some k ↔
    ∃ n, wholeValue? x = some n ∧ n.natAbs ≤ 2 ^ 63 ∧ clampInt64 n = k := by
  unfold int64Value?
  cases wholeValue? x with
  | none => simp
  | some n =>
    have hbounds : int64Min ≤ n ∧ n ≤ int64Max + 1 ↔ n.natAbs ≤ 2 ^ 63 := by
      unfold int64Min int64Max
      omega
    simp [hbounds]

theorem clampInt64_bounds (n : ℤ) : int64Min ≤ clampInt64 n ∧ clampInt64 n ≤ int64Max := by
  unfold clampInt64 int64Min int64Max
  omega

/-- Whole numbers are displayed after cutting them to 64 bits. -/
theorem displayed_whole (h : wholeValue? x = some n) (hn : n.natAbs < 10 ^ 20) :
    displayed.number x = (toString (clampInt64 n)).toList := by
  unfold displayed finiteText
  dsimp only
  rw [isWholeNumber, h, Option.isSome_some, Bool.true_and,
    if_pos (decide_eq_true ((abs_lt_iff h).mpr hn)), saturateInt64_of_wholeValue h]

theorem rendered_whole (h : wholeValue? x = some n) (hn : n.natAbs ≤ 2 ^ 63) :
    rendered.number x = (toString (clampInt64 n)).toList := by
  obtain ⟨d, hd, -⟩ := wholeValue?_eq_some_iff.mp h
  unfold rendered jsonNumberText
  dsimp only
  rw [hd, int64Value?_eq_some_iff.mpr ⟨n, h, hn, rfl⟩]

/-- Displayed whole numbers come back when cutting them to 64 bits keeps them. -/
theorem roundTrips_display_whole (h : wholeValue? x = some n) (hn : n.natAbs < 10 ^ 20) :
    RoundTrips Value.display (.number x) ↔ n.natAbs ≤ 2 ^ 63 := by
  have hread := takeNumber?_toString (clampInt64_bounds n)
  rw [← displayed_whole h hn] at hread
  rw [displayed_sound.roundTrips_number_iff displayed_prints.toList (isFinite_of_wholeValue h)
    hread]
  exact numberOfInt_clampInt64_beq_iff h

/-- A 64-bit integer comes back from its JSON text. -/
theorem roundTrips_render_whole (h : wholeValue? x = some n) (hn : n.natAbs ≤ 2 ^ 63) :
    RoundTrips render (.number x) := by
  have hread := takeNumber?_toString (clampInt64_bounds n)
  rw [← rendered_whole h hn] at hread
  rw [rendered_sound.roundTrips_number_iff rendered_prints.toList (isFinite_of_wholeValue h) hread]
  exact (numberOfInt_clampInt64_beq_iff h).mpr hn

/-- A 64-bit integer comes back from either text, and the texts are the same. -/
theorem int64_texts (h : int64Value? x = some k) :
    RoundTrips Value.display (.number x) ∧ RoundTrips render (.number x) ∧
      parse? (Value.display (.number x)) = parse? (render (.number x)) := by
  obtain ⟨n, hwhole, hn, -⟩ := int64Value?_eq_some_iff.mp h
  refine ⟨(roundTrips_display_whole hwhole (by omega)).mpr hn,
    roundTrips_render_whole hwhole hn, ?_⟩
  congr 1
  rw [← String.toList_inj, displayed_prints.toList, rendered_prints.toList, Writer.write,
    Writer.write, displayed_whole hwhole (by omega), rendered_whole hwhole hn]

end

/-- Few digits, and a power of ten that is a number itself. -/
def ShortDecimal (tie : TieRule) (x : Float) : Prop :=
  ∃ d, Dyadic.ofFloat? x = some d ∧ (d.shortest tie).digits < 2 ^ 53 ∧
    (d.shortest tie).exponent.natAbs < 23

/-- A number in few digits comes back from a text that spells these digits. -/
theorem Writer.Sound.roundTrips_of_spelled {w : Writer} (hw : w.Sound) {print : Value → String}
    (hprint : ∀ v, (print v).toList = w.write v) {x : Float} {d : Dyadic} {tie : TieRule}
    (hd : Dyadic.ofFloat? x = some d) (hm : 0 < d.mantissa)
    (hspelled : Spelled (w.number x) d.negative (d.shortest tie))
    (hdigits : (d.shortest tie).digits < 2 ^ 53)
    (hexponent : (d.shortest tie).exponent.natAbs < 23) :
    RoundTrips print (.number x) := by
  have hproper := Dyadic.Proper.of_ofFloat? hd
  have hfinite : x.isFinite = true := by
    rw [Dyadic.isFinite_eq, hd]
    rfl
  obtain ⟨n, hn, hform⟩ := hspelled.takeNumber?_of_lt hproper hm rfl
    (Dyadic.shortest_rounds hm hproper tie) hdigits hexponent
  rw [hw.roundTrips_number_iff hprint hfinite hn, Dyadic.ofFloat?_inj hform hd]
  exact (Dyadic.beq_iff hd hd).mpr (.inl rfl)

/-- A number that a natural number is rounded to is whole. -/
theorem wholeValue?_of_rounds {x : Float} {d : Dyadic} (hd : Dyadic.ofFloat? x = some d)
    (hm : 0 < d.mantissa) {n : ℕ} (h : d.Rounds n) (hn : n.log2 < 1023) :
    ∃ k, wholeValue? x = some k ∧ k.natAbs ≤ 2 * n := by
  have hproper := Dyadic.Proper.of_ofFloat? hd
  have hpos : 0 < n := by
    apply Nat.pos_of_ne_zero
    exact Dyadic.Rounds.ne_zero hproper hm (p := 1) (by rwa [mul_one])
  obtain ⟨k, hk, hsign⟩ : ∃ k : ℤ, k.natAbs = n ∧ d.negative = decide (k < 0) := by
    cases hneg : d.negative
    · exact ⟨n, Int.natAbs_natCast n, (decide_eq_false (by omega)).symm⟩
    · exact ⟨-n, by omega, (decide_eq_true (by omega)).symm⟩
  have hunsigned : d.unsigned.Rounds k.natAbs := by
    rw [hk]
    exact ⟨h.lower, h.upper, h.odd⟩
  have hform := hunsigned.ofFloat?_numberOfInt hproper.unsigned hm rfl
  rw [Dyadic.signedBy_unsigned hsign] at hform
  rw [Dyadic.ofFloat?_inj hd hform, wholeValue?_numberOfInt (by rwa [hk])]
  refine ⟨_, rfl, ?_⟩
  rw [Int.natAbs_mul, Int.natAbs_sign_of_ne_zero (by omega), one_mul, Int.natAbs_natCast, hk]
  exact Dyadic.nearestWhole_le n

section

variable {x : Float}

/-- Digits that reach the point are those of a 64-bit integer. -/
theorem exponent_neg_of_leading {d : Dyadic} (hd : Dyadic.ofFloat? x = some d)
    (hint : int64Value? x = none) (hleading : (d.shortest .even).leading < 16) :
    (d.shortest .even).exponent < 0 := by
  have hm := mantissa_pos_of_int64Value hd hint
  have hproper := Dyadic.Proper.of_ofFloat? hd
  have hrounds := Dyadic.shortest_rounds hm hproper .even
  have hpos := shortest_digits_pos hd hm .even
  have hdigits := (length_toDigits_bounds hpos).2
  by_contra hexponent
  rw [Decimal.value_of_nonneg (by omega)] at hrounds
  unfold Decimal.leading at hleading
  have hsmall : (d.shortest .even).digits * 10 ^ (d.shortest .even).exponent.toNat < 10 ^ 16 := by
    calc (d.shortest .even).digits * 10 ^ (d.shortest .even).exponent.toNat
        < 10 ^ (Nat.toDigits 10 (d.shortest .even).digits).length *
            10 ^ (d.shortest .even).exponent.toNat :=
          Nat.mul_lt_mul_of_pos_right hdigits (by positivity)
      _ = 10 ^ ((Nat.toDigits 10 (d.shortest .even).digits).length +
            (d.shortest .even).exponent.toNat) := (pow_add ..).symm
      _ ≤ 10 ^ 16 := Nat.pow_le_pow_right (by norm_num) (by omega)
  have hlog := (Nat.log2_lt (by positivity)).mpr (hsmall.trans (show 10 ^ 16 < 2 ^ 54 by norm_num))
  obtain ⟨k, hwhole, hk⟩ := wholeValue?_of_rounds hd hm hrounds (by omega)
  rw [int64Value?_eq_some_iff.mpr ⟨k, hwhole, by omega, rfl⟩] at hint
  cases hint

/-- A number in few digits comes back from its JSON text. -/
theorem ShortDecimal.roundTrips_render (h : ShortDecimal .even x) :
    RoundTrips render (.number x) := by
  cases hint : int64Value? x with
  | some k => exact (int64_texts hint).2.1
  | none =>
    obtain ⟨d, hd, hdigits, hexponent⟩ := h
    have hm := mantissa_pos_of_int64Value hd hint
    have hpos := shortest_digits_pos hd hm .even
    apply rendered_sound.roundTrips_of_spelled rendered_prints.toList hd hm _ hdigits hexponent
    have htext : rendered.number x = withSign d.negative
        (if -5 ≤ (d.shortest .even).leading ∧ (d.shortest .even).leading < 16 then
          (d.shortest .even).positional else (d.shortest .even).scientific) := by
      unfold rendered jsonNumberText
      dsimp only
      rw [hd, hint]
      exact String.toList_ofList
    rw [htext]
    split
    · rename_i hleading
      exact spelled_positional_of_neg _ hpos (exponent_neg_of_leading hd hint hleading.2)
    · exact spelled_scientific _ hpos

/-- A number in few digits with a fractional part comes back from its displayed text. -/
theorem ShortDecimal.roundTrips_display (h : ShortDecimal .up x) (hwhole : wholeValue? x = none) :
    RoundTrips Value.display (.number x) := by
  obtain ⟨d, hd, hdigits, hexponent⟩ := h
  have hm := mantissa_pos_of_wholeValue hd hwhole
  have hproper := Dyadic.Proper.of_ofFloat? hd
  have hrounds := Dyadic.shortest_rounds hm hproper .up
  have hneg : (d.shortest .up).exponent < 0 := by
    by_contra hnonneg
    rw [Decimal.value_of_nonneg (by omega)] at hrounds
    have hbound : (d.shortest .up).digits * 10 ^ (d.shortest .up).exponent.toNat < 2 ^ 127 := by
      calc (d.shortest .up).digits * 10 ^ (d.shortest .up).exponent.toNat
          ≤ 2 ^ 53 * 10 ^ 22 :=
            Nat.mul_le_mul hdigits.le (Nat.pow_le_pow_right (by norm_num) (by omega))
        _ < 2 ^ 127 := by norm_num
    have hpos := shortest_digits_pos hd hm .up
    have hlog := (Nat.log2_lt (by positivity)).mpr hbound
    obtain ⟨k, hk, -⟩ := wholeValue?_of_rounds hd hm hrounds (by omega)
    rw [hk] at hwhole
    cases hwhole
  apply displayed_sound.roundTrips_of_spelled displayed_prints.toList hd hm _ hdigits hexponent
  have htext : displayed.number x = withSign d.negative (d.shortest .up).positional := by
    unfold displayed finiteText positionalText
    dsimp only
    rw [isWholeNumber, hwhole, Option.isSome_none, Bool.false_and, if_neg Bool.false_ne_true, hd]
    exact String.toList_ofList
  rw [htext]
  exact spelled_positional_of_neg _ (shortest_digits_pos hd hm .up) hneg

end

/-! ## Texts that denote the same value -/

namespace Writer

variable {w u : Writer}

theorem rereadItems_congr {items : List Value}
    (h : ∀ v ∈ items, (w.reread v).map Document.value = (u.reread v).map Document.value) :
    (w.rereadItems items).map Document.itemValues =
      (u.rereadItems items).map Document.itemValues := by
  have hcons (w : Writer) (v : Value) (vs : List Value) :
      (w.rereadItems (v :: vs)).map Document.itemValues =
        ((w.reread v).map Document.value).bind fun a =>
          ((w.rereadItems vs).map Document.itemValues).map (a :: ·) := by
    rw [rereadItems]
    cases w.reread v <;> cases w.rereadItems vs <;> rfl
  induction items with
  | nil => rfl
  | cons v vs ih =>
    rw [hcons, hcons, h v List.mem_cons_self, ih fun v hv => h v (List.mem_cons_of_mem _ hv)]

theorem rereadEntries_congr {entries : Entries}
    (h : ∀ e ∈ entries, (w.reread e.2).map Document.value = (u.reread e.2).map Document.value) :
    (w.rereadEntries entries).map Document.entryValues =
      (u.rereadEntries entries).map Document.entryValues := by
  have hcons (w : Writer) (k : String) (v : Value) (es : Entries) :
      (w.rereadEntries ((k, v) :: es)).map Document.entryValues =
        ((w.reread v).map Document.value).bind fun a =>
          ((w.rereadEntries es).map Document.entryValues).map ((k, a) :: ·) := by
    rw [rereadEntries]
    cases w.reread v <;> cases w.rereadEntries es <;> rfl
  induction entries with
  | nil => rfl
  | cons e es ih =>
    obtain ⟨k, v⟩ := e
    rw [hcons, hcons, h (k, v) List.mem_cons_self, ih fun e he => h e (List.mem_cons_of_mem _ he)]

/-- Two writers denote the same value when they denote the same numbers. -/
theorem reread_congr {v : Value}
    (h : ∀ x ∈ v.numbers, (w.reread (.number x)).map Document.value =
      (u.reread (.number x)).map Document.value) :
    (w.reread v).map Document.value = (u.reread v).map Document.value := by
  induction v using Value.induction with
  | null => rfl
  | bool b => rfl
  | number x => exact h x List.mem_cons_self
  | text s => rfl
  | list items ih =>
    have hitems := rereadItems_congr fun v hv =>
      ih v hv fun x hx => h x (Value.mem_itemNumbers.mpr ⟨v, hv, hx⟩)
    have hlist (w : Writer) : (w.reread (.list items)).map Document.value =
        ((w.rereadItems items).map Document.itemValues).map Value.list := by
      rw [reread]
      cases w.rereadItems items <;> rfl
    rw [hlist, hlist, hitems]
  | map entries ih =>
    have hentries := rereadEntries_congr fun e he =>
      ih e he fun x hx => h x (Value.mem_entryNumbers.mpr ⟨e, he, hx⟩)
    have hmap (w : Writer) : (w.reread (.map entries)).map Document.value =
        ((w.rereadEntries entries).map Document.entryValues).map Value.map := by
      rw [reread]
      cases w.rereadEntries entries <;> rfl
    rw [hmap, hmap, hentries]

end Writer

theorem parse?_display_eq {v : Value} (hkeyed : v.Keyed) (hdepth : v.depth ≤ maxDepth)
    (h : ∀ x ∈ v.numbers, parse? (Value.display (.number x)) = parse? (render (.number x))) :
    parse? v.display = parse? (render v) := by
  rw [displayed_sound.parse?_print displayed_prints.toList hkeyed hdepth,
    rendered_sound.parse?_print rendered_prints.toList hkeyed hdepth]
  apply Writer.reread_congr
  intro x hx
  rw [← displayed_sound.parse?_print displayed_prints.toList .number (Nat.zero_le _),
    ← rendered_sound.parse?_print rendered_prints.toList .number (Nat.zero_le _), h x hx]

end Json

/-! ## Numbers as texts -/

/-- Numerals are written in graphic characters. -/
theorem Spelled.graphic {cs : List Char} {negative : Bool} {x : Decimal}
    (h : Spelled cs negative x) : ∀ c ∈ cs, Graphic c := by
  obtain ⟨s, hlegal, rfl, -, -⟩ := h
  have hfraction : ∀ c ∈ s.fractionText, Graphic c := by
    unfold Spelling.fractionText
    split
    · intro c hc
      cases hc
    · exact List.forall_mem_cons.mpr ⟨by decide, hlegal.fraction.graphic⟩
  have hexponent : ∀ c ∈ s.exponentText, Graphic c := by
    unfold Spelling.exponentText
    split
    · intro c hc
      cases hc
    · rename_i negative digits hsome
      refine List.forall_mem_cons.mpr ⟨by decide, List.forall_mem_cons.mpr ⟨?_, ?_⟩⟩
      · cases negative <;> decide
      · exact (hlegal.exponent _ hsome).1.graphic
  have hmagnitude : ∀ c ∈ s.magnitudeText, Graphic c := by
    unfold Spelling.magnitudeText
    intro c hc
    rcases List.mem_append.mp hc with hc | hc
    · exact hlegal.whole.graphic c hc
    · rcases List.mem_append.mp hc with hc | hc
      · exact hfraction c hc
      · exact hexponent c hc
  unfold Spelling.text
  split
  · exact List.forall_mem_cons.mpr ⟨by decide, hmagnitude⟩
  · exact hmagnitude

namespace Json

/-- The text of a number is read as a number, the same one unless it was cut to 64 bits. -/
theorem float_string {x : Float} (hx : x.isFinite = true) :
    ∃ y, Conversion.float [Conversion.string [.number x]] = .ok (.number y) ∧
      ((y == x) = true ↔ ¬ CutToInt64 x) := by
  obtain ⟨y, hread, hy⟩ := readNumber?_finiteText hx
  rw [Dyadic.isFinite_eq, Option.isSome_iff_exists] at hx
  obtain ⟨d, hd⟩ := hx
  obtain ⟨negative, z, hspelled⟩ := exists_spelled_finiteText hd
  have htext : numberText x = finiteText x := by
    rw [numberText, Dyadic.isNaN_of_ofFloat? hd, Dyadic.isInf_of_ofFloat? hd,
      if_neg Bool.false_ne_true, if_neg Bool.false_ne_true]
  refine ⟨y, ?_, hy⟩
  change (Conversion.numberOf (.text (numberText x))).map Value.number = _
  rw [htext, Conversion.numberOf, trimChars_of_graphic hspelled.graphic, hread]
  rfl

/-- What the language writes as JSON and reads again. -/
theorem json_jsonStringify_iff (v u : Value) :
    Conversion.json [Conversion.jsonStringify [v]] = .ok u ↔ parse? (render v) = some u := by
  have htext : (argument [Conversion.jsonStringify [v]] 0).textOrEmpty = render v := rfl
  rw [Conversion.json, htext]
  cases parse? (render v) <;> simp

/-- **JSON gives a value back** when it gives back each number that is no 64-bit integer, numbers in
few digits among them.  The functions of the language write and read the same text. -/
theorem roundTrips_render_iff {v : Value} (hkeyed : v.Keyed) (hdepth : v.depth ≤ 127) :
    (RoundTrips render v ↔
      ∀ x ∈ v.numbers, int64Value? x = none → RoundTrips render (.number x)) ∧
    ((∀ x ∈ v.numbers, int64Value? x = none → ShortDecimal .even x) → RoundTrips render v) ∧
    ∀ u, Conversion.json [Conversion.jsonStringify [v]] = .ok u ↔ parse? (render v) = some u := by
  have hnumbers := rendered_sound.roundTrips_iff rendered_prints.toList hkeyed hdepth
  refine ⟨?_, ?_, ?_⟩
  · rw [hnumbers]
    constructor
    · exact fun h x hx _ => h x hx
    · intro h x hx
      cases hint : int64Value? x with
      | none => exact h x hx hint
      | some k => exact (int64_texts hint).2.1
  · intro h
    rw [hnumbers]
    intro x hx
    cases hint : int64Value? x with
    | none => exact (h x hx hint).roundTrips_render
    | some k => exact (int64_texts hint).2.1
  · exact json_jsonStringify_iff v

/-- A list of a number in few digits, an integer and a text that needs escapes. -/
theorem roundTrips_render_list :
    RoundTrips render (.list [.number 2.5, .number (-7), .text "\n\""]) := by
  have hkeyed : (Value.list [.number 2.5, .number (-7), .text "\n\""]).Keyed := by
    refine .list ?_
    simp only [List.forall_mem_cons, List.not_mem_nil, false_imp_iff, implies_true, and_true]
    exact ⟨.number, .number, .text⟩
  apply (roundTrips_render_iff hkeyed (by decide)).2.1
  simp only [Value.numbers, Value.itemNumbers, List.cons_append, List.nil_append,
    List.forall_mem_cons, List.not_mem_nil, false_imp_iff, implies_true, and_true]
  constructor
  · exact fun _ => ⟨⟨false, 5629499534213120, -51⟩, by decide +kernel, by decide +kernel,
      by decide +kernel⟩
  · intro hnone
    rw [show int64Value? (-7) = some (-7) by decide +kernel] at hnone
    cases hnone

/-- An integer beyond 64 bits that comes back as its neighbour. -/
theorem json_misses_last_place :
    (Float.ofBits 4915399253146971329).isFinite = true ∧
    render (.number (Float.ofBits 4915399253146971329)) = "4.2438880874533283e+20" ∧
    Conversion.json [Conversion.jsonStringify [.number (Float.ofBits 4915399253146971329)]] =
      .ok (.number (Float.ofBits 4915399253146971328)) ∧
    ¬ RoundTrips render (.number (Float.ofBits 4915399253146971329)) := by
  have hfinite : (Float.ofBits 4915399253146971329).isFinite = true := by decide +kernel
  have htext : jsonNumberText (Float.ofBits 4915399253146971329) = "4.2438880874533283e+20" := by
    decide +kernel
  have hread : (takeNumber? "4.2438880874533283e+20".toList).map (·.1.toFloat) =
      some (Float.ofBits 4915399253146971328) := by
    decide +kernel
  obtain ⟨⟨n, rest⟩, hn, hnumber⟩ := Option.map_eq_some_iff.mp hread
  have hwritten : takeNumber? (rendered.number (Float.ofBits 4915399253146971329)) =
      some (n, rest) := by
    rw [← hn, ← htext]
    rfl
  refine ⟨hfinite, htext, ?_, ?_⟩
  · rw [json_jsonStringify_iff,
      rendered_sound.parse?_number rendered_prints.toList hfinite hwritten, hnumber]
  · rw [rendered_sound.roundTrips_number_iff rendered_prints.toList hfinite hwritten, hnumber]
    decide +kernel

/-- **The displayed text gives a value back** when it gives back each number that is no 64-bit
integer; no whole number that was cut to 64 bits comes back, numbers in few digits do.  It denotes
what the JSON text denotes when this holds of each number, and the language reads the text of every
other finite number as that number. -/
theorem roundTrips_display_iff {v : Value} (hkeyed : v.Keyed) (hdepth : v.depth ≤ 127) :
    (RoundTrips Value.display v ↔
      ∀ x ∈ v.numbers, int64Value? x = none → RoundTrips Value.display (.number x)) ∧
    (RoundTrips Value.display v → ∀ x ∈ v.numbers, ¬ CutToInt64 x) ∧
    ((∀ x ∈ v.numbers, int64Value? x = none → wholeValue? x = none ∧ ShortDecimal .up x) →
      RoundTrips Value.display v) ∧
    ((∀ x ∈ v.numbers, int64Value? x = none →
        parse? (Value.display (.number x)) = parse? (render (.number x))) →
      parse? v.display = parse? (render v)) ∧
    ∀ x : Float, x.isFinite = true →
      ∃ y, Conversion.float [Conversion.string [.number x]] = .ok (.number y) ∧
        ((y == x) = true ↔ ¬ CutToInt64 x) := by
  have hnumbers := displayed_sound.roundTrips_iff displayed_prints.toList hkeyed hdepth
  refine ⟨?_, ?_, ?_, ?_, ?_⟩
  · rw [hnumbers]
    constructor
    · exact fun h x hx _ => h x hx
    · intro h x hx
      cases hint : int64Value? x with
      | none => exact h x hx hint
      | some k => exact (int64_texts hint).1
  · intro h x hx hcut
    obtain ⟨k, hwhole, hlarge, hsmall⟩ := hcut
    have := (roundTrips_display_whole hwhole hsmall).mp (hnumbers.mp h x hx)
    omega
  · intro h
    rw [hnumbers]
    intro x hx
    cases hint : int64Value? x with
    | none =>
      obtain ⟨hwhole, hshort⟩ := h x hx hint
      exact hshort.roundTrips_display hwhole
    | some k => exact (int64_texts hint).1
  · intro h
    apply parse?_display_eq hkeyed hdepth
    intro x hx
    cases hint : int64Value? x with
    | none => exact h x hx hint
    | some k => exact (int64_texts hint).2.2
  · intro x hx
    exact float_string hx

/-- An entry with a number in few digits. -/
theorem roundTrips_display_entry : RoundTrips Value.display (.map [("rate", .number 0.1)]) := by
  have hkeyed : (Value.map [("rate", .number 0.1)]).Keyed := by
    refine .map (by decide) ?_
    simp only [List.forall_mem_cons, List.not_mem_nil, false_imp_iff, implies_true, and_true]
    exact .number
  apply (roundTrips_display_iff hkeyed (by decide)).2.2.1
  simp only [Value.numbers, Value.entryNumbers, List.append_nil, List.forall_mem_cons,
    List.not_mem_nil, false_imp_iff, implies_true, and_true]
  exact fun _ => ⟨by decide +kernel, ⟨false, 7205759403792794, -56⟩, by decide +kernel,
    by decide +kernel, by decide +kernel⟩

/-- A whole number that is displayed as another one. -/
theorem display_cuts_whole_number :
    (1e19 : Float).isFinite = true ∧
    Conversion.string [.number 1e19] = .text "9223372036854775807" ∧
    ¬ RoundTrips Value.display (.number 1e19) := by
  have hwhole : wholeValue? 1e19 = some (10 ^ 19) := by decide +kernel
  refine ⟨by decide +kernel, ?_, ?_⟩
  · exact congrArg Value.text (show numberText 1e19 = "9223372036854775807" by decide +kernel)
  · rw [roundTrips_display_whole hwhole (by decide)]
    decide

end Json

end StateExpr
