import StateExpr.Number.Text
import StateExpr.Proofs.Number.Shortest
import StateExpr.Proofs.Number.Spelling
/-!
# The texts of numbers read back

What is written for a number is a spelled decimal: its shortest digits in one of two layouts, or an
integer.  Reading rounds that decimal once, so the shortest digits of a number always come back as
the number.  Integers come back whenever they fit; what the language writes for whole numbers
between `2 ^ 63` and `10 ^ 20` has been cut to 64 bits before and does not.

Main statements:

* `spelled_positional`, `spelled_scientific`: both layouts spell the decimal;
* `Spelled.readNumber?`, `Spelled.takeNumber?`: what the two readers make of a spelled text;
* `readNumber?_positionalText`: shortest digits read back;
* `readNumber?_finiteText`: the language's own text reads back unless it was cut.
-/

namespace StateExpr

/-- The digits of a positive number start with none that is zero. -/
theorem exists_toDigits_cons {n : ℕ} (h : 0 < n) :
    ∃ c cs, Nat.toDigits 10 n = c :: cs ∧ c ≠ '0' := by
  have hall := allDigits_toDigits n
  have hvalue := digitsValue_toDigits n
  have hlower := (length_toDigits_bounds h).1
  obtain ⟨c, cs, hcons⟩ := List.exists_cons_of_ne_nil (Nat.toDigits_ne_nil (n := n) (b := 10))
  rw [hcons] at hall hvalue hlower
  refine ⟨c, cs, hcons, ?_⟩
  rintro rfl
  have hlt := AllDigits.digitsValue_lt (fun b hb => hall b (List.mem_cons_of_mem '0' hb))
  have hzero : digitsValue ('0' :: cs) = digitsValue cs := rfl
  rw [List.length_cons, Nat.add_sub_cancel] at hlower
  omega

/-- The text of an integer is its digits with its sign. -/
theorem toList_toString_int (k : ℤ) :
    (toString k).toList = withSign (decide (k < 0)) (Nat.toDigits 10 k.natAbs) := by
  cases k with
  | ofNat n =>
    change (toString n).toList = _
    rw [Nat.toString_eq_ofList_toDigits, String.toList_ofList]
    rfl
  | negSucc n =>
    change ("-" ++ toString (n + 1)).toList = _
    have hsign : "-".toList = ['-'] := rfl
    rw [String.toList_append, hsign, Nat.toString_eq_ofList_toDigits, String.toList_ofList,
      decide_eq_true (Int.negSucc_lt_zero n)]
    rfl

namespace Spelling

/-- All digits, and the place of the last one. -/
def decimal (s : Spelling) : Decimal :=
  ⟨digitsValue (s.whole ++ s.fraction), s.power - s.fraction.length⟩

end Spelling

/-- A text that spells a decimal with a sign. -/
def Spelled (cs : List Char) (negative : Bool) (x : Decimal) : Prop :=
  ∃ s : Spelling, s.Legal ∧ s.text = cs ∧ s.negative = negative ∧ s.decimal = x

/-- Digits alone. -/
def Spelling.ofWhole (negative : Bool) (whole : List Char) : Spelling := ⟨negative, whole, [], none⟩

theorem Spelling.text_ofWhole (negative : Bool) (whole : List Char) :
    (ofWhole negative whole).text = withSign negative whole := by
  simp [ofWhole, text, magnitudeText, fractionText, exponentText, withSign]

theorem Spelling.legal_ofWhole (negative : Bool) {whole : List Char} (h : AllDigits whole)
    (hleading : whole = ['0'] ∨ ∃ c cs, whole = c :: cs ∧ c ≠ '0') :
    (ofWhole negative whole).Legal := by
  refine ⟨h, hleading, ?_, ?_⟩
  · intro c hc
    cases hc
  · intro p hp
    cases hp

theorem spelled_whole (negative : Bool) {whole : List Char} (h : AllDigits whole)
    (hleading : whole = ['0'] ∨ ∃ c cs, whole = c :: cs ∧ c ≠ '0') :
    Spelled (withSign negative whole) negative ⟨digitsValue whole, 0⟩ := by
  refine ⟨_, Spelling.legal_ofWhole negative h hleading,
    Spelling.text_ofWhole negative whole, rfl, ?_⟩
  simp [Spelling.decimal, Spelling.power, Spelling.ofWhole]

/-- Digits on both sides of a point. -/
theorem spelled_fraction (negative : Bool) {whole fraction : List Char} (h : AllDigits whole)
    (hleading : whole = ['0'] ∨ ∃ c cs, whole = c :: cs ∧ c ≠ '0') (hfraction : AllDigits fraction)
    (hne : fraction ≠ []) :
    Spelled (withSign negative (whole ++ '.' :: fraction)) negative
      ⟨digitsValue (whole ++ fraction), -(fraction.length : ℤ)⟩ := by
  refine ⟨⟨negative, whole, fraction, none⟩, ⟨h, hleading, hfraction, ?_⟩, ?_, rfl, ?_⟩
  · intro p hp
    cases hp
  · simp [Spelling.text, Spelling.magnitudeText, Spelling.fractionText, Spelling.exponentText,
      withSign, hne]
  · simp [Spelling.decimal, Spelling.power]

theorem toDigits_leading (n : ℕ) :
    Nat.toDigits 10 n = ['0'] ∨ ∃ c cs, Nat.toDigits 10 n = c :: cs ∧ c ≠ '0' := by
  rcases Nat.eq_zero_or_pos n with rfl | hpos
  · exact .inl (Nat.toDigits_zero 10)
  · exact .inr (exists_toDigits_cons hpos)

theorem spelled_digits (negative : Bool) (n : ℕ) :
    Spelled (withSign negative (Nat.toDigits 10 n)) negative ⟨n, 0⟩ := by
  have hspelled := spelled_whole negative (allDigits_toDigits n) (toDigits_leading n)
  rwa [digitsValue_toDigits] at hspelled

/-- Digits that reach the point are followed by zeros. -/
theorem spelled_positional_of_nonneg (negative : Bool) {x : Decimal} (h : 0 < x.digits)
    (hexponent : 0 ≤ x.exponent) :
    Spelled (withSign negative x.positional) negative
      ⟨x.digits * 10 ^ x.exponent.toNat, 0⟩ := by
  obtain ⟨c, cs, hcons, hc⟩ := exists_toDigits_cons h
  have hspelled := spelled_whole negative
    ((allDigits_toDigits x.digits).append (allDigits_replicate_zero x.exponent.toNat))
    (.inr ⟨c, _, by rw [hcons]; rfl, hc⟩)
  rw [digitsValue_append, digitsValue_replicate_zero, digitsValue_toDigits, List.length_replicate,
    Nat.add_zero] at hspelled
  unfold Decimal.positional
  dsimp only
  rwa [if_pos hexponent]

theorem spelled_positional_of_neg (negative : Bool) {x : Decimal} (h : 0 < x.digits)
    (hexponent : x.exponent < 0) : Spelled (withSign negative x.positional) negative x := by
  obtain ⟨c, cs, hcons, hc⟩ := exists_toDigits_cons h
  have hdigits := allDigits_toDigits x.digits
  have hvalue := digitsValue_toDigits x.digits
  have hplace : (⟨x.digits, -((-x.exponent).toNat : ℤ)⟩ : Decimal) = x := by
    rw [show -((-x.exponent).toNat : ℤ) = x.exponent by omega]
  unfold Decimal.positional
  dsimp only
  rw [if_neg (by omega)]
  by_cases hbehind : (-x.exponent).toNat < (Nat.toDigits 10 x.digits).length
  · obtain ⟨n, hn⟩ : ∃ n, (Nat.toDigits 10 x.digits).length - (-x.exponent).toNat = n + 1 :=
      Nat.exists_eq_succ_of_ne_zero (by omega)
    have hlength : ((Nat.toDigits 10 x.digits).drop (n + 1)).length = (-x.exponent).toNat := by
      rw [List.length_drop]
      omega
    have hspelled := spelled_fraction negative (hdigits.take (n + 1))
      (.inr ⟨c, cs.take n, by rw [hcons]; rfl, hc⟩) (hdigits.drop (n + 1))
      (List.ne_nil_of_length_pos (by omega))
    rw [List.take_append_drop, hvalue, hlength, hplace] at hspelled
    rwa [if_pos hbehind, hn]
  · have hlength : (List.replicate ((-x.exponent).toNat - (Nat.toDigits 10 x.digits).length) '0' ++
        Nat.toDigits 10 x.digits).length = (-x.exponent).toNat := by
      rw [List.length_append, List.length_replicate]
      omega
    have hspelled := spelled_fraction negative (allDigits_replicate_zero 1) (.inl rfl)
      ((allDigits_replicate_zero ((-x.exponent).toNat - (Nat.toDigits 10 x.digits).length)).append
        hdigits) (List.ne_nil_of_length_pos (by omega))
    rw [digitsValue_append, digitsValue_append, digitsValue_replicate_zero,
      digitsValue_replicate_zero, hvalue, hlength, Nat.zero_mul, Nat.zero_mul, Nat.zero_add,
      Nat.zero_add, hplace] at hspelled
    rw [if_neg hbehind]
    exact hspelled

theorem Decimal.value_of_nonneg {x : Decimal} (h : 0 ≤ x.exponent) :
    x.value = (x.digits * 10 ^ x.exponent.toNat : ℕ) := by
  have hpower : (10 : ℚ) ^ x.exponent = 10 ^ x.exponent.toNat := by
    rw [← zpow_natCast, Int.toNat_of_nonneg h]
  rw [Decimal.value, hpower]
  exact_mod_cast rfl

theorem spelled_positional (negative : Bool) {x : Decimal} (h : 0 < x.digits) :
    ∃ y, Spelled (withSign negative x.positional) negative y ∧ y.value = x.value := by
  by_cases hexponent : 0 ≤ x.exponent
  · refine ⟨_, spelled_positional_of_nonneg negative h hexponent, ?_⟩
    rw [Decimal.value_of_nonneg hexponent, Decimal.value, zpow_zero, mul_one]
  · exact ⟨x, spelled_positional_of_neg negative h (by omega), rfl⟩

theorem spelled_scientific (negative : Bool) {x : Decimal} (h : 0 < x.digits) :
    Spelled (withSign negative x.scientific) negative x := by
  obtain ⟨c, cs, hcons, hc⟩ := exists_toDigits_cons h
  have hdigits := allDigits_toDigits x.digits
  have hvalue := digitsValue_toDigits x.digits
  have hlength : (Nat.toDigits 10 x.digits).length = cs.length + 1 := by
    rw [hcons, List.length_cons]
  rw [hcons] at hdigits hvalue
  have hpower : (if decide (x.leading < 0) = true then
      -(digitsValue (Nat.toDigits 10 x.leading.natAbs) : ℤ)
      else digitsValue (Nat.toDigits 10 x.leading.natAbs)) = x.exponent + cs.length := by
    rw [digitsValue_toDigits]
    unfold Decimal.leading
    rw [hlength]
    split <;> rename_i hsign <;> rw [decide_eq_true_iff] at hsign <;> omega
  refine ⟨⟨negative, [c], cs, some (decide (x.leading < 0), Nat.toDigits 10 x.leading.natAbs)⟩,
    ⟨fun b hb => hdigits b ?_, .inr ⟨c, [], rfl, hc⟩, fun b hb => hdigits b ?_, ?_⟩, ?_, rfl, ?_⟩
  · exact List.mem_cons.mpr (.inl (List.mem_singleton.mp hb))
  · exact List.mem_cons_of_mem c hb
  · rintro p ⟨⟩
    exact ⟨allDigits_toDigits _, Nat.toDigits_ne_nil⟩
  · unfold Spelling.text Spelling.magnitudeText Spelling.fractionText Spelling.exponentText
      Decimal.scientific withSign
    rw [hcons]
    cases cs with
    | nil => simp
    | cons b bs => simp
  · unfold Spelling.decimal Spelling.power
    dsimp only
    rw [hpower, List.singleton_append, hvalue, Int.add_sub_cancel]

/-! ## What the readers make of a spelled text -/

section

variable {cs : List Char} {negative : Bool} {y : Decimal} (h : Spelled cs negative y)
include h

/-- A spelled text starts with a minus or a digit. -/
theorem Spelled.exists_head : ∃ c rest, cs = c :: rest ∧ (c = '-' ∨ c.isDigit = true) := by
  obtain ⟨s, hlegal, rfl, -, -⟩ := h
  obtain ⟨c, rest, hcons, hdigit⟩ := hlegal.exists_head []
  rw [List.append_nil] at hcons
  unfold Spelling.text
  by_cases hneg : s.negative = true
  · rw [if_pos hneg]
    exact ⟨'-', _, rfl, .inl rfl⟩
  · rw [if_neg hneg]
    exact ⟨c, rest, hcons, .inr hdigit⟩

/-- A text is read as the number in whose interval the decimal lies. -/
theorem Spelled.readNumber? {d : Dyadic} (hd : d.Proper) (hm : 0 < d.mantissa)
    (hsign : d.negative = negative) (hr : d.Rounds y.value) :
    ∃ x, readNumber? cs = some x ∧ Dyadic.ofFloat? x = some d := by
  obtain ⟨s, hlegal, rfl, rfl, rfl⟩ := h
  have hunsigned : d.unsigned.Rounds s.decimal.value := ⟨hr.lower, hr.upper, hr.odd⟩
  have hmagnitude : Dyadic.ofFloat? (nearestNumber (digitsValue (s.whole ++ s.fraction))
      (s.power - s.fraction.length)) = some d.unsigned :=
    hunsigned.ofFloat?_nearestNumber hd.unsigned hm rfl
  refine ⟨_, hlegal.readNumber?_text, ?_⟩
  cases hneg : s.negative
  · rw [if_neg Bool.false_ne_true, hmagnitude, Dyadic.unsigned, ← hneg, ← hsign]
  · rw [if_pos rfl, Dyadic.ofFloat?_neg hmagnitude, Dyadic.unsigned, Dyadic.opposite,
      Bool.not_false, ← hneg, ← hsign]

/-- A text is one number for a reader of JSON, whatever follows it. -/
theorem Spelled.takeNumber? : ∃ n : Option Json.Numeral, ∀ rest, Spelling.NoNumeralHead rest →
    Json.takeNumber? (cs ++ rest) = n.map (·, rest) := by
  obtain ⟨s, hlegal, rfl, -, -⟩ := h
  exact ⟨_, fun rest hr => hlegal.takeNumber?_text hr⟩

end

/-! ## Integers -/

theorem readNumber?_toString {k : ℤ} (hk : k.natAbs.log2 < 1023) :
    readNumber? (toString k).toList = some (numberOfInt k) := by
  by_cases h0 : k = 0
  · subst h0
    decide +kernel
  have hpos := Int.natAbs_pos.mpr h0
  obtain ⟨hnearest, hlog, -⟩ := Dyadic.nearestWhole_spec hpos
  have hproper := Dyadic.ofNat_proper hnearest (by omega)
  have hm : 0 < (Dyadic.ofNat (Dyadic.nearestWhole k.natAbs)).mantissa := by
    have := Dyadic.le_ofNat_mantissa hnearest
    omega
  have hrounds := Dyadic.rounds_nearestWhole (n := k.natAbs)
  have hspelled := spelled_digits (decide (k < 0)) k.natAbs
  rw [← toList_toString_int] at hspelled
  obtain ⟨x, hx, hform⟩ := hspelled.readNumber? (hproper.signedBy k) hm rfl
    (by
      rw [Decimal.value, zpow_zero, mul_one]
      exact ⟨hrounds.lower, hrounds.upper, hrounds.odd⟩)
  rw [hx, Dyadic.ofFloat?_inj hform (hrounds.ofFloat?_numberOfInt hproper hm rfl)]

namespace Dyadic

theorem wholeValue?_of_mantissa_zero {x : Float} {d : Dyadic} (hd : ofFloat? x = some d)
    (hm : d.mantissa = 0) : wholeValue? x = some 0 := by
  rw [wholeValue?_eq_some_iff]
  refine ⟨d, hd, ?_, ?_⟩
  · rw [magnitude, hm]
    simp
  · unfold signed
    split <;> rfl

/-- Equal numbers are the same integer, if they are one. -/
theorem wholeValue?_eq_of_beq {x y : Float} {d c : Dyadic} (hx : ofFloat? x = some d)
    (hy : ofFloat? y = some c) (h : (x == y) = true) : wholeValue? x = wholeValue? y := by
  rcases (beq_iff hx hy).mp h with rfl | ⟨hd, hc⟩
  · rw [ofFloat?_inj hx hy]
  · rw [wholeValue?_of_mantissa_zero hx hd, wholeValue?_of_mantissa_zero hy hc]

end Dyadic

section

variable {x : Float} {k : ℤ} (h : wholeValue? x = some k)
include h

theorem isFinite_of_wholeValue : x.isFinite = true := by
  obtain ⟨d, hd, -⟩ := wholeValue?_eq_some_iff.mp h
  rw [Dyadic.isFinite_eq, hd]
  rfl

theorem beq_self_of_wholeValue : (x == x) = true := by
  obtain ⟨d, hd, -⟩ := wholeValue?_eq_some_iff.mp h
  exact (Dyadic.beq_iff hd hd).mpr (.inl rfl)

/-- An integer that a number is comes back as an equal number. -/
theorem numberOfInt_beq : (numberOfInt k == x) = true := by
  by_cases h0 : k = 0
  · subst h0
    obtain ⟨d, hd, hvalue, -⟩ := wholeValue?_eq_some_iff.mp h
    have hm : d.mantissa = 0 := by
      by_contra hne
      have hpos : 0 < d.magnitude := by
        have : (0 : ℚ) < d.mantissa := by exact_mod_cast Nat.pos_of_ne_zero hne
        exact mul_pos this (by positivity)
      rw [hvalue] at hpos
      exact absurd hpos (by norm_num)
    have hzero : Dyadic.ofFloat? (numberOfInt 0) = some ⟨false, 0, -1074⟩ := by decide +kernel
    exact (Dyadic.beq_iff hzero hd).mpr (.inr ⟨rfl, hm⟩)
  · rw [numberOfInt_wholeValue h h0]
    exact beq_self_of_wholeValue h

/-- A whole number comes back from the closest 64-bit integer when its magnitude is at most
`2 ^ 63`. -/
theorem numberOfInt_clampInt64_beq_iff :
    (numberOfInt (clampInt64 k) == x) = true ↔ k.natAbs ≤ 2 ^ 63 := by
  have hclamp : clampInt64 k = max int64Min (min k int64Max) := rfl
  unfold int64Min int64Max at hclamp
  by_cases hsmall : -2 ^ 63 ≤ k ∧ k < 2 ^ 63
  · rw [show clampInt64 k = k by omega]
    exact iff_of_true (numberOfInt_beq h) (by omega)
  by_cases hend : k = 2 ^ 63
  · have hend' : numberOfInt (clampInt64 (2 ^ 63)) = numberOfInt (2 ^ 63) := by decide +kernel
    subst hend
    rw [hend']
    exact iff_of_true (numberOfInt_beq h) (by decide)
  refine iff_of_false ?_ (by omega)
  intro hbeq
  obtain ⟨d, hd, -⟩ := wholeValue?_eq_some_iff.mp h
  have hvalue : wholeValue? (numberOfInt (clampInt64 k)) = some (2 ^ 63) ∨
      wholeValue? (numberOfInt (clampInt64 k)) = some (-2 ^ 63) := by
    by_cases hpos : 0 < k
    · rw [show clampInt64 k = 2 ^ 63 - 1 by omega]
      exact .inl (by decide +kernel)
    · rw [show clampInt64 k = -2 ^ 63 by omega]
      exact .inr (by decide +kernel)
  rcases hvalue with hvalue | hvalue <;> obtain ⟨c, hc, -⟩ := wholeValue?_eq_some_iff.mp hvalue <;>
    have hsame := Dyadic.wholeValue?_eq_of_beq hc hd hbeq <;>
    rw [hvalue, h, Option.some.injEq] at hsame <;> omega

end

/-! ## The text of a number -/

/-- A whole number beyond 64 bits that is below the bound from which digits are written out. -/
def CutToInt64 (x : Float) : Prop :=
  ∃ k, wholeValue? x = some k ∧ 2 ^ 63 < k.natAbs ∧ k.natAbs < 10 ^ 20

/-- The magnitude of a whole number is compared exactly with a number that is a whole one. -/
theorem abs_lt_iff_of_bound {x bound : Float} {k : ℤ} {n : ℕ} {c : Dyadic}
    (h : wholeValue? x = some k) (hbound : Dyadic.ofFloat? bound = some c)
    (hsign : c.negative = false) (hn : c.magnitude = n) : x.abs < bound ↔ k.natAbs < n := by
  obtain ⟨d, hd, hvalue, -⟩ := wholeValue?_eq_some_iff.mp h
  rw [Dyadic.lt_iff (Dyadic.ofFloat?_abs hd) hbound rfl hsign, hn,
    show d.unsigned.magnitude = k.natAbs from hvalue]
  exact_mod_cast Iff.rfl

theorem abs_lt_iff {x : Float} {k : ℤ} (h : wholeValue? x = some k) :
    x.abs < 1e20 ↔ k.natAbs < 10 ^ 20 := by
  have hbound : Dyadic.ofFloat? 1e20 = some (Dyadic.ofNat (10 ^ 20)) := by decide +kernel
  apply abs_lt_iff_of_bound h hbound rfl
  rw [Dyadic.magnitude_powerOfTen (by decide)]
  exact_mod_cast rfl

theorem saturateInt64_of_wholeValue {x : Float} {k : ℤ} (h : wholeValue? x = some k) :
    saturateInt64 x = clampInt64 k := by
  obtain ⟨d, hd, hvalue, hsigned⟩ := wholeValue?_eq_some_iff.mp h
  unfold saturateInt64
  rw [hd]
  dsimp only
  rw [(Dyadic.whole_of_magnitude hvalue).2, hsigned]

theorem natAbs_clampInt64_le (k : ℤ) : (clampInt64 k).natAbs ≤ 2 ^ 63 := by
  unfold clampInt64 int64Min int64Max
  omega

section

variable {x : Float} {d : Dyadic} (hd : Dyadic.ofFloat? x = some d)
include hd

/-- Zero is written as an integer. -/
theorem mantissa_pos_of_positional (h : ¬ (isWholeNumber x && x.abs < 1e20) = true) :
    0 < d.mantissa := by
  apply Nat.pos_of_ne_zero
  intro hzero
  have hwhole := Dyadic.wholeValue?_of_mantissa_zero hd hzero
  apply h
  rw [isWholeNumber, hwhole, Option.isSome_some, Bool.true_and, decide_eq_true_iff,
    abs_lt_iff hwhole]
  decide

theorem mantissa_pos_of_wholeValue (h : wholeValue? x = none) : 0 < d.mantissa := by
  apply Nat.pos_of_ne_zero
  intro hzero
  rw [Dyadic.wholeValue?_of_mantissa_zero hd hzero] at h
  cases h

theorem mantissa_pos_of_int64Value (h : int64Value? x = none) : 0 < d.mantissa := by
  apply Nat.pos_of_ne_zero
  intro hzero
  unfold int64Value? at h
  rw [Dyadic.wholeValue?_of_mantissa_zero hd hzero] at h
  cases h

theorem shortest_digits_pos (hm : 0 < d.mantissa) (tie : TieRule) :
    0 < (d.shortest tie).digits := by
  have hproper := Dyadic.Proper.of_ofFloat? hd
  have hrounds := Dyadic.shortest_rounds hm hproper tie
  exact Nat.pos_of_ne_zero (hrounds.ne_zero hproper hm)

/-- The text of a finite number in the language is a spelled decimal. -/
theorem exists_spelled_finiteText : ∃ negative y, Spelled (finiteText x).toList negative y := by
  unfold finiteText
  by_cases hwhole : (isWholeNumber x && x.abs < 1e20) = true
  · rw [if_pos hwhole, toList_toString_int]
    exact ⟨_, _, spelled_digits _ _⟩
  · have hdigits := shortest_digits_pos hd (mantissa_pos_of_positional hd hwhole) .up
    rw [if_neg hwhole]
    unfold positionalText
    rw [hd]
    dsimp only
    rw [String.toList_ofList]
    obtain ⟨y, hspelled, -⟩ := spelled_positional d.negative hdigits
    exact ⟨_, _, hspelled⟩

/-- The text of a finite number in JSON is a spelled decimal. -/
theorem exists_spelled_jsonNumberText :
    ∃ negative y, Spelled (jsonNumberText x).toList negative y := by
  unfold jsonNumberText
  rw [hd]
  dsimp only
  cases hint : int64Value? x with
  | some k =>
    dsimp only
    rw [toList_toString_int]
    exact ⟨_, _, spelled_digits _ _⟩
  | none =>
    have hdigits := shortest_digits_pos hd (mantissa_pos_of_int64Value hd hint) .even
    dsimp only
    rw [String.toList_ofList]
    split
    · obtain ⟨y, hspelled, -⟩ := spelled_positional d.negative hdigits
      exact ⟨_, _, hspelled⟩
    · exact ⟨_, _, spelled_scientific _ hdigits⟩

/-- A number that is no zero is read back from its shortest digits. -/
theorem readNumber?_positionalText (hm : 0 < d.mantissa) :
    readNumber? (positionalText x).toList = some x := by
  have hproper := Dyadic.Proper.of_ofFloat? hd
  have hrounds := Dyadic.shortest_rounds hm hproper .up
  obtain ⟨z, hspelled, hvalue⟩ := spelled_positional d.negative (shortest_digits_pos hd hm .up)
  rw [← hvalue] at hrounds
  obtain ⟨y, hy, hform⟩ := hspelled.readNumber? hproper hm rfl hrounds
  unfold positionalText
  rw [hd]
  dsimp only
  rw [String.toList_ofList, hy, Dyadic.ofFloat?_inj hform hd]

end

/-- **The text of a finite number is read back as the number** unless it is a whole number that was
cut to 64 bits. -/
theorem readNumber?_finiteText {x : Float} (hx : x.isFinite = true) :
    ∃ y, readNumber? (finiteText x).toList = some y ∧ ((y == x) = true ↔ ¬ CutToInt64 x) := by
  rw [Dyadic.isFinite_eq, Option.isSome_iff_exists] at hx
  obtain ⟨d, hd⟩ := hx
  have hself : (x == x) = true := (Dyadic.beq_iff hd hd).mpr (.inl rfl)
  unfold finiteText
  by_cases hinteger : (isWholeNumber x && x.abs < 1e20) = true
  · rw [if_pos hinteger]
    rw [Bool.and_eq_true, decide_eq_true_iff, isWholeNumber, Option.isSome_iff_exists] at hinteger
    obtain ⟨⟨k, hwhole⟩, habs⟩ := hinteger
    have hsmall := (abs_lt_iff hwhole).mp habs
    have hclamp := natAbs_clampInt64_le k
    have hlog := log2_lt_of_lt (by decide) (show (clampInt64 k).natAbs < 2 ^ 64 by omega)
    have hcut : CutToInt64 x ↔ 2 ^ 63 < k.natAbs ∧ k.natAbs < 10 ^ 20 := by
      unfold CutToInt64
      rw [hwhole]
      simp
    refine ⟨numberOfInt (clampInt64 k), ?_, ?_⟩
    · rw [saturateInt64_of_wholeValue hwhole]
      exact readNumber?_toString (by omega)
    · rw [numberOfInt_clampInt64_beq_iff hwhole, hcut]
      omega
  · have hm := mantissa_pos_of_positional hd hinteger
    rw [if_neg hinteger]
    refine ⟨x, readNumber?_positionalText hd hm, iff_of_true hself ?_⟩
    rintro ⟨k, hwhole, -, hsmall⟩
    apply hinteger
    rw [isWholeNumber, hwhole, Option.isSome_some, Bool.true_and, decide_eq_true_iff,
      abs_lt_iff hwhole]
    exact hsmall

end StateExpr
