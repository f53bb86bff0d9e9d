import StateExpr.Proofs.Number.Text
/-!
# Numbers as JSON reads them

A reader of JSON keeps a significand and scales it by one power of ten, so that a number is rounded
twice in general.  When the digits fit a mantissa and the power of ten is exact, only the result of
scaling is rounded; an integer of 64 bits is rounded once as well, when it becomes a number.

Main statements: `takeNumber?_toString` and `Spelled.takeNumber?_of_lt`.
-/

namespace StateExpr

namespace Json

/-! ## The digits that are kept -/

theorem le_foldl_digits (cs : List Char) (n : ℕ) :
    n ≤ cs.foldl (fun n c => 10 * n + (c.toNat - 48)) n := by
  induction cs generalizing n with
  | nil => exact Nat.le_refl n
  | cons c cs ih =>
    rw [List.foldl_cons]
    exact le_trans (by omega) (ih _)

/-- Digits that fit are kept as they are. -/
theorem wholeDigits_of_le (cs : List Char) {n : ℕ} (e : ℤ)
    (h : cs.foldl (fun n c => 10 * n + (c.toNat - 48)) n ≤ maxSignificand) :
    wholeDigits true ⟨n, e⟩ cs =
      (⟨cs.foldl (fun n c => 10 * n + (c.toNat - 48)) n, e⟩, true) := by
  induction cs generalizing n with
  | nil => rfl
  | cons c cs ih =>
    rw [List.foldl_cons] at h ⊢
    have hnext := le_trans (le_foldl_digits cs (10 * n + (c.toNat - 48))) h
    rw [wholeDigits]
    dsimp only
    rw [decide_eq_true hnext, Bool.and_self, if_pos rfl, ih h]

/-- Digits behind the point that fit only move it. -/
theorem fractionDigits_of_le (cs : List Char) {n : ℕ} (e : ℤ)
    (h : cs.foldl (fun n c => 10 * n + (c.toNat - 48)) n ≤ maxSignificand) :
    fractionDigits ⟨n, e⟩ cs =
      ⟨cs.foldl (fun n c => 10 * n + (c.toNat - 48)) n, e - cs.length⟩ := by
  induction cs generalizing n e with
  | nil => simp [fractionDigits]
  | cons c cs ih =>
    rw [List.foldl_cons] at h ⊢
    have hnext := le_trans (le_foldl_digits cs (10 * n + (c.toNat - 48))) h
    rw [fractionDigits]
    dsimp only
    rw [if_pos hnext, ih _ h, List.length_cons, Nat.cast_succ, sub_sub, add_comm (1 : ℤ)]

end Json

/-- A reader of JSON keeps all digits that fit 64 bits. -/
theorem Spelling.significand_of_le {s : Spelling} (h : s.decimal.digits ≤ Json.maxSignificand) :
    s.significand =
      (s.fraction.isEmpty && s.exponent.isNone, ⟨s.decimal.digits, s.decimal.exponent⟩) := by
  obtain ⟨negative, whole, fraction, exponent⟩ := s
  unfold decimal at h ⊢
  unfold significand
  dsimp only at h ⊢
  unfold digitsValue at h ⊢
  rw [List.foldl_append] at h ⊢
  rw [Json.wholeDigits_of_le whole 0 (le_trans (Json.le_foldl_digits fraction _) h)]
  dsimp only
  cases fraction with
  | nil => simp
  | cons c cs =>
    rw [Json.fractionDigits_of_le (c :: cs) 0 h]
    simp only [List.isEmpty_cons, Bool.and_false, Bool.false_and, if_neg Bool.false_ne_true]
    rw [zero_sub, neg_add_eq_sub]

/-! ## Scaling -/

namespace Dyadic

/-- Short digits are taken as they are. -/
theorem ofFloat?_ofScientific_of_lt {n : ℕ} (h0 : 0 < n) (h : n < 2 ^ 53) :
    ofFloat? (Float.ofScientific n false 0) = some (ofNat n) := by
  have hlog := log2_lt_of_lt (by decide) h
  have hlong := le_ofNat_mantissa h0
  have hself := Rounds.self (ofNat n)
  rw [magnitude_ofNat (dvd_of_lt h)] at hself
  apply Rounds.ofFloat?_ofScientific (ofNat_proper h0 (by omega)) (by omega) rfl
  simpa using hself

theorem ofFloat?_ofScientific_powersOfTen : ∀ i : Fin 23,
    ofFloat? (Float.ofScientific 1 false i.val) = some (ofNat (10 ^ i.val)) := by
  decide +kernel

/-- A form with the sign that goes with an integer. -/
theorem signedBy_unsigned {d : Dyadic} {k : ℤ} (h : d.negative = decide (k < 0)) :
    d.unsigned.signedBy k = d := by
  unfold unsigned signedBy
  dsimp only
  rw [← h]

/-- Short digits with an exact power of ten are rounded once. -/
theorem Rounds.number? {d : Dyadic} (hd : d.Proper) (hm : 0 < d.mantissa)
    (hsign : d.negative = false) {n : ℕ} {e : ℤ} (h : d.Rounds (n * 10 ^ e)) (hn : n < 2 ^ 53)
    (he : e.natAbs < 23) :
    ∃ x, (⟨n, e⟩ : Json.Significand).number? = some x ∧ ofFloat? x = some d := by
  have hpos := Nat.pos_of_ne_zero (h.ne_zero hd hm)
  have hten : 0 < 10 ^ e.natAbs := by positivity
  have hx := ofFloat?_ofScientific_of_lt hpos hn
  have hp := ofFloat?_ofScientific_powersOfTen ⟨e.natAbs, he⟩
  have hxm := magnitude_ofNat (dvd_of_lt hn)
  have hpm := magnitude_powerOfTen he
  unfold Json.Significand.number?
  dsimp only
  rw [show max e (-100000) = e by omega, Json.scale, if_pos (by omega)]
  dsimp only
  by_cases hexponent : 0 ≤ e
  · rw [if_pos hexponent]
    have hscaled : ofFloat? (Float.ofScientific n false 0 * Float.ofScientific 1 false e.natAbs) =
        some d := by
      apply Rounds.ofFloat?_mul hd hm hsign hx hp hpos hten
      rwa [hxm, hpm, ← zpow_natCast, Int.natAbs_of_nonneg hexponent]
    rw [isInf_of_ofFloat? hscaled, if_neg Bool.false_ne_true]
    exact ⟨_, rfl, hscaled⟩
  · rw [if_neg hexponent]
    refine ⟨_, rfl, ?_⟩
    apply Rounds.ofFloat?_div hd hm hsign hx hp hpos hten
    rwa [hxm, hpm, div_eq_mul_inv, ← zpow_natCast, ← zpow_neg,
      show -(e.natAbs : ℤ) = e by omega]

end Dyadic

/-- A negative integer of 64 bits is whole. -/
theorem negative_of_le {m : ℕ} (h0 : 0 < m) (h : int64Min ≤ -(m : ℤ)) :
    Json.Numeral.negative m = .whole (-(m : ℤ)) := by
  unfold Json.Numeral.negative
  rw [decide_eq_true h0, decide_eq_true h]
  rfl

namespace Spelling

variable {s : Spelling}

/-- The numeral of a decimal with short digits and an exact power of ten is the number in whose
interval the decimal lies. -/
theorem numeral?_of_lt {d : Dyadic} (hd : d.Proper) (hm : 0 < d.mantissa)
    (hsign : d.negative = s.negative) (h : d.Rounds s.decimal.value)
    (hn : s.decimal.digits < 2 ^ 53) (he : s.decimal.exponent.natAbs < 23) :
    ∃ n, s.numeral? = some n ∧ Dyadic.ofFloat? n.toFloat = some d := by
  have hunsigned : d.unsigned.Rounds s.decimal.value := ⟨h.lower, h.upper, h.odd⟩
  have hpos := Nat.pos_of_ne_zero (h.ne_zero hd hm)
  have hfits : s.decimal.digits ≤ Json.maxSignificand := by
    unfold Json.maxSignificand
    omega
  unfold numeral?
  rw [significand_of_le hfits]
  dsimp only
  split
  · rename_i hexact
    rw [Bool.and_eq_true, List.isEmpty_iff, Option.isNone_iff_eq_none] at hexact
    have hexponent : s.decimal.exponent = 0 := by
      unfold decimal power
      dsimp only
      rw [hexact.1, hexact.2]
      rfl
    rw [Decimal.value, hexponent, zpow_zero, mul_one] at hunsigned
    refine ⟨_, rfl, ?_⟩
    cases hneg : s.negative
    · rw [if_neg Bool.false_ne_true, Json.Numeral.toFloat,
        Dyadic.Rounds.ofFloat?_numberOfInt (k := s.decimal.digits) hd.unsigned hm rfl hunsigned,
        Dyadic.signedBy_unsigned]
      rw [hsign, hneg]
      exact (decide_eq_false (by omega)).symm
    · have hleast : int64Min ≤ -(s.decimal.digits : ℤ) := by
        unfold int64Min
        omega
      rw [if_pos rfl, negative_of_le hpos hleast, Json.Numeral.toFloat,
        Dyadic.Rounds.ofFloat?_numberOfInt hd.unsigned hm rfl (by rwa [Int.natAbs_neg]),
        Dyadic.signedBy_unsigned]
      rw [hsign, hneg]
      exact (decide_eq_true (by omega)).symm
  · obtain ⟨x, hx, hform⟩ := hunsigned.number? hd.unsigned hm rfl hn he
    rw [hx]
    refine ⟨_, rfl, ?_⟩
    change Dyadic.ofFloat? (if s.negative = true then -x else x) = some d
    cases hneg : s.negative
    · rw [if_neg Bool.false_ne_true, hform, Dyadic.unsigned, ← hneg, ← hsign]
    · rw [if_pos rfl, Dyadic.ofFloat?_neg hform, Dyadic.unsigned, Dyadic.opposite, Bool.not_false,
        ← hneg, ← hsign]

end Spelling

/-- Short digits with an exact power of ten are read as the number in whose interval the decimal
lies. -/
theorem Spelled.takeNumber?_of_lt {cs : List Char} {negative : Bool} {x : Decimal}
    (h : Spelled cs negative x) {d : Dyadic} (hd : d.Proper) (hm : 0 < d.mantissa)
    (hsign : d.negative = negative) (hr : d.Rounds x.value) (hn : x.digits < 2 ^ 53)
    (he : x.exponent.natAbs < 23) :
    ∃ n, Json.takeNumber? cs = some (n, []) ∧ Dyadic.ofFloat? n.toFloat = some d := by
  obtain ⟨s, hlegal, rfl, rfl, rfl⟩ := h
  obtain ⟨n, hn, hform⟩ := Spelling.numeral?_of_lt hd hm hsign hr hn he
  have hread := hlegal.takeNumber?_text Spelling.noNumeralHead_nil
  rw [List.append_nil, hn] at hread
  exact ⟨n, hread, hform⟩

/-- A 64-bit integer is read as it is written. -/
theorem takeNumber?_toString {k : ℤ} (hk : int64Min ≤ k ∧ k ≤ int64Max) :
    Json.takeNumber? (toString k).toList = some (.whole k, []) := by
  have hlegal := Spelling.legal_ofWhole (decide (k < 0)) (allDigits_toDigits k.natAbs)
    (toDigits_leading k.natAbs)
  have hread := hlegal.takeNumber?_text Spelling.noNumeralHead_nil
  have hdecimal : (Spelling.ofWhole (decide (k < 0)) (Nat.toDigits 10 k.natAbs)).decimal =
      ⟨k.natAbs, 0⟩ := by
    simp [Spelling.ofWhole, Spelling.decimal, Spelling.power, digitsValue_toDigits]
  have hfits : k.natAbs ≤ Json.maxSignificand := by
    unfold int64Min int64Max at hk
    unfold Json.maxSignificand
    omega
  have hsignificand := Spelling.significand_of_le (by rwa [hdecimal])
  rw [hdecimal] at hsignificand
  rw [List.append_nil, Spelling.text_ofWhole, ← toList_toString_int] at hread
  rw [hread, Spelling.numeral?, hsignificand]
  dsimp only
  by_cases hneg : k < 0
  · have hnumeral : Json.Numeral.negative k.natAbs = .whole k := by
      have hleast : int64Min ≤ -(k.natAbs : ℤ) := by
        unfold int64Min at hk ⊢
        omega
      rw [negative_of_le (by omega) hleast]
      exact congrArg Json.Numeral.whole (by omega)
    simp [Spelling.ofWhole, hneg, hnumeral]
  · have hnumeral : Json.Numeral.whole k.natAbs = .whole k := congrArg Json.Numeral.whole (by omega)
    simpa [Spelling.ofWhole, hneg] using hnumeral

end StateExpr
