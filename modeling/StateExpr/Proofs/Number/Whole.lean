import StateExpr.Proofs.Number.Nearest
/-!
# Whole numbers, order and equality

Which integer a number is, which number an integer becomes, and how finite numbers compare, all
said of exact magnitudes.

Main statements:

* `wholeValue?_eq_some_iff` and `numberOfInt_wholeValue`: a whole number is its integer and comes
  back from it;
* `wholeValue?_numberOfInt`: an integer too long for a mantissa becomes `Dyadic.nearestWhole` of it;
* `Dyadic.beq_iff` and `Dyadic.lt_iff`: equality and order by forms.
-/

namespace StateExpr

open Float.Model Float.Model.UnpackedFloat

/-! ## The nearest natural number -/

theorem roundHalfEven_bounds {num den : ℕ} (hden : 0 < den) :
    2 * (roundHalfEven num den * den) ≤ 2 * num + den ∧
      2 * num ≤ 2 * (roundHalfEven num den * den) + den ∧
      (roundHalfEven num den % 2 = 1 → 2 * (roundHalfEven num den * den) < 2 * num + den ∧
        2 * num < 2 * (roundHalfEven num den * den) + den) := by
  have hsplit := Nat.div_add_mod num den
  have hrest := Nat.mod_lt num hden
  have hnext : (num / den + 1) * den = den * (num / den) + den := by ring
  have hcomm : num / den * den = den * (num / den) := by ring
  unfold roundHalfEven
  dsimp only
  by_cases hlt : 2 * (num % den) < den
  · rw [if_pos hlt, hcomm]
    omega
  rw [if_neg hlt]
  by_cases hgt : den < 2 * (num % den)
  · rw [if_pos hgt, hnext]
    omega
  rw [if_neg hgt]
  by_cases heven : num / den % 2 = 0
  · rw [if_pos heven, hcomm]
    omega
  · rw [if_neg heven, hnext]
    omega

namespace Dyadic

/-! ## Whole numbers -/

theorem magnitude_eq (d : Dyadic) : d.magnitude = d.numerator / d.denominator := by
  change (d.mantissa : ℚ) * 2 ^ d.exponent =
    ((d.mantissa * 2 ^ d.exponent.toNat : ℕ) : ℚ) / ((2 ^ (-d.exponent).toNat : ℕ) : ℚ)
  have hsplit : (2 : ℚ) ^ d.exponent = 2 ^ d.exponent.toNat / 2 ^ (-d.exponent).toNat := by
    rw [← zpow_natCast, ← zpow_natCast, ← zpow_sub₀ (by norm_num)]
    congr 1
    omega
  rw [hsplit]
  push_cast
  ring

theorem isWhole_iff {d : Dyadic} : d.isWhole = true ↔ d.magnitude = d.magnitudeDown := by
  have hden : (d.denominator : ℚ) ≠ 0 := by exact_mod_cast d.denominator_pos.ne'
  rw [magnitude_eq, div_eq_iff hden, isWhole, beq_iff_eq, magnitudeDown]
  have hsplit := Nat.div_add_mod d.numerator d.denominator
  rw [mul_comm] at hsplit
  constructor
  · intro hzero
    have : d.numerator = d.numerator / d.denominator * d.denominator := by omega
    exact_mod_cast this
  · intro hvalue
    have : d.numerator = d.numerator / d.denominator * d.denominator := by exact_mod_cast hvalue
    omega

theorem whole_of_magnitude {d : Dyadic} {n : ℕ} (h : d.magnitude = n) :
    d.isWhole = true ∧ d.magnitudeDown = n := by
  have hden : (d.denominator : ℚ) ≠ 0 := by exact_mod_cast d.denominator_pos.ne'
  have hvalue : d.numerator = n * d.denominator := by
    rw [magnitude_eq, div_eq_iff hden] at h
    exact_mod_cast h
  have hdown : d.magnitudeDown = n := by
    rw [magnitudeDown, hvalue, Nat.mul_div_cancel _ d.denominator_pos]
  exact ⟨isWhole_iff.mpr (by rw [h, hdown]), hdown⟩

/-- The natural number nearest to `n` whose digits fit a mantissa, a tie to the even mantissa. -/
def nearestWhole (n : ℕ) : ℕ :=
  roundHalfEven n (2 ^ (n.log2 - 52)) * 2 ^ (n.log2 - 52)

theorem log2_mul_two_pow {m s : ℕ} (lower : 2 ^ 52 ≤ m) (upper : m < 2 ^ 53) :
    (m * 2 ^ s).log2 = 52 + s := by
  rw [Nat.log2_eq_iff (by positivity)]
  constructor
  · rw [pow_add]
    exact Nat.mul_le_mul_right _ lower
  · rw [show 52 + s + 1 = 53 + s by omega, pow_add]
    exact Nat.mul_lt_mul_of_pos_right upper (by positivity)

theorem ofNat_mul_two_pow {m s : ℕ} (lower : 2 ^ 52 ≤ m) (upper : m < 2 ^ 53) :
    ofNat (m * 2 ^ s) = ⟨false, m, s⟩ := by
  rw [ofNat, log2_mul_two_pow lower upper, show 52 - (52 + s) = 0 by omega,
    show 52 + s - 52 = s by omega, pow_zero, mul_one, Nat.mul_div_cancel _ (by positivity)]
  congr 1
  push_cast
  omega

theorem nearestWhole_of_lt {n : ℕ} (h : n < 2 ^ 53) : nearestWhole n = n := by
  have hlog := log2_lt_of_lt (by decide) h
  have hround : roundHalfEven n 1 = n :=
    roundHalfEven_eq one_pos (by omega) (by omega) (by omega)
  rw [nearestWhole, show n.log2 - 52 = 0 by omega, pow_zero, hround, mul_one]

/-- The mantissa and the place that a natural number of more than 53 binary digits is rounded to. -/
theorem nearestWhole_of_le {n : ℕ} (h : 2 ^ 53 ≤ n) : ∃ m s : ℕ, s = n.log2 - 52 ∧
    nearestWhole n = m * 2 ^ s ∧ 2 ^ 52 ≤ m ∧ m ≤ 2 ^ 53 ∧ 2 ^ 52 * 2 ^ s ≤ n ∧ n < 2 ^ 53 * 2 ^ s ∧
    2 * (m * 2 ^ s) ≤ 2 * n + 2 ^ s ∧ 2 * n ≤ 2 * (m * 2 ^ s) + 2 ^ s ∧
    (m % 2 = 1 → 2 * (m * 2 ^ s) < 2 * n + 2 ^ s ∧ 2 * n < 2 * (m * 2 ^ s) + 2 ^ s) := by
  have hlog : 53 ≤ n.log2 := (Nat.le_log2 (by omega)).mpr h
  refine ⟨_, _, rfl, rfl, ?_⟩
  have hunit : 0 < 2 ^ (n.log2 - 52) := by positivity
  have hlower : 2 ^ 52 * 2 ^ (n.log2 - 52) ≤ n := by
    rw [← pow_add, show 52 + (n.log2 - 52) = n.log2 by omega]
    exact Nat.log2_self_le (by omega)
  have hupper : n < 2 ^ 53 * 2 ^ (n.log2 - 52) := by
    rw [← pow_add, show 53 + (n.log2 - 52) = n.log2 + 1 by omega]
    exact Nat.lt_log2_self
  obtain ⟨hl, hu, hodd⟩ := @roundHalfEven_bounds n _ hunit
  generalize 2 ^ (n.log2 - 52) = unit at *
  generalize roundHalfEven n unit = m at *
  refine ⟨?_, ?_, hlower, hupper, hl, hu, hodd⟩
  · by_contra hlt
    have : m * unit + unit ≤ 2 ^ 52 * unit := by
      have := Nat.mul_le_mul_right unit (show m + 1 ≤ 2 ^ 52 by omega)
      rwa [Nat.add_mul, one_mul] at this
    omega
  · by_contra hgt
    have : 2 ^ 53 * unit + unit ≤ m * unit := by
      have := Nat.mul_le_mul_right unit (show 2 ^ 53 + 1 ≤ m by omega)
      rwa [Nat.add_mul, one_mul] at this
    omega

theorem rounds_nearestWhole {n : ℕ} : (ofNat (nearestWhole n)).Rounds n := by
  by_cases hsmall : n < 2 ^ 53
  · have hself := Rounds.self (ofNat n)
    rw [magnitude_ofNat (dvd_of_lt hsmall)] at hself
    rwa [nearestWhole_of_lt hsmall]
  obtain ⟨m, s, -, hvalue, hm, hm', hlower, hupper, lower, upper, odd⟩ :=
    nearestWhole_of_le (Nat.le_of_not_lt hsmall)
  rw [hvalue]
  have hplaces (places : ℕ) : (n : ℚ) = n / (2 ^ places : ℕ) * 2 ^ (places : ℤ) := by
    rw [zpow_natCast]
    push_cast
    field_simp
  rcases Nat.lt_or_eq_of_le hm' with hlt | rfl
  · rw [ofNat_mul_two_pow hm hlt, hplaces s, rounds_fraction_iff (by positivity)]
    generalize 2 ^ s = unit at *
    rcases lowerGap_cases ⟨false, m, s⟩ with ⟨hgap, hleast, -⟩ | ⟨hgap, -⟩
    · -- below the least mantissa of full length there is nothing to round up
      obtain rfl : m = 2 ^ 52 := hleast
      rw [hgap]
      dsimp only
      omega
    · rw [hgap]
      dsimp only
      refine ⟨by linarith, by linarith, fun hodd => ?_⟩
      obtain ⟨hl, hu⟩ := odd hodd
      exact ⟨by linarith, by linarith⟩
  · rw [show 2 ^ 53 * 2 ^ s = 2 ^ 52 * 2 ^ (s + 1) by ring,
      ofNat_mul_two_pow (by omega) (by omega), hplaces (s + 1), rounds_fraction_iff (by positivity)]
    have hgap : lowerGap ⟨false, 2 ^ 52, (s + 1 : ℕ)⟩ = 1 := if_pos ⟨rfl, by dsimp only; omega⟩
    have hdouble : 2 ^ (s + 1) = 2 * 2 ^ s := by ring
    rw [hgap, hdouble]
    generalize 2 ^ s = unit at *
    dsimp only
    omega

theorem nearestWhole_le (n : ℕ) : nearestWhole n ≤ 2 * n := by
  by_cases hsmall : n < 2 ^ 53
  · rw [nearestWhole_of_lt hsmall]
    omega
  · obtain ⟨m, s, -, hvalue, -, -, hlower, -, lower, -⟩ :=
      nearestWhole_of_le (Nat.le_of_not_lt hsmall)
    rw [hvalue]
    generalize 2 ^ s = unit at *
    omega

/-- Rounding moves a number of at most 62 binary digits by 256 at most, and a multiple of 512 not at
all. -/
theorem nearestWhole_close {n : ℕ} (h : n < 2 ^ 62) :
    nearestWhole n ≤ n + 256 ∧ n ≤ nearestWhole n + 256 ∧ (512 ∣ n → nearestWhole n = n) := by
  by_cases hsmall : n < 2 ^ 53
  · rw [nearestWhole_of_lt hsmall]
    exact ⟨by omega, by omega, fun _ => rfl⟩
  obtain ⟨m, s, hs, hvalue, -, -, -, -, lower, upper, -⟩ :=
    nearestWhole_of_le (Nat.le_of_not_lt hsmall)
  have hplaces : s ≤ 9 := by
    have := (Nat.log2_lt (by omega)).mpr h
    omega
  have hunit : 2 ^ s ∣ 512 := pow_dvd_pow 2 hplaces
  have hle := Nat.le_of_dvd (by decide) hunit
  have hpos : 0 < 2 ^ s := Nat.pow_pos (by decide)
  rw [hvalue]
  refine ⟨by omega, by omega, ?_⟩
  intro hdvd
  obtain ⟨q, rfl⟩ := hunit.trans hdvd
  rw [Nat.mul_comm (2 ^ s) q] at lower upper ⊢
  generalize 2 ^ s = unit at lower upper hpos ⊢
  have hupper : m * unit < (q + 1) * unit := by linarith
  have hlower : q * unit < (m + 1) * unit := by linarith
  have hm := Nat.lt_of_mul_lt_mul_right hupper
  have hq := Nat.lt_of_mul_lt_mul_right hlower
  rw [show m = q by omega]

/-- Rounding keeps a number of 64 bits between the exact ones and the next power of two. -/
theorem nearestWhole_mem {n : ℕ} (lower : 2 ^ 53 ≤ n) (upper : n < 2 ^ 63) :
    2 ^ 53 ≤ nearestWhole n ∧ nearestWhole n ≤ 2 ^ 63 := by
  obtain ⟨m, s, hs, hvalue, hm, hm', -⟩ := nearestWhole_of_le lower
  have hlog : 53 ≤ n.log2 := (Nat.le_log2 (by omega)).mpr lower
  have hlog' : n.log2 < 63 := (Nat.log2_lt (by omega)).mpr upper
  rw [hvalue]
  constructor
  · calc 2 ^ 53 = 2 ^ 52 * 2 ^ 1 := rfl
      _ ≤ m * 2 ^ s := Nat.mul_le_mul hm (Nat.pow_le_pow_right two_pos (by omega))
  · calc m * 2 ^ s ≤ 2 ^ 53 * 2 ^ 10 :=
        Nat.mul_le_mul hm' (Nat.pow_le_pow_right two_pos (by omega))
      _ = 2 ^ 63 := rfl

theorem nearestWhole_spec {n : ℕ} (h0 : 0 < n) :
    0 < nearestWhole n ∧ (nearestWhole n).log2 ≤ n.log2 + 1 ∧
      2 ^ ((nearestWhole n).log2 - 52) ∣ nearestWhole n := by
  by_cases hsmall : n < 2 ^ 53
  · rw [nearestWhole_of_lt hsmall]
    exact ⟨h0, by omega, dvd_of_lt hsmall⟩
  obtain ⟨m, s, hs, hvalue, hm, hm', -⟩ := nearestWhole_of_le (Nat.le_of_not_lt hsmall)
  have hlog : 53 ≤ n.log2 := (Nat.le_log2 (by omega)).mpr (Nat.le_of_not_lt hsmall)
  rw [hvalue]
  rcases Nat.lt_or_eq_of_le hm' with hlt | rfl
  · rw [log2_mul_two_pow hm hlt]
    refine ⟨by positivity, by omega, ?_⟩
    rw [Nat.add_sub_cancel_left]
    exact Nat.dvd_mul_left _ _
  · rw [← pow_add, Nat.log2_two_pow]
    refine ⟨by positivity, by omega, ?_⟩
    exact pow_dvd_pow 2 (by omega)

end Dyadic

/-- The integer that a number is, by its exact magnitude. -/
theorem wholeValue?_eq_some_iff {x : Float} {k : ℤ} : wholeValue? x = some k ↔
    ∃ d, Dyadic.ofFloat? x = some d ∧ d.magnitude = k.natAbs ∧ d.signed k.natAbs = k := by
  unfold wholeValue?
  cases hd : Dyadic.ofFloat? x with
  | none => simp
  | some d =>
    have habs : (d.signed d.magnitudeDown).natAbs = d.magnitudeDown := by
      unfold Dyadic.signed
      split <;> omega
    simp only [Option.some.injEq, exists_eq_left']
    by_cases hwhole : d.isWhole = true
    · rw [if_pos hwhole, Option.some.injEq]
      constructor
      · rintro rfl
        rw [habs]
        exact ⟨Dyadic.isWhole_iff.mp hwhole, rfl⟩
      · rintro ⟨hvalue, hsigned⟩
        rw [(Dyadic.whole_of_magnitude hvalue).2, hsigned]
    · rw [if_neg hwhole]
      simp only [reduceCtorEq, false_iff]
      rintro ⟨hvalue, -⟩
      exact hwhole (Dyadic.whole_of_magnitude hvalue).1

namespace Dyadic

/-- The form with the sign of an integer. -/
def signedBy (d : Dyadic) (k : ℤ) : Dyadic := { d with negative := decide (k < 0) }

theorem Proper.signedBy {d : Dyadic} (hd : d.Proper) (k : ℤ) : (d.signedBy k).Proper :=
  ⟨hd.mantissa_lt, hd.least, hd.greatest, hd.full⟩

theorem signed_signedBy (d : Dyadic) {k : ℤ} {n : ℕ} (h : k ≠ 0) :
    (d.signedBy k).signed n = k.sign * n := by
  unfold signed signedBy
  rcases lt_or_gt_of_ne h with hneg | hpos
  · rw [if_pos (decide_eq_true hneg), Int.sign_eq_neg_one_of_neg hneg, neg_one_mul]
  · rw [if_neg (by simpa using hpos.le), Int.sign_eq_one_of_pos hpos, one_mul]

/-- An integer becomes the number in whose interval it lies. -/
theorem Rounds.ofFloat?_numberOfInt {d : Dyadic} (hd : d.Proper) (hm : 0 < d.mantissa)
    (hsign : d.negative = false) {k : ℤ} (h : d.Rounds k.natAbs) :
    ofFloat? (numberOfInt k) = some (d.signedBy k) := by
  have hmagnitude : ofFloat? (Float.ofScientific k.natAbs false 0) = some d := by
    apply Rounds.ofFloat?_ofScientific hd hm hsign
    simpa using h
  unfold numberOfInt
  dsimp only
  by_cases hk : k < 0
  · rw [if_pos hk, ofFloat?_neg hmagnitude, opposite, hsign, signedBy, decide_eq_true hk]
    rfl
  · rw [if_neg hk, hmagnitude, signedBy, decide_eq_false hk, ← hsign]

theorem mantissa_pos_of_magnitude {d : Dyadic} (h : 0 < d.magnitude) : 0 < d.mantissa := by
  by_contra hzero
  obtain hzero : d.mantissa = 0 := by omega
  rw [magnitude, hzero, Nat.cast_zero, zero_mul] at h
  exact absurd h (lt_irrefl 0)

end Dyadic

/-- The integer that a number is gives the number back, zero apart. -/
theorem numberOfInt_wholeValue {x : Float} {k : ℤ} (h : wholeValue? x = some k) (h0 : k ≠ 0) :
    numberOfInt k = x := by
  obtain ⟨d, hd, hvalue, hsigned⟩ := wholeValue?_eq_some_iff.mp h
  have hproper := Dyadic.Proper.of_ofFloat? hd
  have hm : 0 < d.mantissa := by
    apply Dyadic.mantissa_pos_of_magnitude
    rw [hvalue]
    exact_mod_cast Int.natAbs_pos.mpr h0
  have hself := Dyadic.Rounds.self d.unsigned
  rw [show d.unsigned.magnitude = k.natAbs from hvalue] at hself
  have hform := hself.ofFloat?_numberOfInt hproper.unsigned hm rfl
  have hsign : d.unsigned.signedBy k = d := by
    have : decide (k < 0) = d.negative := by
      unfold Dyadic.signed at hsigned
      cases hneg : d.negative
      · rw [hneg, if_neg Bool.false_ne_true] at hsigned
        exact decide_eq_false (by omega)
      · rw [hneg, if_pos rfl] at hsigned
        exact decide_eq_true (by omega)
    rw [Dyadic.signedBy, this]
    rfl
  rw [hsign] at hform
  exact Dyadic.ofFloat?_inj hform hd

/-- The integer that comes back from the number nearest to an integer. -/
theorem wholeValue?_numberOfInt {k : ℤ} (hk : k.natAbs.log2 < 1023) :
    wholeValue? (numberOfInt k) = some (k.sign * Dyadic.nearestWhole k.natAbs) := by
  by_cases h0 : k = 0
  · subst h0
    decide +kernel
  have habs := Int.natAbs_pos.mpr h0
  obtain ⟨hpos, hlog, hdvd⟩ := Dyadic.nearestWhole_spec habs
  have hlong := Dyadic.le_ofNat_mantissa hpos
  have hform := Dyadic.rounds_nearestWhole.ofFloat?_numberOfInt
    (Dyadic.ofNat_proper hpos (by omega)) (by omega) rfl
  have hsigned := Dyadic.signed_signedBy (Dyadic.ofNat (Dyadic.nearestWhole k.natAbs)) h0
    (n := Dyadic.nearestWhole k.natAbs)
  have hnatAbs : (k.sign * (Dyadic.nearestWhole k.natAbs : ℤ)).natAbs =
      Dyadic.nearestWhole k.natAbs := by
    rw [Int.natAbs_mul, Int.natAbs_sign_of_ne_zero h0, one_mul, Int.natAbs_natCast]
  rw [wholeValue?_eq_some_iff]
  refine ⟨_, hform, ?_, ?_⟩
  · rw [hnatAbs]
    exact Dyadic.magnitude_ofNat hdvd
  · rw [hnatAbs, hsigned]

/-! ## Signs of counts -/

theorem unpackSign_pack_roundWithAccuracy (m : ℕ) (e : ℤ) (a : Accuracy) :
    unpackSign (UnpackedFloat.pack .binary64 (roundWithAccuracy .binary64 .positive m e a)) =
      Sign.positive.toBitVec := by
  unfold roundWithAccuracy UnpackedFloat.pack
  dsimp only
  split_ifs <;> dsimp only [packedZero, packedInfinity]
  · exact unpackSign_packComponents ..
  · split_ifs <;> exact unpackSign_packComponents ..

theorem unpackSign_numberOfInt {n : ℕ} (hn : 2 ^ 53 ≤ n) :
    @unpackSign .binary64 (numberOfInt n).toModel.toBits.toBitVec =
      Sign.positive.toBitVec := by
  have hform : (numberOfInt n).toModel =
      Float.Model.pack (UnpackedFloat.ofScientific .binary64 n 0) := by
    unfold numberOfInt Float.ofScientific
    rw [dif_neg (by simpa using hn), if_neg (by omega)]
    rfl
  have hrounded : UnpackedFloat.ofScientific .binary64 n 0 =
      roundWithAccuracy .binary64 .positive
        (n <<< Format.binary64.mantissaBits * 10 ^ (0 : ℤ).toNat)
        (-(Format.binary64.mantissaBits : ℤ) + 0) .exact := by
    unfold UnpackedFloat.ofScientific
    rw [dif_neg (by omega), if_neg (by decide), if_neg (by simp), if_pos le_rfl]
    rfl
  have hsign := unpackSign_pack_roundWithAccuracy
    (n <<< Format.binary64.mantissaBits * 10 ^ (0 : ℤ).toNat)
    (-(Format.binary64.mantissaBits : ℤ) + 0) .exact
  rw [← hrounded] at hsign
  rw [hform]
  exact hsign

/-- No count becomes the number of minus one, however it is rounded. -/
theorem numberOfInt_natCast_ne (n : ℕ) : numberOfInt n ≠ numberOfInt (-1) := by
  intro h
  by_cases hn : n < 2 ^ 53
  · have hlog : (n : ℤ).natAbs.log2 < 1023 := by
      by_cases h0 : n = 0
      · simp [h0]
      · rw [Int.natAbs_natCast]
        exact ((Nat.log2_lt h0).mpr hn).trans (by decide)
    have hwhole := wholeValue?_numberOfInt hlog
    have hminus : wholeValue? (numberOfInt (-1)) = some (-1) := by decide +kernel
    rw [← h, hwhole, Option.some.injEq] at hminus
    have hsign : 0 ≤ (n : ℤ).sign := Int.sign_nonneg_iff.mpr (Int.natCast_nonneg n)
    have : 0 ≤ (n : ℤ).sign * (Dyadic.nearestWhole (n : ℤ).natAbs : ℤ) := by positivity
    omega
  · -- too long for a mantissa, it may be rounded to anything but keeps its sign
    have hsign := unpackSign_numberOfInt (Nat.le_of_not_lt hn)
    rw [h] at hsign
    exact absurd hsign (by decide +kernel)

/-! ## Order and equality -/

namespace Dyadic

section

variable {d c : Dyadic} (hd : d.Proper) (hc : c.Proper)
include hd hc

/-- A greater exponent is a greater magnitude. -/
theorem Proper.magnitude_lt_of_exponent_lt (h : d.exponent < c.exponent) :
    d.magnitude < c.magnitude := by
  have hleast := hd.least
  have hm : (d.mantissa : ℚ) < 2 ^ 53 := by exact_mod_cast hd.mantissa_lt
  have hm' : (2 ^ 52 : ℚ) ≤ c.mantissa := by exact_mod_cast hc.full.resolve_right (by omega)
  calc d.magnitude < 2 ^ 53 * 2 ^ d.exponent := mul_lt_mul_of_pos_right hm (by positivity)
    _ = 2 ^ 52 * 2 ^ (d.exponent + 1) := by
      rw [zpow_add_one₀ (by norm_num)]
      ring
    _ ≤ 2 ^ 52 * 2 ^ c.exponent := by
      gcongr
      · norm_num
      · omega
    _ ≤ c.magnitude := mul_le_mul_of_nonneg_right hm' (by positivity)

/-- Magnitudes are ordered by exponent, then by mantissa. -/
theorem Proper.magnitude_lt_iff : d.magnitude < c.magnitude ↔
    d.exponent < c.exponent ∨ d.exponent = c.exponent ∧ d.mantissa < c.mantissa := by
  rcases lt_trichotomy d.exponent c.exponent with hlt | heq | hgt
  · exact iff_of_true (hd.magnitude_lt_of_exponent_lt hc hlt) (.inl hlt)
  · rw [magnitude, magnitude, heq, mul_lt_mul_iff_of_pos_right (by positivity), Nat.cast_lt]
    simp
  · have hreverse := hc.magnitude_lt_of_exponent_lt hd hgt
    exact iff_of_false hreverse.le.not_gt (by omega)

end

section

variable {x y : Float} {d c : Dyadic} (hx : ofFloat? x = some d) (hy : ofFloat? y = some c)
include hx hy

/-- Finite numbers are equal when they have one form, and the two zeros are. -/
theorem beq_iff : (x == y) = true ↔ d = c ∨ d.mantissa = 0 ∧ c.mantissa = 0 := by
  rw [ofFloat?_eq] at hx hy
  change (x.toModel.unpack.compare y.toModel.unpack == some .eq) = true ↔ _
  rcases hu : x.toModel.unpack with s | _ | s | ⟨s, m, e, hm⟩ <;>
    rcases hv : y.toModel.unpack with t | _ | t | ⟨t, n, f, hn⟩ <;>
      rw [hu] at hx <;> rw [hv] at hy <;> cases hx <;> cases hy
  · exact iff_of_true rfl (.inr ⟨rfl, rfl⟩)
  · have hne : ¬ n = 0 := hn.ne'
    have hne' : ¬ 0 = n := hn.ne
    cases t <;> simp [UnpackedFloat.compare, hne, hne']
  · have hne : ¬ m = 0 := hm.ne'
    cases s <;> simp [UnpackedFloat.compare, hne]
  · have hne : ¬ m = 0 := hm.ne'
    cases s <;> cases t <;>
      simp [UnpackedFloat.compare, isMinus, hne, Ordering.then_eq_eq, Ordering.swap_eq_eq] <;> tauto

/-- Numbers without a sign are ordered by their magnitudes. -/
theorem lt_iff (hd : d.negative = false) (hc : c.negative = false) :
    x < y ↔ d.magnitude < c.magnitude := by
  have hd' := Proper.of_ofFloat? hx
  have hc' := Proper.of_ofFloat? hy
  rw [ofFloat?_eq] at hx hy
  have hlt : x < y ↔ (x.toModel.unpack.compare y.toModel.unpack == some .lt) = true :=
    decide_eq_true_iff
  rw [hlt]
  rcases hu : x.toModel.unpack with s | _ | s | ⟨s, m, e, hm⟩ <;>
    rcases hv : y.toModel.unpack with t | _ | t | ⟨t, n, f, hn⟩ <;>
      rw [hu] at hx <;> rw [hv] at hy <;> cases hx <;> cases hy
  · simp [UnpackedFloat.compare, magnitude]
  · have hpos : (0 : ℚ) < magnitude ⟨isMinus t, n, f⟩ := by
      have : (0 : ℚ) < n := by exact_mod_cast hn
      exact mul_pos this (by positivity)
    cases t <;> cases hc
    simpa [UnpackedFloat.compare, magnitude] using hpos
  · have hpos : (0 : ℚ) < magnitude ⟨isMinus s, m, e⟩ := by
      have : (0 : ℚ) < m := by exact_mod_cast hm
      exact mul_pos this (by positivity)
    cases s <;> cases hd
    simpa [UnpackedFloat.compare, magnitude] using hpos.le
  · rw [hd'.magnitude_lt_iff hc']
    cases s <;> cases hd
    cases t <;> cases hc
    simp [UnpackedFloat.compare, Ordering.then_eq_lt, Int.compare_eq_lt, Nat.compare_eq_lt]

end

end Dyadic

end StateExpr
