import StateExpr.Number.Fixed
import StateExpr.Proofs.Number.Form
/-!
# Rounding to the nearest number

The exact magnitudes that round to a number form an interval around it (`Dyadic.Rounds`); its ends
belong to it when the mantissa is even.  Arithmetic rounds by guard bits, twice where the first
rounding makes the mantissa too long.  Guard bits are related to the fraction that they cut off, and
from that the product and the quotient of two mantissas are the number in whose interval the exact
result lies.

Main statements: `Dyadic.Rounds.roundWithAccuracy`, `Dyadic.Rounds.mul`, `Dyadic.Rounds.div`.
-/

namespace StateExpr

open Float.Model Float.Model.UnpackedFloat

/-! ## The nearest natural number -/

theorem log2_lt_of_lt {n k : ℕ} (hk : 0 < k) (h : n < 2 ^ k) : n.log2 < k := by
  rw [Nat.log2_eq_log_two]
  exact Nat.log_lt_of_lt_pow' hk.ne' h

/-- A natural number at most half away, less than half if it is odd, is what rounding gives. -/
theorem roundHalfEven_eq {num den m : ℕ} (hden : 0 < den) (lower : 2 * m * den ≤ 2 * num + den)
    (upper : 2 * num ≤ 2 * m * den + den)
    (odd : m % 2 = 1 → 2 * m * den < 2 * num + den ∧ 2 * num < 2 * m * den + den) :
    roundHalfEven num den = m := by
  have hsplit := Nat.div_add_mod num den
  have hrest := Nat.mod_lt num hden
  have hm : m = num / den ∨ m = num / den + 1 := by
    have hle : num / den ≤ m := by
      by_contra hlt
      have := Nat.mul_le_mul_right den (show m + 1 ≤ num / den by omega)
      have hcomm := Nat.mul_comm den (num / den)
      rw [Nat.add_mul] at this
      rw [Nat.mul_assoc] at upper
      omega
    have hge : m ≤ num / den + 1 := by
      by_contra hlt
      have := Nat.mul_le_mul_right den (show num / den + 2 ≤ m by omega)
      have hcomm := Nat.mul_comm den (num / den)
      rw [Nat.add_mul] at this
      rw [Nat.mul_assoc] at lower
      omega
    omega
  unfold roundHalfEven
  have hcomm := Nat.mul_comm den (num / den)
  generalize num / den = q at *
  generalize num % den = r at *
  dsimp only
  rcases hm with rfl | rfl
  · rw [Nat.mul_assoc] at lower upper odd
    split
    · rfl
    · split
      · omega
      · split <;> omega
  · simp only [Nat.mul_assoc, Nat.add_mul, Nat.mul_add] at lower upper odd
    split
    · omega
    · split
      · rfl
      · split <;> omega

/-! ## Guard bits -/

/-- An extended mantissa holds the whole part of `num / den` and how the rest compares with a
half. -/
structure Tracks (em : ExtendedMantissa) (num den : ℕ) : Prop where
  mantissa : em.mantissa = num / den
  roundBit : em.roundBit = decide (den ≤ 2 * (num % den))
  stickyBit : em.stickyBit = decide (2 * (num % den) % den ≠ 0)

theorem tracks_fraction {den : ℕ} (hden : 0 < den) (num : ℕ) :
    Tracks (.ofMantissaAndAccuracy (num / den) (accuracyOfFraction (num % den) den)) num den := by
  have hrest := Nat.mod_lt num hden
  unfold accuracyOfFraction
  by_cases hzero : num % den = 0
  · rw [if_pos hzero]
    exact ⟨rfl, by simp [ExtendedMantissa.ofMantissaAndAccuracy, hzero, hden.ne'],
      by simp [ExtendedMantissa.ofMantissaAndAccuracy, hzero]⟩
  rw [if_neg hzero]
  rcases hcmp : compare (2 * (num % den)) den with _ | _ | _
  · have hlt := Nat.compare_eq_lt.mp hcmp
    have hmod := Nat.mod_eq_of_lt hlt
    exact ⟨rfl, by simp [ExtendedMantissa.ofMantissaAndAccuracy, hlt],
      by simp [ExtendedMantissa.ofMantissaAndAccuracy, hmod, hzero]⟩
  · have heq := Nat.compare_eq_eq.mp hcmp
    exact ⟨rfl, by simp [ExtendedMantissa.ofMantissaAndAccuracy, heq],
      by simp [ExtendedMantissa.ofMantissaAndAccuracy, heq]⟩
  · have hgt := Nat.compare_eq_gt.mp hcmp
    have hmod : 2 * (num % den) % den = 2 * (num % den) - den := by
      rw [Nat.mod_eq_sub_mod hgt.le, Nat.mod_eq_of_lt (by omega)]
    have hne : 2 * (num % den) - den ≠ 0 := by omega
    exact ⟨rfl, by simp [ExtendedMantissa.ofMantissaAndAccuracy, hgt.le],
      by simp [ExtendedMantissa.ofMantissaAndAccuracy, hmod, hne]⟩

namespace Tracks

variable {em : ExtendedMantissa} {num den : ℕ}

theorem shiftRightOne (hden : 0 < den) (h : Tracks em num den) :
    Tracks em.shiftRightOne num (den * 2) := by
  have hrest := Nat.mod_lt num hden
  have hmod : num % (den * 2) = num % den + den * (num / den % 2) := Nat.mod_mul
  have hbit := Nat.mod_two_eq_zero_or_one (num / den)
  refine ⟨?_, ?_, ?_⟩
  · rw [← Nat.div_div_eq_div_mul, ← h.mantissa]
    rfl
  · simp only [ExtendedMantissa.shiftRightOne, h.mantissa, hmod]
    rcases hbit with hbit | hbit <;> simp [hbit] <;> omega
  · have hdouble : 2 * (num % (den * 2)) % (den * 2) = 2 * (num % den) := by
      rcases hbit with hbit | hbit <;> rw [hmod, hbit]
      · rw [Nat.mul_zero, Nat.add_zero, Nat.mod_eq_of_lt (by omega)]
      · rw [Nat.mul_one, show 2 * (num % den + den) = 2 * (num % den) + den * 2 by ring,
          Nat.add_mod_right, Nat.mod_eq_of_lt (by omega)]
    have hzero : 2 * (num % den) % den = 0 → 2 * (num % den) < den → num % den = 0 := by
      intro hz hlt
      rw [Nat.mod_eq_of_lt hlt] at hz
      omega
    simp only [ExtendedMantissa.shiftRightOne, h.roundBit, h.stickyBit, hdouble,
      ← Bool.decide_or, decide_eq_decide]
    constructor
    · rintro (hle | hne) heq
      · omega
      · rw [heq] at hne
        exact hne (Nat.zero_mod den)
    · intro hne
      by_cases hle : den ≤ 2 * (num % den)
      · exact .inl hle
      · exact .inr fun hz => hne (by rw [hzero hz (by omega)])

/-- Shifting right divides by powers of two. -/
theorem shiftRight (hden : 0 < den) (h : Tracks em num den) (n : ℕ) :
    Tracks (em >>> n) num (den * 2 ^ n) := by
  change Tracks (n.repeat ExtendedMantissa.shiftRightOne em) num (den * 2 ^ n)
  induction n with
  | zero => simpa [Nat.repeat] using h
  | succ n ih =>
    rw [Nat.repeat, pow_succ, ← Nat.mul_assoc]
    exact ih.shiftRightOne (by positivity)

theorem roundedMantissa (hden : 0 < den) (h : Tracks em num den) :
    em.roundedMantissa = roundHalfEven num den := by
  have hrest := Nat.mod_lt num hden
  obtain ⟨mantissa, roundBit, stickyBit⟩ := em
  obtain ⟨rfl, hround, hsticky⟩ := h
  dsimp only at hround hsticky
  unfold ExtendedMantissa.roundedMantissa roundHalfEven
  dsimp only
  by_cases hlt : 2 * (num % den) < den
  · rw [if_pos hlt]
    obtain rfl : roundBit = false := by rw [hround]; simpa using hlt
    cases stickyBit <;> rfl
  obtain rfl : roundBit = true := by rw [hround]; simpa using hlt
  rw [if_neg hlt]
  by_cases hgt : den < 2 * (num % den)
  · rw [if_pos hgt]
    have hmod : 2 * (num % den) % den = 2 * (num % den) - den := by
      rw [Nat.mod_eq_sub_mod hgt.le, Nat.mod_eq_of_lt (by omega)]
    obtain rfl : stickyBit = true := by
      rw [hsticky, hmod]
      simp only [ne_eq, decide_eq_true_eq]
      omega
    rfl
  · have heq : 2 * (num % den) = den := by omega
    rw [if_neg hgt]
    obtain rfl : stickyBit = false := by rw [hsticky, heq]; simp
    simp only [ExtendedMantissa.accuracy, Accuracy.roundToNearestEven]
    split <;> omega

end Tracks

/-! ## Numbers that read back -/

namespace Dyadic

/-- The exact magnitude. -/
def magnitude (d : Dyadic) : ℚ := d.mantissa * 2 ^ d.exponent

/-- The distance to the lower end of what reads back, in quarters of the last binary place. -/
def lowerGap (d : Dyadic) : ℕ := if d.mantissa = hiddenBit ∧ -1074 < d.exponent then 1 else 2

/-- The magnitudes that read back: those nearer to the number than to its neighbours, and those
half way when the mantissa is even. -/
@[mk_iff]
structure Rounds (d : Dyadic) (y : ℚ) : Prop where
  lower : (4 * d.mantissa - d.lowerGap) * 2 ^ (d.exponent - 2) ≤ y
  upper : y ≤ (4 * d.mantissa + 2) * 2 ^ (d.exponent - 2)
  odd : d.mantissa % 2 = 1 → (4 * d.mantissa - d.lowerGap) * 2 ^ (d.exponent - 2) < y ∧
    y < (4 * d.mantissa + 2) * 2 ^ (d.exponent - 2)

theorem lowerGap_cases (d : Dyadic) :
    d.lowerGap = 1 ∧ d.mantissa = 2 ^ 52 ∧ -1074 < d.exponent ∨
      d.lowerGap = 2 ∧ ¬(d.mantissa = 2 ^ 52 ∧ -1074 < d.exponent) := by
  unfold lowerGap
  change (if d.mantissa = 2 ^ 52 ∧ -1074 < d.exponent then 1 else 2) = 1 ∧ _ ∨ _
  split
  · rename_i h
    exact .inl ⟨rfl, h⟩
  · rename_i h
    exact .inr ⟨if_neg h, h⟩

/-- What a mantissa and an exponent are worth in quarters of the last place. -/
theorem two_zpow_eq (e : ℤ) : (2 : ℚ) ^ e = 4 * 2 ^ (e - 2) := by
  rw [zpow_sub₀ (by norm_num)]
  norm_num
  ring

theorem Rounds.self (d : Dyadic) : d.Rounds d.magnitude := by
  have hpos : (0 : ℚ) < 2 ^ (d.exponent - 2) := by positivity
  have hgap : (0 : ℚ) < d.lowerGap := by
    rcases d.lowerGap_cases with ⟨h, -⟩ | ⟨h, -⟩ <;> rw [h] <;> norm_num
  have hlower : (4 * (d.mantissa : ℚ) - d.lowerGap) * 2 ^ (d.exponent - 2) < d.magnitude := by
    rw [magnitude, two_zpow_eq d.exponent]
    nlinarith
  have hupper : d.magnitude < (4 * d.mantissa + 2) * 2 ^ (d.exponent - 2) := by
    rw [magnitude, two_zpow_eq d.exponent]
    nlinarith
  exact ⟨hlower.le, hupper.le, fun _ => ⟨hlower, hupper⟩⟩

/-- The bounds in natural numbers, of a fraction in units of the last place. -/
theorem rounds_fraction_iff {d : Dyadic} {num den : ℕ} (hden : 0 < den) :
    d.Rounds (num / den * 2 ^ d.exponent) ↔
      4 * d.mantissa * den ≤ 4 * num + d.lowerGap * den ∧ 2 * num ≤ 2 * d.mantissa * den + den ∧
        (d.mantissa % 2 = 1 → 4 * d.mantissa * den < 4 * num + d.lowerGap * den ∧
          2 * num < 2 * d.mantissa * den + den) := by
  have hpos : (0 : ℚ) < 2 ^ (d.exponent - 2) := by positivity
  have hden' : (0 : ℚ) < den := by exact_mod_cast hden
  have hvalue : (num : ℚ) / den * 2 ^ d.exponent = 4 * num / den * 2 ^ (d.exponent - 2) := by
    rw [two_zpow_eq d.exponent]
    ring
  have hlower {a b c : ℕ} : ((a : ℚ) - b) * den ≤ c ↔ a * den ≤ c + b * den := by
    rw [sub_mul, sub_le_iff_le_add]
    exact_mod_cast Iff.rfl
  have hlower' {a b c : ℕ} : ((a : ℚ) - b) * den < c ↔ a * den < c + b * den := by
    rw [sub_mul, sub_lt_iff_lt_add]
    exact_mod_cast Iff.rfl
  have hupper : (4 * num : ℚ) ≤ (4 * d.mantissa + 2) * den ↔
      2 * num ≤ 2 * d.mantissa * den + den := by
    rw [show (4 * d.mantissa + 2 : ℚ) * den = 2 * (2 * d.mantissa * den + den) by ring,
      show (4 * num : ℚ) = 2 * (2 * num) by ring, mul_le_mul_iff_right₀ (by norm_num)]
    exact_mod_cast Iff.rfl
  have hupper' : (4 * num : ℚ) < (4 * d.mantissa + 2) * den ↔
      2 * num < 2 * d.mantissa * den + den := by
    rw [show (4 * d.mantissa + 2 : ℚ) * den = 2 * (2 * d.mantissa * den + den) by ring,
      show (4 * num : ℚ) = 2 * (2 * num) by ring, mul_lt_mul_iff_right₀ (by norm_num)]
    exact_mod_cast Iff.rfl
  rw [rounds_iff, hvalue, mul_le_mul_iff_of_pos_right hpos, mul_le_mul_iff_of_pos_right hpos,
    mul_lt_mul_iff_of_pos_right hpos, mul_lt_mul_iff_of_pos_right hpos, le_div_iff₀ hden',
    div_le_iff₀ hden', lt_div_iff₀ hden', div_lt_iff₀ hden', hupper, hupper']
  exact_mod_cast and_congr hlower
    (and_congr_right' (imp_congr_right fun _ => and_congr_left' hlower'))

section

variable {d : Dyadic} (hd : d.Proper) {y : ℚ} (h : d.Rounds y)
include hd h

theorem Rounds.lt_two_zpow : y < 2 ^ (d.exponent + 53) := by
  have hpos : (0 : ℚ) < 2 ^ (d.exponent - 2) := by positivity
  have hm : (d.mantissa : ℚ) + 1 ≤ 2 ^ 53 := by exact_mod_cast hd.mantissa_lt
  have hscale : (2 : ℚ) ^ (d.exponent + 53) = 2 ^ 55 * 2 ^ (d.exponent - 2) := by
    rw [← zpow_natCast, ← zpow_add₀ (by norm_num)]
    congr 1
    omega
  calc y ≤ (4 * d.mantissa + 2) * 2 ^ (d.exponent - 2) := h.upper
    _ < 2 ^ 55 * 2 ^ (d.exponent - 2) := by
      apply mul_lt_mul_of_pos_right _ hpos
      linarith
    _ = 2 ^ (d.exponent + 53) := hscale.symm

/-- What rounds to a number beyond the least binade lies above half the least mantissa of full
length, and above that mantissa unless the number has it. -/
theorem Rounds.two_zpow_lt (hfull : -1074 < d.exponent) :
    2 ^ (d.exponent + 51) < y ∧ (d.mantissa ≠ 2 ^ 52 → 2 ^ (d.exponent + 52) < y) := by
  have hpos : (0 : ℚ) < 2 ^ (d.exponent - 2) := by positivity
  have hm : (2 ^ 52 : ℚ) ≤ d.mantissa := by exact_mod_cast hd.full.resolve_right hfull.ne'
  have hscale (n : ℕ) : (2 : ℚ) ^ (d.exponent + n) = 2 ^ (n + 2) * 2 ^ (d.exponent - 2) := by
    rw [← zpow_natCast, ← zpow_add₀ (by norm_num)]
    congr 1
    push_cast
    omega
  have hgap : (d.lowerGap : ℚ) ≤ 2 := by
    rcases d.lowerGap_cases with ⟨hg, -⟩ | ⟨hg, -⟩ <;> rw [hg] <;> norm_num
  refine ⟨?_, fun hne => ?_⟩
  · rw [show d.exponent + 51 = d.exponent + (51 : ℕ) from rfl, hscale]
    refine lt_of_lt_of_le (mul_lt_mul_of_pos_right ?_ hpos) h.lower
    have : (2 : ℚ) ^ (51 + 2) = 2 * 2 ^ 52 := by norm_num
    linarith
  · have hm' : (2 ^ 52 : ℚ) + 1 ≤ d.mantissa := by
      have := hd.full.resolve_right hfull.ne'
      exact_mod_cast Nat.lt_of_le_of_ne this (Ne.symm hne)
    rw [show d.exponent + 52 = d.exponent + (52 : ℕ) from rfl, hscale]
    refine lt_of_lt_of_le (mul_lt_mul_of_pos_right ?_ hpos) h.lower
    have : (2 : ℚ) ^ (52 + 2) = 4 * 2 ^ 52 := by norm_num
    linarith

/-- The place that the size of a magnitude asks for is that of the number it rounds to, or the one
below when it rounds up to the least mantissa of full length. -/
theorem Rounds.place {t : ℤ} (ht : -1074 ≤ t) (lower : t = -1074 ∨ 2 ^ (t + 52) ≤ y)
    (upper : y < 2 ^ (t + 53)) :
    t = d.exponent ∨ t = d.exponent - 1 ∧ d.mantissa = 2 ^ 52 ∧ -1074 < d.exponent := by
  have hmono {a b : ℤ} : (2 : ℚ) ^ a < 2 ^ b → a < b := (zpow_lt_zpow_iff_right₀ (by norm_num)).mp
  have hle : t ≤ d.exponent := by
    rcases lower with rfl | lower
    · exact hd.least
    · have := hmono (lower.trans_lt (h.lt_two_zpow hd))
      omega
  rcases hle.eq_or_lt with heq | hlt
  · exact .inl heq
  obtain ⟨hhalf, hmore⟩ := h.two_zpow_lt hd (by omega)
  have hge := hmono (hhalf.trans upper)
  have hm : d.mantissa = 2 ^ 52 := by
    by_contra hne
    have := hmono ((hmore hne).trans upper)
    omega
  exact .inr ⟨by omega, hm, by omega⟩

end

/-! ## Rounding arithmetic -/

theorem targetExponent_eq (k : ℤ) :
    Format.binary64.targetExponent k = max (k - 53) (-1074) := by
  simp only [Format.targetExponent, Format.mantissaBits, Format.minExponent]
  norm_num

theorem shiftToTargetExponent_eq {m : ℕ} {e : ℤ} {n : ℕ}
    (h : max ((m.log2 : ℤ) + e - 52) (-1074) = e + n) (a : Accuracy) :
    shiftToTargetExponent .binary64 m e a =
      (ExtendedMantissa.ofMantissaAndAccuracy m a >>> n, e + n) := by
  unfold shiftToTargetExponent shiftToExponent
  have htarget : Format.binary64.targetExponent (totalExponent m e) = e + n := by
    rw [targetExponent_eq, ← h]
    unfold totalExponent
    omega
  rw [htarget]
  dsimp only
  rw [show (e + n - e).toNat = n by omega]

/-- A proper form stays where it is. -/
theorem Proper.shiftToTargetExponent {d : Dyadic} (hd : d.Proper) :
    shiftToTargetExponent .binary64 d.mantissa d.exponent .exact =
      (⟨d.mantissa, false, false⟩, d.exponent) := by
  have htarget : max ((d.mantissa.log2 : ℤ) + d.exponent - 52) (-1074) = d.exponent + (0 : ℕ) := by
    have hleast := hd.least
    by_cases hm : 2 ^ 52 ≤ d.mantissa
    · rw [(Nat.log2_eq_iff (by omega)).mpr ⟨hm, hd.mantissa_lt⟩]
      omega
    · have hexponent := hd.full.resolve_left hm
      have hlog := log2_lt_of_lt (by decide) hd.mantissa_lt
      omega
  rw [shiftToTargetExponent_eq htarget]
  exact Prod.ext rfl (Int.add_zero _)

/-! ### A fraction between powers of two -/

section

variable {num den : ℕ} (hden : 0 < den) (e : ℤ)
include hden

theorem fraction_lt_two_zpow :
    (num : ℚ) / den * 2 ^ e < 2 ^ (((num / den).log2 : ℤ) + e + 1) := by
  have hden' : (0 : ℚ) < den := by exact_mod_cast hden
  have hquotient : (num : ℚ) / den < (num / den : ℕ) + 1 := by
    rw [div_lt_iff₀ hden']
    exact_mod_cast Nat.lt_mul_of_div_lt (Nat.lt_succ_self _) hden
  have hlog : ((num / den : ℕ) : ℚ) + 1 ≤ 2 ^ ((num / den).log2 + 1) := by
    exact_mod_cast Nat.lt_log2_self
  calc (num : ℚ) / den * 2 ^ e < 2 ^ ((num / den).log2 + 1) * 2 ^ e :=
        mul_lt_mul_of_pos_right (hquotient.trans_le hlog) (by positivity)
    _ = 2 ^ (((num / den).log2 : ℤ) + e + 1) := by
        rw [← zpow_natCast, ← zpow_add₀ (by norm_num)]
        congr 1
        push_cast
        omega

omit hden in
theorem two_zpow_le_fraction (h : num / den ≠ 0) :
    (2 : ℚ) ^ (((num / den).log2 : ℤ) + e) ≤ num / den * 2 ^ e := by
  have hlog : (2 : ℚ) ^ (num / den).log2 ≤ (num / den : ℕ) := by
    exact_mod_cast Nat.log2_self_le h
  rw [zpow_add₀ (by norm_num), zpow_natCast]
  exact mul_le_mul_of_nonneg_right (hlog.trans Nat.cast_div_le) (by positivity)

/-- Rounding with guard bits rounds to the place that the size of the fraction asks for, and what
has become too long then loses a digit. -/
theorem roundWithAccuracy_eq {n : ℕ}
    (hn : max (((num / den).log2 : ℤ) + e - 52) (-1074) = e + n) (s : Sign) :
    UnpackedFloat.roundWithAccuracy .binary64 s (num / den) e
        (accuracyOfFraction (num % den) den) =
      (let shifted :=
        shiftToTargetExponent .binary64 (roundHalfEven num (den * 2 ^ n)) (e + n) .exact
       if hne : shifted.1.mantissa = 0 then .zero s
       else .finite s shifted.1.mantissa shifted.2 (Nat.pos_of_ne_zero hne)) := by
  unfold UnpackedFloat.roundWithAccuracy
  rw [shiftToTargetExponent_eq hn]
  dsimp only
  rw [((tracks_fraction hden num).shiftRight hden n).roundedMantissa (by positivity)]

variable {d : Dyadic}

/-- In its own place, what reads back is rounded to the mantissa. -/
theorem Rounds.roundHalfEven_eq (h : d.Rounds (num / den * 2 ^ d.exponent)) :
    roundHalfEven num den = d.mantissa := by
  obtain ⟨lower, upper, odd⟩ := (rounds_fraction_iff hden).mp h
  have hgap : d.lowerGap * den ≤ 2 * den := by
    apply Nat.mul_le_mul_right
    rcases d.lowerGap_cases with ⟨hg, -⟩ | ⟨hg, -⟩ <;> omega
  apply StateExpr.roundHalfEven_eq hden
  · linarith
  · exact upper
  · intro hodd
    obtain ⟨hl, hu⟩ := odd hodd
    exact ⟨by linarith, hu⟩

/-- One place below, what reads back as the least mantissa of full length but is less is rounded to
twice that mantissa. -/
theorem Rounds.roundHalfEven_below (hgap : d.lowerGap = 1) (hm : d.mantissa = 2 ^ 52)
    (hlt : num < 2 ^ 53 * den) (h : d.Rounds (num / (den * 2 : ℕ) * 2 ^ d.exponent)) :
    roundHalfEven num den = 2 ^ 53 := by
  obtain ⟨lower, -, -⟩ := (rounds_fraction_iff (by positivity)).mp h
  rw [hm, hgap] at lower
  apply StateExpr.roundHalfEven_eq hden
  · linarith
  · linarith
  · intro hodd
    omega

end

/-- The least mantissa of full length, made of one that is a digit too long. -/
theorem shiftToTargetExponent_two_pow {e : ℤ} (he : -1074 ≤ e) :
    shiftToTargetExponent .binary64 (2 ^ 53) e .exact = (⟨2 ^ 52, false, false⟩, e + 1) := by
  have htarget : max (((2 ^ 53 : ℕ).log2 : ℤ) + e - 52) (-1074) = e + (1 : ℕ) := by
    rw [Nat.log2_two_pow]
    omega
  rw [shiftToTargetExponent_eq htarget]
  rfl

/-- A fraction given by its quotient and how the rest compares with a half rounds to the number in
whose interval it lies. -/
theorem Rounds.roundWithAccuracy {d : Dyadic} (hd : d.Proper) (hm : 0 < d.mantissa) {num den : ℕ}
    (hden : 0 < den) {e : ℤ}
    (he : e ≤ Format.binary64.targetExponent (totalExponent (num / den) e))
    (h : d.Rounds (num / den * 2 ^ e)) (s : Sign) :
    roundWithAccuracy .binary64 s (num / den) e (accuracyOfFraction (num % den) den) =
      .finite s d.mantissa d.exponent hm := by
  rw [targetExponent_eq, totalExponent] at he
  generalize ht : max (((num / den).log2 : ℤ) + e - 52) (-1074) = t at he
  obtain ⟨n, rfl⟩ : ∃ n : ℕ, t = e + n := ⟨(t - e).toNat, by omega⟩
  have hunit : 0 < den * 2 ^ n := by positivity
  -- the magnitude in units of the place that its size asks for
  have hscale : (num : ℚ) / den * 2 ^ e = num / (den * 2 ^ n : ℕ) * 2 ^ (e + n) := by
    rw [zpow_add₀ (by norm_num), zpow_natCast]
    push_cast
    field_simp
  have hupper : (num : ℚ) / den * 2 ^ e < 2 ^ (e + n + 53) :=
    (fraction_lt_two_zpow hden e).trans_le (zpow_le_zpow_right₀ (by norm_num) (by omega))
  have hlower : e + n = -1074 ∨ (2 : ℚ) ^ (e + n + 52) ≤ num / den * 2 ^ e := by
    by_cases hleast : e + n = -1074
    · exact .inl hleast
    have hquotient : num / den ≠ 0 := by
      intro hzero
      rw [hzero, Nat.log2_zero] at ht
      omega
    right
    rw [show e + n + 52 = ((num / den).log2 : ℤ) + e by omega]
    exact two_zpow_le_fraction e hquotient
  rw [roundWithAccuracy_eq hden e ht]
  rcases h.place hd (by omega) hlower hupper with heq | ⟨heq, hmantissa, hfull⟩
  · rw [hscale, heq] at h
    rw [h.roundHalfEven_eq hunit, heq, hd.shiftToTargetExponent]
    exact dif_neg hm.ne'
  · have hbelow : (num : ℚ) / (den * 2 ^ n : ℕ) * 2 ^ (e + n) =
        num / (den * 2 ^ n * 2 : ℕ) * 2 ^ d.exponent := by
      rw [heq, zpow_sub_one₀ (by norm_num)]
      push_cast
      field_simp
    have hgap : d.lowerGap = 1 := by
      rcases d.lowerGap_cases with ⟨hg, -⟩ | ⟨-, hne⟩
      · exact hg
      · exact absurd ⟨hmantissa, hfull⟩ hne
    have hlt : num < 2 ^ 53 * (den * 2 ^ n) := by
      have hsplit : (2 : ℚ) ^ (e + n + 53) = 2 ^ 53 * 2 ^ (e + n) := by
        rw [add_comm (e + (n : ℤ)), zpow_add₀ (by norm_num)]
        rfl
      rw [hscale, hsplit, mul_lt_mul_iff_of_pos_right (by positivity),
        div_lt_iff₀ (by exact_mod_cast hunit)] at hupper
      exact_mod_cast hupper
    rw [hscale, hbelow] at h
    have hexponent : e + n + 1 = d.exponent := by omega
    rw [h.roundHalfEven_below hunit hgap hmantissa hlt, shiftToTargetExponent_two_pow (by omega)]
    simp only [hexponent, hmantissa]
    exact dif_neg (by decide)

section

variable {d : Dyadic} (hd : d.Proper) (hm : 0 < d.mantissa)
include hd

/-- A product of two natural mantissas, long enough that rounding only drops digits. -/
theorem Rounds.mul {m₁ m₂ : ℕ} {e₁ e₂ : ℤ} (h₁ : 0 < m₁) (h₂ : 0 < m₂)
    (hlong : 2 ^ 52 ≤ m₁ * m₂) (h : d.Rounds (m₁ * 2 ^ e₁ * (m₂ * 2 ^ e₂))) (s₁ s₂ : Sign) :
    UnpackedFloat.mul .binary64 (.finite s₁ m₁ e₁ h₁) (.finite s₂ m₂ e₂ h₂) =
      .finite (s₁ * s₂) d.mantissa d.exponent hm := by
  have hvalue : (m₁ : ℚ) * 2 ^ e₁ * (m₂ * 2 ^ e₂) =
      (m₁ * m₂ : ℕ) / (1 : ℕ) * 2 ^ (e₁ + e₂) := by
    rw [zpow_add₀ (by norm_num)]
    push_cast
    ring
  have htarget : e₁ + e₂ ≤
      Format.binary64.targetExponent (totalExponent (m₁ * m₂ / 1) (e₁ + e₂)) := by
    have hlog := (Nat.le_log2 (by positivity)).mpr hlong
    rw [targetExponent_eq, totalExponent, Nat.div_one]
    omega
  rw [hvalue] at h
  have hround := h.roundWithAccuracy hd hm one_pos htarget (s₁ * s₂)
  rwa [Nat.div_one, Nat.mod_one] at hround

/-- A quotient of two natural mantissas. -/
theorem Rounds.div {m₁ m₂ : ℕ} {e₁ e₂ : ℤ} (h₁ : 0 < m₁) (h₂ : 0 < m₂)
    (h : d.Rounds (m₁ * 2 ^ e₁ / (m₂ * 2 ^ e₂))) (s₁ s₂ : Sign) :
    UnpackedFloat.div .binary64 (.finite s₁ m₁ e₁ h₁) (.finite s₂ m₂ e₂ h₂) =
      .finite (s₁ / s₂) d.mantissa d.exponent hm := by
  unfold UnpackedFloat.div divCore
  dsimp only
  generalize ht : min (e₁ - e₂) (Format.binary64.targetExponent
    (totalExponent m₁ e₁ - totalExponent m₂ e₂)) = t
  rw [targetExponent_eq] at ht
  unfold totalExponent at ht
  obtain ⟨n, hn⟩ : ∃ n : ℕ, e₁ - e₂ = t + n := ⟨(e₁ - e₂ - t).toNat, by omega⟩
  rw [show (e₁ - e₂ - t).toNat = n by omega, Nat.shiftLeft_eq]
  have hvalue : (m₁ : ℚ) * 2 ^ e₁ / (m₂ * 2 ^ e₂) = (m₁ * 2 ^ n : ℕ) / m₂ * 2 ^ t := by
    have hsplit : (2 : ℚ) ^ e₁ = 2 ^ t * 2 ^ n * 2 ^ e₂ := by
      rw [← zpow_natCast, ← zpow_add₀ (by norm_num), ← zpow_add₀ (by norm_num)]
      congr 1
      omega
    rw [hsplit]
    push_cast
    field_simp
  have htarget : t ≤ Format.binary64.targetExponent (totalExponent (m₁ * 2 ^ n / m₂) t) := by
    rw [targetExponent_eq]
    unfold totalExponent
    by_cases hleast : t ≤ -1074
    · omega
    have hexponents : 53 + m₂.log2 ≤ m₁.log2 + n := by omega
    have hlong : 2 ^ 52 ≤ m₁ * 2 ^ n / m₂ := by
      rw [Nat.le_div_iff_mul_le h₂]
      calc 2 ^ 52 * m₂ ≤ 2 ^ 52 * 2 ^ (m₂.log2 + 1) :=
            Nat.mul_le_mul_left _ Nat.lt_log2_self.le
        _ = 2 ^ (53 + m₂.log2) := by ring
        _ ≤ 2 ^ (m₁.log2 + n) := Nat.pow_le_pow_right (by norm_num) hexponents
        _ = 2 ^ m₁.log2 * 2 ^ n := pow_add 2 _ _
        _ ≤ m₁ * 2 ^ n := Nat.mul_le_mul_right _ (Nat.log2_self_le h₁.ne')
    have hlog := (Nat.le_log2 (by omega)).mpr hlong
    omega
  rw [hvalue] at h
  exact h.roundWithAccuracy hd hm h₂ htarget (s₁ / s₂)

end

end Dyadic

end StateExpr
