import StateExpr.Number.Shortest
import StateExpr.Proofs.Number.Digits
import StateExpr.Proofs.Number.Whole
/-!
# The shortest decimal reads back

The decimal that is written for a number lies in the interval of what reads back as the number.
Seventeen digits always reach into that interval: their grid is finer than its shorter side and
half its length together, which the length of a mantissa decides.

Main statements: `Dyadic.readsBack_iff`, `Dyadic.exists_nearestOn` and `Dyadic.shortest_rounds`.
-/

namespace StateExpr

/-- The exact value of a decimal. -/
def Decimal.value (x : Decimal) : ℚ := x.digits * 10 ^ x.exponent

namespace Dyadic

/-- Dropping zeros only moves the point. -/
theorem value_dropZeros (fuel : ℕ) (x : Decimal) : (dropZeros fuel x).value = x.value := by
  induction fuel generalizing x with
  | zero => rfl
  | succ fuel ih =>
    unfold dropZeros
    split
    · rename_i hzero
      have hdigits : x.digits = x.digits / 10 * 10 := by omega
      rw [ih, Decimal.value, Decimal.value, zpow_add_one₀ (by norm_num)]
      dsimp only
      conv_rhs => rw [hdigits]
      push_cast
      ring
    · rfl

/-! ## The grid -/

/-- A quarter of the last binary place in the unit of the grid. -/
def quarter (d : Dyadic) (step : ℤ) : ℕ := 2 ^ (d.exponent - 2).toNat * 10 ^ (-step).toNat

theorem quarter_pos (d : Dyadic) (step : ℤ) : 0 < d.quarter step := by
  unfold quarter
  positivity

theorem grid_unit_pos (d : Dyadic) (step : ℤ) : 0 < (d.grid step).unit := by
  have : 0 < 2 ^ (2 - d.exponent).toNat * 10 ^ step.toNat := by positivity
  exact this

theorem grid_eq (d : Dyadic) (step : ℤ) : d.grid step =
    { value := 4 * d.mantissa * d.quarter step
      low := (4 * d.mantissa - d.lowerGap) * d.quarter step
      high := (4 * d.mantissa + 2) * d.quarter step
      unit := (d.grid step).unit } := rfl

/-- Both units are taken over one denominator. -/
theorem grid_unit (d : Dyadic) (step : ℤ) :
    ((d.grid step).unit : ℚ) / (4 * d.quarter step : ℕ) * 2 ^ d.exponent = 10 ^ step := by
  have htwo : (2 : ℚ) ^ (d.exponent - 2) =
      2 ^ (d.exponent - 2).toNat / 2 ^ (2 - d.exponent).toNat := by
    rw [← zpow_natCast, ← zpow_natCast, ← zpow_sub₀ (by norm_num)]
    congr 1
    omega
  have hten : (10 : ℚ) ^ step = 10 ^ step.toNat / 10 ^ (-step).toNat := by
    rw [← zpow_natCast, ← zpow_natCast, ← zpow_sub₀ (by norm_num)]
    congr 1
    omega
  have hunit : (d.grid step).unit = 2 ^ (2 - d.exponent).toNat * 10 ^ step.toNat := rfl
  rw [two_zpow_eq, htwo, hten, hunit, quarter]
  push_cast
  field_simp

theorem lowerGap_le {d : Dyadic} (hm : 0 < d.mantissa) : d.lowerGap ≤ 4 * d.mantissa := by
  rcases d.lowerGap_cases with ⟨hg, -⟩ | ⟨hg, -⟩ <;> omega

section

variable {d : Dyadic} (hm : 0 < d.mantissa)
include hm

/-- A multiple of the grid's step reads back when it lies in the interval. -/
theorem readsBack_iff (step : ℤ) (n : ℕ) :
    d.readsBack (d.grid step) n = true ↔ d.Rounds (n * 10 ^ step) := by
  have hvalue : (n : ℚ) * 10 ^ step =
      (n * (d.grid step).unit : ℕ) / (4 * d.quarter step : ℕ) * 2 ^ d.exponent := by
    rw [← grid_unit d step]
    push_cast
    ring
  have hgap := lowerGap_le hm
  have hpos := d.quarter_pos step
  rw [hvalue, rounds_fraction_iff (by omega), grid_eq, readsBack]
  dsimp only
  rw [Nat.sub_mul, Nat.add_mul]
  have hle : d.lowerGap * d.quarter step ≤ 4 * d.mantissa * d.quarter step :=
    Nat.mul_le_mul_right _ hgap
  have hfour : 4 * d.mantissa * (4 * d.quarter step) = 4 * (4 * d.mantissa * d.quarter step) := by
    ring
  have hgap' : d.lowerGap * (4 * d.quarter step) = 4 * (d.lowerGap * d.quarter step) := by ring
  have htwo : 2 * d.mantissa * (4 * d.quarter step) = 2 * (4 * d.mantissa * d.quarter step) := by
    ring
  rw [hfour, hgap', htwo]
  generalize 4 * d.mantissa * d.quarter step = value at *
  generalize d.lowerGap * d.quarter step = gap at *
  generalize n * (d.grid step).unit = point at *
  by_cases heven : d.mantissa % 2 = 0
  · rw [if_pos heven, decide_eq_true_iff]
    omega
  · rw [if_neg heven, decide_eq_true_iff]
    omega

/-- The leading digit stands no higher than the magnitude reaches. -/
theorem leadingExponent_le : (10 : ℚ) ^ d.leadingExponent ≤ d.magnitude := by
  have hden : (0 : ℚ) < d.denominator := by exact_mod_cast d.denominator_pos
  have hnum : 0 < d.numerator := by
    have : 0 < 2 ^ d.exponent.toNat := by positivity
    exact Nat.mul_pos hm this
  rw [magnitude_eq, le_div_iff₀ hden]
  unfold leadingExponent magnitudeDown
  dsimp only
  by_cases hwhole : d.numerator / d.denominator = 0
  · have hlt : d.numerator < d.denominator := by
      rcases Nat.div_eq_zero_iff.mp hwhole with hzero | hlt
      · exact absurd hzero d.denominator_pos.ne'
      · exact hlt
    have hquotient : 0 < (d.denominator - 1) / d.numerator := Nat.div_pos (by omega) hnum
    have hsmall := (length_toDigits_bounds hquotient).2
    rw [if_pos hwhole, digitCount, if_neg hquotient.ne', zpow_neg, zpow_natCast,
      inv_mul_le_iff₀ (by positivity)]
    have hlast := Nat.lt_mul_div_succ (d.denominator - 1) hnum
    have hnat : d.denominator ≤
        10 ^ (Nat.toDigits 10 ((d.denominator - 1) / d.numerator)).length * d.numerator := by
      calc d.denominator ≤ d.numerator * ((d.denominator - 1) / d.numerator + 1) := by omega
        _ ≤ d.numerator * 10 ^ (Nat.toDigits 10 ((d.denominator - 1) / d.numerator)).length :=
          Nat.mul_le_mul_left _ hsmall
        _ = _ := Nat.mul_comm _ _
    exact_mod_cast hnat
  · have hpos := Nat.pos_of_ne_zero hwhole
    have hlarge := (length_toDigits_bounds hpos).1
    have hlength : 0 < (Nat.toDigits 10 (d.numerator / d.denominator)).length :=
      Nat.length_toDigits_pos
    rw [if_neg hwhole, digitCount, if_neg hwhole,
      show ((Nat.toDigits 10 (d.numerator / d.denominator)).length : ℤ) - 1 =
        ((Nat.toDigits 10 (d.numerator / d.denominator)).length - 1 : ℕ) by omega, zpow_natCast]
    have hnat : 10 ^ ((Nat.toDigits 10 (d.numerator / d.denominator)).length - 1) * d.denominator ≤
        d.numerator :=
      (Nat.mul_le_mul_right _ hlarge).trans (Nat.div_mul_le_self _ _)
    exact_mod_cast hnat

/-- A grid finer than the interval is long has a neighbour of the number that reads back. -/
theorem readsBack_neighbour {step : ℤ}
    (h : (d.grid step).unit < (d.lowerGap + 2) * d.quarter step) :
    d.readsBack (d.grid step) ((d.grid step).value / (d.grid step).unit) = true ∨
      d.readsBack (d.grid step) ((d.grid step).value / (d.grid step).unit + 1) = true := by
  have hsplit := Nat.div_add_mod (d.grid step).value (d.grid step).unit
  have hrest := Nat.mod_lt (d.grid step).value (d.grid_unit_pos step)
  have hquarter := d.quarter_pos step
  have hle : d.lowerGap * d.quarter step ≤ 4 * d.mantissa * d.quarter step :=
    Nat.mul_le_mul_right _ (lowerGap_le hm)
  rw [Nat.add_mul] at h
  rw [Nat.mul_comm] at hsplit
  unfold readsBack
  rw [grid_eq] at hsplit hrest ⊢
  dsimp only at hsplit hrest ⊢
  rw [Nat.sub_mul, Nat.add_mul, Nat.add_mul, Nat.one_mul]
  generalize 4 * d.mantissa * d.quarter step = value at *
  generalize d.lowerGap * d.quarter step = gap at *
  generalize value / (d.grid step).unit * (d.grid step).unit = below at *
  generalize (d.grid step).unit = unit at *
  split <;> rw [decide_eq_true_iff, decide_eq_true_iff] <;> omega

/-- With seventeen digits, the grid has `10 ^ 16` points below the number. -/
theorem mul_grid_unit_le : 10 ^ 16 * (d.grid (d.leadingExponent - 16)).unit ≤
    d.mantissa * (4 * d.quarter (d.leadingExponent - 16)) := by
  have hquarter := d.quarter_pos (d.leadingExponent - 16)
  have hleading := leadingExponent_le hm
  have hvalue := grid_unit d (d.leadingExponent - 16)
  rw [sub_eq_add_neg, add_comm, zpow_add₀ (by norm_num), ← sub_eq_neg_add] at hvalue
  have hpower : (10 : ℚ) ^ (-16 : ℤ) * 10 ^ 16 = 1 := by norm_num
  have hle : ((d.grid (d.leadingExponent - 16)).unit : ℚ) /
      (4 * d.quarter (d.leadingExponent - 16) : ℕ) * 10 ^ 16 * 2 ^ d.exponent ≤
      d.mantissa * 2 ^ d.exponent := by
    calc _ = ((d.grid (d.leadingExponent - 16)).unit : ℚ) /
          (4 * d.quarter (d.leadingExponent - 16) : ℕ) * 2 ^ d.exponent * 10 ^ 16 := by ring
      _ = 10 ^ d.leadingExponent * (10 ^ (-16 : ℤ) * 10 ^ 16) := by rw [hvalue]; ring
      _ ≤ d.mantissa * 2 ^ d.exponent := by rw [hpower, mul_one]; exact hleading
  have hquarter' : 0 < 4 * d.quarter (d.leadingExponent - 16) := by omega
  rw [mul_le_mul_iff_of_pos_right (by positivity), div_mul_eq_mul_div,
    div_le_iff₀ (by exact_mod_cast hquarter')] at hle
  rw [Nat.mul_comm]
  exact_mod_cast hle

/-- With seventeen digits, the grid is finer than the interval is long. -/
theorem grid_unit_lt (hd : d.Proper) : (d.grid (d.leadingExponent - 16)).unit <
    (d.lowerGap + 2) * d.quarter (d.leadingExponent - 16) := by
  have hquarter := d.quarter_pos (d.leadingExponent - 16)
  have hfine := mul_grid_unit_le hm
  by_contra hlong
  rcases d.lowerGap_cases with ⟨hgap, hmantissa, -⟩ | ⟨hgap, -⟩
  · rw [hgap] at hlong
    rw [hmantissa] at hfine
    omega
  · rw [hgap] at hlong
    have hmantissa :=
      Nat.mul_le_mul_right (4 * d.quarter (d.leadingExponent - 16)) hd.mantissa_lt.le
    omega

/-- Seventeen digits reach a decimal that reads back. -/
theorem exists_nearestOn (hd : d.Proper) (tie : TieRule) :
    (d.nearestOn tie (d.leadingExponent - 16)).isSome = true := by
  have hneighbour := readsBack_neighbour hm (grid_unit_lt hm hd)
  unfold nearestOn
  dsimp only
  split
  · rename_i hbelow habove
    rcases hneighbour with h | h
    · rw [hbelow] at h
      cases h
    · rw [habove] at h
      cases h
  · rfl
  · rfl
  · split
    · rfl
    split
    · rfl
    · cases tie <;> rfl

omit hm in
theorem readsBack_of_nearestOn {tie : TieRule} {step : ℤ} {n : ℕ}
    (h : d.nearestOn tie step = some n) : d.readsBack (d.grid step) n = true := by
  unfold nearestOn at h
  dsimp only at h
  split at h
  · cases h
  · rename_i hbelow _
    obtain rfl := Option.some.inj h
    exact hbelow
  · rename_i _ habove
    obtain rfl := Option.some.inj h
    exact habove
  · rename_i hbelow habove
    have hn : n = (d.grid step).value / (d.grid step).unit ∨
        n = (d.grid step).value / (d.grid step).unit + 1 := by
      split at h
      · exact .inl (Option.some.inj h).symm
      split at h
      · exact .inr (Option.some.inj h).symm
      cases tie
      · exact .inr (Option.some.inj h).symm
      · have := Option.some.inj h
        split at this <;> omega
    rcases hn with rfl | rfl
    · exact hbelow
    · exact habove

/-- The shortest decimal of a number reads back. -/
theorem shortest_rounds (hd : d.Proper) (tie : TieRule) : d.Rounds (d.shortest tie).value := by
  unfold shortest
  rw [if_neg hm.ne']
  dsimp only
  rw [value_dropZeros]
  cases hfound : (List.range 17).findSome? fun (n : ℕ) =>
      (d.nearestOn tie (d.leadingExponent - n)).map fun digits =>
        (⟨digits, d.leadingExponent - n⟩ : Decimal) with
  | none =>
    have hlast := List.findSome?_eq_none_iff.mp hfound 16 (List.mem_range.mpr (by omega))
    have hsome := exists_nearestOn hm hd tie
    rw [Option.map_eq_none_iff] at hlast
    rw [Nat.cast_ofNat] at hlast
    rw [hlast] at hsome
    cases hsome
  | some x =>
    obtain ⟨n, -, hn⟩ := List.exists_of_findSome?_eq_some hfound
    obtain ⟨digits, hdigits, rfl⟩ := Option.map_eq_some_iff.mp hn
    exact (readsBack_iff hm _ _).mp (readsBack_of_nearestOn hdigits)

end

end Dyadic

end StateExpr
