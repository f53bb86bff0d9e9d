import StateExpr.Proofs.Number.Digits
import StateExpr.Proofs.Number.Rounding
/-!
# Reading a decimal

`Float.ofScientific` has a fast way, one product or quotient of two exact numbers, and a slow one
that works on the exact decimal; both give the number in whose interval the decimal lies.  The
limits that keep powers of ten small never cut off a decimal that rounds to a number.

Main statements: `Dyadic.Rounds.ofFloat?_ofScientific` and `Dyadic.Rounds.ofFloat?_nearestNumber`.
-/

namespace StateExpr

open Float.Model Float.Model.UnpackedFloat

namespace Dyadic

/-! ## Bounds of what rounds to a number -/

theorem Rounds.two_zpow_le {d : Dyadic} (hd : d.Proper) (hm : 0 < d.mantissa) {y : ℚ}
    (h : d.Rounds y) : 2 ^ (-1075 : ℤ) ≤ y := by
  have hgap : (d.lowerGap : ℚ) ≤ 2 := by
    rcases d.lowerGap_cases with ⟨hg, -⟩ | ⟨hg, -⟩ <;> rw [hg] <;> norm_num
  have hone : (1 : ℚ) ≤ d.mantissa := by exact_mod_cast hm
  have hleast := hd.least
  calc (2 : ℚ) ^ (-1075 : ℤ) = 2 * 2 ^ (-1076 : ℤ) := by
        rw [← zpow_one_add₀ (by norm_num)]
        norm_num
    _ ≤ (4 * d.mantissa - d.lowerGap) * 2 ^ (d.exponent - 2) := by
        apply mul_le_mul _ _ (by positivity) (by linarith)
        · linarith
        · exact zpow_le_zpow_right₀ (by norm_num) (by omega)
    _ ≤ y := h.lower

theorem Rounds.lt_two_pow {d : Dyadic} (hd : d.Proper) {y : ℚ} (h : d.Rounds y) :
    y < 2 ^ (1024 : ℤ) := by
  have hgreatest := hd.greatest
  exact (h.lt_two_zpow hd).trans_le (zpow_le_zpow_right₀ (by norm_num) (by omega))

/-! ## Natural numbers -/

/-- A natural number with a mantissa of full length, in which digits behind the last place are
left out. -/
def ofNat (n : ℕ) : Dyadic :=
  ⟨false, n * 2 ^ (52 - n.log2) / 2 ^ (n.log2 - 52), (n.log2 : ℤ) - 52⟩

theorem le_ofNat_mantissa {n : ℕ} (h0 : 0 < n) : 2 ^ 52 ≤ (ofNat n).mantissa := by
  have hlog := Nat.log2_self_le h0.ne'
  change 2 ^ 52 ≤ n * 2 ^ (52 - n.log2) / 2 ^ (n.log2 - 52)
  rw [Nat.le_div_iff_mul_le (by positivity), ← pow_add]
  calc 2 ^ (52 + (n.log2 - 52)) = 2 ^ (n.log2 + (52 - n.log2)) := by congr 1; omega
    _ = 2 ^ n.log2 * 2 ^ (52 - n.log2) := pow_add ..
    _ ≤ n * 2 ^ (52 - n.log2) := Nat.mul_le_mul_right _ hlog

theorem ofNat_mantissa_lt (n : ℕ) : (ofNat n).mantissa < 2 ^ 53 := by
  have hlog : n < 2 ^ (n.log2 + 1) := Nat.lt_log2_self
  change n * 2 ^ (52 - n.log2) / 2 ^ (n.log2 - 52) < 2 ^ 53
  rw [Nat.div_lt_iff_lt_mul (by positivity), ← pow_add]
  calc n * 2 ^ (52 - n.log2) < 2 ^ (n.log2 + 1) * 2 ^ (52 - n.log2) :=
        Nat.mul_lt_mul_of_pos_right hlog (by positivity)
    _ = 2 ^ (n.log2 + 1 + (52 - n.log2)) := (pow_add ..).symm
    _ = 2 ^ (53 + (n.log2 - 52)) := by congr 1; omega

theorem ofNat_proper {n : ℕ} (h0 : 0 < n) (h : n.log2 < 1024) : (ofNat n).Proper := by
  refine ⟨ofNat_mantissa_lt n, ?_, ?_, .inl (le_ofNat_mantissa h0)⟩
  · change (-1074 : ℤ) ≤ n.log2 - 52
    omega
  · change (n.log2 : ℤ) - 52 ≤ 971
    omega

/-- A natural number whose digits fit a mantissa is the exact magnitude. -/
theorem magnitude_ofNat {n : ℕ} (h : 2 ^ (n.log2 - 52) ∣ n) : (ofNat n).magnitude = n := by
  have hdvd : 2 ^ (n.log2 - 52) ∣ n * 2 ^ (52 - n.log2) := h.mul_right _
  change ((n * 2 ^ (52 - n.log2) / 2 ^ (n.log2 - 52) : ℕ) : ℚ) * 2 ^ ((n.log2 : ℤ) - 52) = n
  rw [Nat.cast_div hdvd (by positivity)]
  have hpower : (2 : ℚ) ^ ((n.log2 : ℤ) - 52) = 2 ^ (n.log2 - 52) / 2 ^ (52 - n.log2) := by
    rw [← zpow_natCast, ← zpow_natCast, ← zpow_sub₀ (by norm_num)]
    congr 1
    omega
  rw [hpower]
  push_cast
  field_simp

theorem dvd_of_lt {n : ℕ} (h : n < 2 ^ 53) : 2 ^ (n.log2 - 52) ∣ n := by
  have hlog := log2_lt_of_lt (by decide) h
  rw [show n.log2 - 52 = 0 by omega]
  exact one_dvd n

theorem ofNat_of_lt {n : ℕ} (h : n < 2 ^ 53) :
    ofNat n = ⟨false, n * 2 ^ (52 - n.log2), (n.log2 : ℤ) - 52⟩ := by
  have hlog := log2_lt_of_lt (by decide) h
  rw [ofNat, show n.log2 - 52 = 0 by omega, pow_zero, Nat.div_one]

theorem ofUnpacked?_positive {d : Dyadic} (hsign : d.negative = false) (hm : 0 < d.mantissa) :
    ofUnpacked? (.finite .positive d.mantissa d.exponent hm) = some d := by
  obtain ⟨negative, mantissa, exponent⟩ := d
  obtain rfl : negative = false := hsign
  rfl

/-- A natural number that fits a mantissa is kept when it becomes a number. -/
theorem ofUInt64_of_lt {n : ℕ} (h0 : 0 < n) (h : n < 2 ^ 53) (hm : 0 < (ofNat n).mantissa) :
    UnpackedFloat.ofUInt64 .binary64 n.toUInt64 =
      .finite .positive (ofNat n).mantissa (ofNat n).exponent hm := by
  have hlog := log2_lt_of_lt (by decide) h
  have hd := ofNat_proper h0 (by omega)
  have hlong := le_ofNat_mantissa h0
  have hself := Rounds.self (ofNat n)
  revert hm
  rw [ofNat_of_lt h] at hd hlong hself ⊢
  intro (hm : 0 < n * 2 ^ (52 - n.log2))
  have hword : n.toUInt64.toNat = n := by
    change n % 2 ^ 64 = n
    exact Nat.mod_eq_of_lt (by omega)
  have hcompare : compare (n : ℤ) 0 = .gt := Int.compare_eq_gt.mpr (by omega)
  have hdecrease : decreaseExponent n 0 (Format.binary64.targetExponent (totalExponent n 0)) =
      (n * 2 ^ (52 - n.log2), (n.log2 : ℤ) - 52) := by
    unfold decreaseExponent totalExponent
    rw [targetExponent_eq]
    dsimp only
    rw [show (0 - max ((n.log2 : ℤ) + 1 + 0 - 53) (-1074)).toNat = 52 - n.log2 by omega,
      Nat.shiftLeft_eq]
    exact Prod.ext rfl (by dsimp only; omega)
  have htarget : (n.log2 : ℤ) - 52 ≤ Format.binary64.targetExponent
      (totalExponent (n * 2 ^ (52 - n.log2) / 1) ((n.log2 : ℤ) - 52)) := by
    have := (Nat.le_log2 hm.ne').mpr hlong
    rw [targetExponent_eq, totalExponent, Nat.div_one]
    omega
  unfold UnpackedFloat.ofUInt64 UnpackedFloat.ofNat UnpackedFloat.ofInt UnpackedFloat.normalize
  rw [hword, hcompare]
  unfold UnpackedFloat.round
  dsimp only
  rw [Int.toNat_natCast, hdecrease]
  have hexact := Rounds.roundWithAccuracy hd hm one_pos htarget
    (by rwa [Nat.cast_one, div_one]) .positive
  rwa [Nat.div_one, Nat.mod_one] at hexact

theorem ofFloat?_toFloat {n : ℕ} (h0 : 0 < n) (h : n < 2 ^ 53) :
    ofFloat? n.toUInt64.toFloat = some (ofNat n) := by
  have hlog := log2_lt_of_lt (by decide) h
  have hlong := le_ofNat_mantissa h0
  have hm : 0 < (ofNat n).mantissa := by omega
  apply (ofNat_proper h0 (by omega)).ofFloat?_pack
  rw [ofUInt64_of_lt h0 h hm]
  exact ofUnpacked?_positive rfl hm

/-- The table of powers of ten is exact. -/
theorem ofFloat?_powersOfTen : ∀ i : Fin Float.exactlyRepresentablePowersOfTen.size,
    ofFloat? Float.exactlyRepresentablePowersOfTen[i] = some (ofNat (10 ^ i.val)) := by
  decide +kernel

theorem ofFloat?_powerOfTen {k : ℕ} (h : k < Float.exactlyRepresentablePowersOfTen.size) :
    ofFloat? Float.exactlyRepresentablePowersOfTen[k] = some (ofNat (10 ^ k)) :=
  ofFloat?_powersOfTen ⟨k, h⟩

theorem magnitude_powerOfTen {k : ℕ} (h : k < 23) : (ofNat (10 ^ k)).magnitude = 10 ^ k := by
  have hall : ∀ i : Fin 23, 2 ^ ((10 ^ i.val).log2 - 52) ∣ 10 ^ i.val := by decide +kernel
  rw [magnitude_ofNat (hall ⟨k, h⟩)]
  push_cast
  rfl

/-- A number whose form is that of a natural number, as arithmetic sees it. -/
theorem unpack_of_ofNat {x : Float} {n : ℕ} (h0 : 0 < n) (h : ofFloat? x = some (ofNat n)) :
    ∃ hm, x.toModel.unpack = .finite .positive (ofNat n).mantissa (ofNat n).exponent hm := by
  have hlong := le_ofNat_mantissa h0
  obtain ⟨s, hs, hu⟩ := unpack_of_ofFloat? h (by omega)
  cases s with
  | positive => exact ⟨_, hu⟩
  | negative => cases hs

/-! ## Decimals -/

theorem two_pow_le_ten_pow (n : ℕ) : (2 : ℚ) ^ (3 * n) ≤ 10 ^ (n : ℤ) := by
  rw [zpow_natCast, pow_mul]
  exact pow_le_pow_left₀ (by norm_num) (by norm_num) n

section

variable {d : Dyadic} (hd : d.Proper) (hm : 0 < d.mantissa) (hsign : d.negative = false)
include hd hm

theorem Rounds.ne_zero {m : ℕ} {p : ℚ} (h : d.Rounds (m * p)) : m ≠ 0 := by
  rintro rfl
  have := h.two_zpow_le hd hm
  rw [Nat.cast_zero, zero_mul] at this
  exact absurd this (not_le.mpr (by positivity))

/-- Powers of ten beyond all numbers are told apart before any is computed. -/
theorem Rounds.exponent_bounds {m : ℕ} {e : ℤ} (h : d.Rounds (m * 10 ^ e)) :
    e ≤ 2048 ∧ -(2048 + m.log2 : ℤ) ≤ e := by
  have hne := h.ne_zero hd hm
  have hone : (1 : ℚ) ≤ m := by exact_mod_cast Nat.pos_of_ne_zero hne
  have hmono {a b : ℤ} : (2 : ℚ) ^ a < 2 ^ b → a < b := (zpow_lt_zpow_iff_right₀ (by norm_num)).mp
  constructor
  · by_contra hlarge
    have hpower : (2 : ℚ) ^ e ≤ m * 10 ^ e := by
      obtain ⟨n, rfl⟩ : ∃ n : ℕ, e = n := ⟨e.toNat, by omega⟩
      rw [zpow_natCast, zpow_natCast]
      calc (2 : ℚ) ^ n ≤ 10 ^ n := pow_le_pow_left₀ (by norm_num) (by norm_num) n
        _ ≤ m * 10 ^ n := le_mul_of_one_le_left (by positivity) hone
    have := hmono (hpower.trans_lt (h.lt_two_pow hd))
    omega
  · by_contra hsmall
    have hpower : (m : ℚ) * 10 ^ e < 2 ^ ((m.log2 : ℤ) + 1 + e) := by
      obtain ⟨n, rfl⟩ : ∃ n : ℕ, e = -n := ⟨(-e).toNat, by omega⟩
      have hlog : (m : ℚ) < 2 ^ (m.log2 + 1) := by exact_mod_cast Nat.lt_log2_self
      have hten : (2 : ℚ) ^ n ≤ 10 ^ n := pow_le_pow_left₀ (by norm_num) (by norm_num) n
      rw [zpow_add₀ (by norm_num), zpow_neg, zpow_neg, zpow_natCast, zpow_natCast]
      calc (m : ℚ) * (10 ^ n)⁻¹ ≤ m * (2 ^ n)⁻¹ := by gcongr
        _ < 2 ^ (m.log2 + 1) * (2 ^ n)⁻¹ := by gcongr
        _ = _ := by norm_cast
    have := hmono ((h.two_zpow_le hd hm).trans_lt hpower)
    omega

/-- The leading digit of a decimal that rounds to a number is not far from the point. -/
theorem Rounds.length_bounds {digits : ℕ} {e : ℤ} (h : d.Rounds (digits * 10 ^ e)) :
    (Nat.toDigits 10 digits).length + e ≤ 400 ∧ -400 ≤ (Nat.toDigits 10 digits).length + e := by
  obtain ⟨lower, upper⟩ := length_toDigits_bounds (Nat.pos_of_ne_zero (h.ne_zero hd hm))
  have hlength : 0 < (Nat.toDigits 10 digits).length := Nat.length_toDigits_pos
  have hmono {a b : ℤ} : (2 : ℚ) ^ a < 2 ^ b → a < b := (zpow_lt_zpow_iff_right₀ (by norm_num)).mp
  constructor
  · by_contra hlarge
    obtain ⟨n, hn⟩ : ∃ n : ℕ, ((Nat.toDigits 10 digits).length - 1 : ℕ) + e = n :=
      ⟨(((Nat.toDigits 10 digits).length - 1 : ℕ) + e).toNat, by omega⟩
    have hpower : (2 : ℚ) ^ ((3 * n : ℕ) : ℤ) ≤ digits * 10 ^ e := by
      have hten := two_pow_le_ten_pow n
      rw [zpow_natCast]
      calc (2 : ℚ) ^ (3 * n) ≤ 10 ^ (n : ℤ) := hten
        _ = 10 ^ ((Nat.toDigits 10 digits).length - 1) * 10 ^ e := by
          rw [← hn, zpow_add₀ (by norm_num), zpow_natCast]
        _ ≤ digits * 10 ^ e := by
          gcongr
          exact_mod_cast lower
    have := hmono (hpower.trans_lt (h.lt_two_pow hd))
    omega
  · by_contra hsmall
    obtain ⟨n, hn⟩ : ∃ n : ℕ, (Nat.toDigits 10 digits).length + e = -n :=
      ⟨(-((Nat.toDigits 10 digits).length + e)).toNat, by omega⟩
    have hpower : (digits : ℚ) * 10 ^ e < 2 ^ (-((3 * n : ℕ) : ℤ)) := by
      have hten := two_pow_le_ten_pow n
      rw [zpow_natCast] at hten
      calc (digits : ℚ) * 10 ^ e < 10 ^ (Nat.toDigits 10 digits).length * 10 ^ e := by
            gcongr
            exact_mod_cast upper
        _ = (10 ^ n)⁻¹ := by
          rw [← zpow_natCast, ← zpow_add₀ (by norm_num), hn, zpow_neg, zpow_natCast]
        _ ≤ 2 ^ (-((3 * n : ℕ) : ℤ)) := by
          rw [zpow_neg, zpow_natCast]
          gcongr
    have := hmono ((h.two_zpow_le hd hm).trans_lt hpower)
    omega

theorem Rounds.ofScientific_eq {m : ℕ} {e : ℤ} (h : d.Rounds (m * 10 ^ e)) :
    UnpackedFloat.ofScientific .binary64 m e = .finite .positive d.mantissa d.exponent hm := by
  have hne := h.ne_zero hd hm
  obtain ⟨hlarge, hsmall⟩ := h.exponent_bounds hd hm
  unfold UnpackedFloat.ofScientific
  rw [dif_neg hne, if_neg (by norm_num; omega), if_neg (by norm_num; omega)]
  by_cases hexponent : 0 ≤ e
  · obtain ⟨n, rfl⟩ := Int.eq_ofNat_of_zero_le hexponent
    have hshift : m <<< Format.binary64.mantissaBits = m * 2 ^ 53 := Nat.shiftLeft_eq m 53
    have hlong : 2 ^ 52 ≤ m <<< Format.binary64.mantissaBits * 10 ^ (n : ℤ).toNat := by
      rw [hshift, mul_right_comm]
      have : 0 < m * 10 ^ (n : ℤ).toNat := by positivity
      omega
    have hvalue : (m : ℚ) * 10 ^ (n : ℤ) = (m <<< Format.binary64.mantissaBits : ℕ) *
        2 ^ (-(Format.binary64.mantissaBits : ℤ)) * ((10 ^ (n : ℤ).toNat : ℕ) * 2 ^ (0 : ℤ)) := by
      rw [hshift, show (Format.binary64.mantissaBits : ℤ) = (53 : ℕ) from rfl, zpow_neg,
        zpow_natCast, zpow_natCast, Int.toNat_natCast]
      push_cast
      field_simp
      norm_num
    rw [if_pos hexponent]
    rw [hvalue] at h
    exact h.mul hd hm _ _ hlong .positive .positive
  · obtain ⟨n, rfl⟩ : ∃ n : ℕ, e = -n := ⟨(-e).toNat, by omega⟩
    have hvalue : (m : ℚ) * 10 ^ (-n : ℤ) =
        m * 2 ^ (0 : ℤ) / ((10 ^ (- -(n : ℤ)).toNat : ℕ) * 2 ^ (0 : ℤ)) := by
      rw [Int.neg_neg, Int.toNat_natCast, zpow_neg, zpow_natCast]
      push_cast
      field_simp
    rw [if_neg hexponent]
    rw [hvalue] at h
    exact h.div hd hm _ _ .positive .positive

include hsign

section

variable {x y : Float} {m n : ℕ} (hx : ofFloat? x = some (ofNat m))
  (hy : ofFloat? y = some (ofNat n)) (hm0 : 0 < m) (hn0 : 0 < n)
include hx hy hm0 hn0

/-- The product of two natural numbers is rounded once. -/
theorem Rounds.ofFloat?_mul (h : d.Rounds ((ofNat m).magnitude * (ofNat n).magnitude)) :
    ofFloat? (x * y) = some d := by
  obtain ⟨hxm, hxu⟩ := unpack_of_ofNat hm0 hx
  obtain ⟨hym, hyu⟩ := unpack_of_ofNat hn0 hy
  apply hd.ofFloat?_pack
  rw [hxu, hyu, h.mul hd hm hxm hym]
  · exact ofUnpacked?_positive hsign hm
  · exact le_trans (le_ofNat_mantissa hm0) (Nat.le_mul_of_pos_right _ hym)

/-- The quotient of two natural numbers is rounded once. -/
theorem Rounds.ofFloat?_div (h : d.Rounds ((ofNat m).magnitude / (ofNat n).magnitude)) :
    ofFloat? (x / y) = some d := by
  obtain ⟨hxm, hxu⟩ := unpack_of_ofNat hm0 hx
  obtain ⟨hym, hyu⟩ := unpack_of_ofNat hn0 hy
  apply hd.ofFloat?_pack
  rw [hxu, hyu, h.div hd hm hxm hym]
  exact ofUnpacked?_positive hsign hm

end

/-- A decimal is read as the number in whose interval it lies. -/
theorem Rounds.ofFloat?_ofScientific {m k : ℕ} {s : Bool}
    (h : d.Rounds (m * 10 ^ (if s then -(k : ℤ) else k))) :
    ofFloat? (Float.ofScientific m s k) = some d := by
  have hne := h.ne_zero hd hm
  unfold Float.ofScientific
  split
  · rename_i hfast
    have hk : k < Float.exactlyRepresentablePowersOfTen.size := Nat.lt_succ_of_le hfast.2
    have hx := ofFloat?_toFloat (Nat.pos_of_ne_zero hne) hfast.1
    have hp := ofFloat?_powerOfTen hk
    have hten : 0 < 10 ^ k := by positivity
    have hxm := magnitude_ofNat (dvd_of_lt hfast.1)
    have hpm := magnitude_powerOfTen hk
    dsimp only
    split
    · rename_i hs
      rw [if_pos hs, zpow_neg, zpow_natCast, ← div_eq_mul_inv, ← hxm, ← hpm] at h
      exact h.ofFloat?_div hd hm hsign hx hp (Nat.pos_of_ne_zero hne) hten
    · rename_i hs
      rw [if_neg hs, zpow_natCast, ← hxm, ← hpm] at h
      exact h.ofFloat?_mul hd hm hsign hx hp (Nat.pos_of_ne_zero hne) hten
  · apply hd.ofFloat?_pack
    have hexponent : (if s then -(k : ℤ) else k) = if s then Int.negOfNat k else Int.ofNat k := by
      cases s
      · rfl
      · cases k <;> rfl
    rw [hexponent] at h
    rw [h.ofScientific_eq hd hm]
    exact ofUnpacked?_positive hsign hm

/-- A decimal of a text is read as the number in whose interval it lies. -/
theorem Rounds.ofFloat?_nearestNumber {digits : ℕ} {e : ℤ} (h : d.Rounds (digits * 10 ^ e)) :
    ofFloat? (nearestNumber digits e) = some d := by
  obtain ⟨hlarge, hsmall⟩ := h.length_bounds hd hm
  have hexponent : e = if decide (e < 0) then -(e.natAbs : ℤ) else e.natAbs := by
    by_cases hneg : e < 0
    · rw [if_pos (by simpa using hneg)]
      omega
    · rw [if_neg (by simpa using hneg)]
      omega
  unfold nearestNumber
  dsimp only
  rw [if_neg (h.ne_zero hd hm), if_neg (by omega), if_neg (by omega)]
  rw [hexponent] at h
  exact h.ofFloat?_ofScientific hd hm hsign

end

end Dyadic
end StateExpr
