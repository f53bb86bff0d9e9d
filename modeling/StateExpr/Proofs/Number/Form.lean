import Mathlib
import StateExpr.Number.Dyadic
/-!
# The form of a number

`Dyadic.ofFloat?` reads the form `± m · 2 ^ e` of a number off its bits.  Arithmetic unpacks the
same bits, works on what it finds and packs the result; here the two views are shown to be one.

Main statements:

* `Dyadic.ofFloat?_eq`: the form is that of what arithmetic works on;
* `Dyadic.ofFloat?_inj`: a number is known by its form, and forms of numbers are `Dyadic.Proper`;
* `Dyadic.Proper.ofFloat?_pack`: each proper form is that of the number made from it.
-/

namespace StateExpr.Dyadic
open Float.Model Float.Model.UnpackedFloat

/-- The sign of a form as a flag. -/
def isMinus : Sign → Bool
  | .positive => false
  | .negative => true

/-- The form of what arithmetic works on. -/
def ofUnpacked? : UnpackedFloat → Option Dyadic
  | .zero s => some ⟨isMinus s, 0, -1074⟩
  | .finite s m e _ => some ⟨isMinus s, m, e⟩
  | .infinity _ => none
  | .notANumber => none

/-- The forms that numbers have: a mantissa of full length unless the exponent is the least. -/
structure Proper (d : Dyadic) : Prop where
  mantissa_lt : d.mantissa < 2 ^ 53
  least : -1074 ≤ d.exponent
  greatest : d.exponent ≤ 971
  full : 2 ^ 52 ≤ d.mantissa ∨ d.exponent = -1074

theorem toNat_unpackMantissa (b : BitVec 64) :
    (@unpackMantissa .binary64 b).toNat = b.toNat % hiddenBit := by
  simp [unpackMantissa, hiddenBit]

theorem toNat_unpackExponent (b : BitVec 64) :
    (@unpackExponent .binary64 b).toNat = b.toNat / hiddenBit % 2048 := by
  simp [unpackExponent, Nat.shiftRight_eq_div_pow, hiddenBit]

theorem isMinus_unpackSign (b : BitVec 64) :
    isMinus (.ofBitVec (@unpackSign .binary64 b)) = decide (signBit ≤ b.toNat) := by
  have hb := b.isLt
  have h : (@unpackSign .binary64 b).toNat = b.toNat / signBit % 2 := by
    simp [unpackSign, Nat.shiftRight_eq_div_pow, signBit]
  have hzero : @unpackSign .binary64 b = 0#1 ↔ b.toNat < signBit := by
    rw [← BitVec.toNat_inj, h]
    simp only [signBit, BitVec.toNat_zero]
    omega
  by_cases hs : b.toNat < signBit
  · rw [hzero.mpr hs]
    simpa [Sign.ofBitVec, isMinus] using hs
  · have hone := mt hzero.mp hs
    rw [Sign.ofBitVec, if_neg hone]
    simpa [isMinus] using hs

theorem toNat_one_append (b : BitVec 52) : (1#1 ++ b).toNat = b.toNat + hiddenBit := by
  have := Nat.shiftLeft_add_eq_or_of_lt b.isLt 1
  rw [BitVec.toNat_append, BitVec.toNat_one (by decide), ← this]
  simp only [hiddenBit]
  omega

theorem ofFloat?_eq (x : Float) : ofFloat? x = ofUnpacked? x.toModel.unpack := by
  change ofFloat? x = ofUnpacked? (UnpackedFloat.unpack Format.binary64 x.toModel.toBits.toBitVec)
  have hbits : x.toBits.toNat = x.toModel.toBits.toBitVec.toNat := rfl
  unfold ofFloat?
  rw [hbits]
  generalize x.toModel.toBits.toBitVec = b
  dsimp only
  rw [← toNat_unpackMantissa, ← toNat_unpackExponent, ← isMinus_unpackSign]
  unfold UnpackedFloat.unpack
  have htop : @unpackExponent .binary64 b = -1#11 ↔
      (@unpackExponent .binary64 b).toNat = 2047 := by
    rw [← BitVec.toNat_inj]; rfl
  have hbottom : @unpackExponent .binary64 b = 0#11 ↔
      (@unpackExponent .binary64 b).toNat = 0 := by
    rw [← BitVec.toNat_inj]; rfl
  dsimp only
  by_cases h1 : (@unpackExponent .binary64 b).toNat = 2047
  · rw [if_pos h1, if_pos (htop.mpr h1)]
    split <;> rfl
  rw [if_neg h1, if_neg (mt htop.mp h1)]
  by_cases h0 : (@unpackExponent .binary64 b).toNat = 0
  · rw [if_pos h0, if_pos (hbottom.mpr h0)]
    split
    · rename_i h
      rw [h]
      rfl
    · simp [ofUnpacked?, h0, Format.exponentBias]
  · rw [if_neg h0, if_neg (mt hbottom.mp h0)]
    have hm := toNat_one_append (@unpackMantissa .binary64 b)
    simp only [ofUnpacked?, hm, Format.exponentBias]
    rfl

/-- The forms of numbers are proper. -/
theorem Proper.of_ofFloat? {x : Float} {d : Dyadic} (h : ofFloat? x = some d) : d.Proper := by
  unfold ofFloat? at h
  dsimp only at h
  have hfraction : x.toBits.toNat % hiddenBit < 2 ^ 52 := Nat.mod_lt _ (by decide)
  have hfield : x.toBits.toNat / hiddenBit % 2048 < 2048 := Nat.mod_lt _ (by decide)
  split at h
  · cases h
  split at h
  · cases h
    exact ⟨by dsimp only; omega, by dsimp only; omega, by dsimp only; omega, .inr rfl⟩
  · cases h
    simp only [hiddenBit] at *
    exact ⟨by dsimp only; omega, by dsimp only; omega, by dsimp only; omega,
      .inl (by dsimp only; omega)⟩

/-- The bits that encode a form. -/
def code (d : Dyadic) : Nat :=
  (if d.negative then signBit else 0) +
    if d.mantissa < hiddenBit then d.mantissa
    else (d.exponent + 1074).toNat * hiddenBit + d.mantissa

theorem toNat_toBits {x : Float} {d : Dyadic} (h : ofFloat? x = some d) :
    x.toBits.toNat = d.code := by
  have hx : x.toBits.toNat < 2 ^ 64 := x.toBits.toBitVec.isLt
  unfold ofFloat? at h
  dsimp only at h
  split at h
  · cases h
  have hfraction : x.toBits.toNat % hiddenBit < hiddenBit := Nat.mod_lt _ (by decide)
  have hsign : (if decide (signBit ≤ x.toBits.toNat) = true then signBit else 0) =
      x.toBits.toNat / signBit * signBit := by
    by_cases hs : signBit ≤ x.toBits.toNat
    · rw [if_pos (decide_eq_true hs)]
      simp only [signBit] at *
      omega
    · rw [if_neg (by simpa using hs)]
      simp only [signBit] at *
      omega
  split at h
  · cases h
    rw [code, hsign, if_pos hfraction]
    simp only [signBit, hiddenBit] at *
    omega
  · cases h
    rw [code, hsign, if_neg (by dsimp only; omega)]
    simp only [signBit, hiddenBit] at *
    omega

/-- A number is known by its form. -/
theorem ofFloat?_inj {x y : Float} {d : Dyadic} (hx : ofFloat? x = some d)
    (hy : ofFloat? y = some d) : x = y :=
  Float.toBits_inj.mp (UInt64.toNat_inj.mp ((toNat_toBits hx).trans (toNat_toBits hy).symm))

/-! ## Packing -/

theorem unpack_packComponents_full (s : Sign) {field : BitVec 11} (hbottom : 0 < field.toNat)
    (htop : field.toNat < 2047) {m : Nat} (hm : 0 < m) (hfull : 2 ^ 52 ≤ m) (hlt : m < 2 ^ 53) :
    UnpackedFloat.unpack .binary64 (packComponents .binary64 s field (BitVec.ofNat 52 m)) =
      .finite s m (field.toNat - 1075) hm := by
  have hfield : field ≠ -1#11 ∧ field ≠ 0#11 := by
    rw [ne_eq, ne_eq, ← BitVec.toNat_inj, ← BitVec.toNat_inj]
    exact ⟨htop.ne, hbottom.ne'⟩
  have hmantissa : (1#1 ++ BitVec.ofNat 52 m).toNat = m := by
    rw [toNat_one_append, BitVec.toNat_ofNat]
    simp only [hiddenBit]
    omega
  unfold UnpackedFloat.unpack
  simp only [unpackExponent_packComponents, unpackMantissa_packComponents,
    unpackSign_packComponents, Sign.ofBitVec_toBitVec, if_neg hfield.1, if_neg hfield.2, hmantissa,
    Format.exponentBias]
  rfl

theorem unpack_packComponents_least (s : Sign) {m : Nat} (hm : 0 < m) (hlt : m < 2 ^ 52) :
    UnpackedFloat.unpack .binary64 (packComponents .binary64 s 0#11 (BitVec.ofNat 52 m)) =
      .finite s m (-1074) hm := by
  have hmantissa : (BitVec.ofNat 52 m).toNat = m := by
    rw [BitVec.toNat_ofNat]
    omega
  have hne : BitVec.ofNat 52 m ≠ 0#52 := by
    rw [ne_eq, ← BitVec.toNat_inj, hmantissa]
    exact hm.ne'
  unfold UnpackedFloat.unpack
  simp only [unpackExponent_packComponents, unpackMantissa_packComponents,
    unpackSign_packComponents, Sign.ofBitVec_toBitVec, hmantissa, dif_neg hne]
  rfl

/-- What is packed in proper form is unpacked as it was. -/
theorem Proper.unpack_pack {u : UnpackedFloat} {d : Dyadic} (hd : d.Proper)
    (h : ofUnpacked? u = some d) : (Float.Model.pack u).unpack = u := by
  change UnpackedFloat.unpack Format.binary64 (UnpackedFloat.pack Format.binary64 u) = u
  obtain ⟨hlt, hleast, hgreatest, hfull⟩ := hd
  cases u with
  | infinity s => cases h
  | notANumber => cases h
  | zero s => exact unpack_packedZero
  | finite s m e hm =>
    cases h
    dsimp only at hlt hleast hgreatest hfull
    have hbias : (e + (Format.binary64.exponentBias : Int) + (52 : Nat)).toNat =
        (e + 1075).toNat := by
      simp only [Format.exponentBias]
      omega
    unfold UnpackedFloat.pack
    dsimp only
    rw [hbias, if_neg (by omega)]
    by_cases hlong : 2 ^ 52 ≤ m
    · have hlog : m.log2 + 1 = Format.binary64.mantissaBits := by
        rw [(Nat.log2_eq_iff hm.ne').mpr ⟨hlong, hlt⟩]
        rfl
      have hfield : (BitVec.ofNat 11 (e + 1075).toNat).toNat = (e + 1075).toNat := by
        rw [BitVec.toNat_ofNat]
        omega
      have hbottom : 0 < (BitVec.ofNat 11 (e + 1075).toNat).toNat := by omega
      have hunpack := unpack_packComponents_full s hbottom (by omega) hm hlong hlt
      have hexponent : ((e + 1075).toNat : Int) - 1075 = e := by omega
      rw [hfield, hexponent] at hunpack
      rw [if_pos hlog]
      exact hunpack
    · obtain rfl : e = -1074 := hfull.resolve_left hlong
      have hlog : ¬ m.log2 + 1 = Format.binary64.mantissaBits := by
        have : m.log2 < 52 := (Nat.log2_lt hm.ne').mpr (by omega)
        change ¬ m.log2 + 1 = 53
        omega
      rw [if_neg hlog]
      exact unpack_packComponents_least s hm (by omega)

/-- A number made from a proper form has that form. -/
theorem Proper.ofFloat?_pack {u : UnpackedFloat} {d : Dyadic} (hd : d.Proper)
    (h : ofUnpacked? u = some d) : ofFloat? (.ofModel (Float.Model.pack u)) = some d := by
  rw [ofFloat?_eq, hd.unpack_pack h, h]

/-! ## Signs and kinds of numbers -/

/-- The form of the opposite number. -/
def opposite (d : Dyadic) : Dyadic := { d with negative := !d.negative }

/-- The form without its sign. -/
def unsigned (d : Dyadic) : Dyadic := { d with negative := false }

theorem Proper.opposite {d : Dyadic} (hd : d.Proper) : d.opposite.Proper :=
  ⟨hd.mantissa_lt, hd.least, hd.greatest, hd.full⟩

theorem Proper.unsigned {d : Dyadic} (hd : d.Proper) : d.unsigned.Proper :=
  ⟨hd.mantissa_lt, hd.least, hd.greatest, hd.full⟩

theorem ofUnpacked?_neg {u : UnpackedFloat} {d : Dyadic} (h : ofUnpacked? u = some d) :
    ofUnpacked? u.neg = some d.opposite := by
  cases u with
  | infinity s => cases h
  | notANumber => cases h
  | zero s => cases h; cases s <;> rfl
  | finite s m e hm => cases h; cases s <;> rfl

theorem ofUnpacked?_abs {u : UnpackedFloat} {d : Dyadic} (h : ofUnpacked? u = some d) :
    ofUnpacked? u.abs = some d.unsigned := by
  cases u with
  | infinity s => cases h
  | notANumber => cases h
  | zero s => cases h; rfl
  | finite s m e hm => cases h; rfl

section

variable {x : Float} {d : Dyadic} (h : ofFloat? x = some d)
include h

theorem ofFloat?_neg : ofFloat? (-x) = some d.opposite := by
  rw [ofFloat?_eq] at h
  exact (Proper.of_ofFloat? ((ofFloat?_eq x).trans h)).opposite.ofFloat?_pack (ofUnpacked?_neg h)

theorem ofFloat?_abs : ofFloat? x.abs = some d.unsigned := by
  rw [ofFloat?_eq] at h
  exact (Proper.of_ofFloat? ((ofFloat?_eq x).trans h)).unsigned.ofFloat?_pack (ofUnpacked?_abs h)

theorem isNaN_of_ofFloat? : x.isNaN = false := by
  rw [ofFloat?_eq] at h
  change x.toModel.unpack.isNaN = false
  cases hu : x.toModel.unpack <;> rw [hu] at h <;> first | rfl | cases h

theorem isInf_of_ofFloat? : x.isInf = false := by
  rw [ofFloat?_eq] at h
  change x.toModel.unpack.isInf = false
  cases hu : x.toModel.unpack <;> rw [hu] at h <;> first | rfl | cases h

end

theorem isFinite_eq (x : Float) : x.isFinite = (ofFloat? x).isSome := by
  rw [ofFloat?_eq]
  change x.toModel.unpack.isFinite = _
  cases x.toModel.unpack <;> rfl

/-- Arithmetic works on the form of a number that is not zero. -/
theorem unpack_of_ofFloat? {x : Float} {d : Dyadic} (h : ofFloat? x = some d)
    (hm : 0 < d.mantissa) : ∃ s, isMinus s = d.negative ∧
      x.toModel.unpack = .finite s d.mantissa d.exponent hm := by
  rw [ofFloat?_eq] at h
  cases hu : x.toModel.unpack with
  | infinity s => rw [hu] at h; cases h
  | notANumber => rw [hu] at h; cases h
  | zero s => rw [hu] at h; cases h; cases hm
  | finite s m e hpos => rw [hu] at h; cases h; exact ⟨s, rfl, rfl⟩

end StateExpr.Dyadic
