import StateExpr.Proofs.Codec.Text
/-!
# Binary digits of characters

The code of a character is written in eight binary digits, or in all that it has when it has more,
and nothing stands between the codes.  So the digits can be taken apart again in groups of eight
when every code fits one byte; a longer code moves all that is behind it.

Main statements: `Codec.length_flatMap_binaryDigits`, `Codec.readOctets_flatMap_binaryDigits` and
`Expr.binary_octets`.
-/

namespace StateExpr

namespace Codec

/-- The codes of all characters fit one byte. -/
def OneByte (t : String) : Prop := ∀ c ∈ t.toList, c.toNat < 256

instance (t : String) : Decidable (OneByte t) :=
  List.decidableBAll (fun c : Char => c.toNat < 256) t.toList

/-- The numbers whose binary digits stand in groups of eight, one after the other; the last group
may be shorter. -/
def readOctets (ds : List Char) : List ℕ :=
  match ds with
  | [] => []
  | d :: rest => Nat.ofDigitChars 2 ((d :: rest).take 8) 0 :: readOctets ((d :: rest).drop 8)
termination_by ds.length
decreasing_by grind

theorem readOctets_append {ds : List Char} (h : ds.length = 8) (rest : List Char) :
    readOctets (ds ++ rest) = Nat.ofDigitChars 2 ds 0 :: readOctets rest := by
  cases ds with
  | nil => cases h
  | cons d tail =>
    rw [List.cons_append, readOctets, ← List.cons_append, List.take_left' h, List.drop_left' h]

/-- There are as many numbers as groups. -/
theorem length_readOctets (ds : List Char) : (readOctets ds).length = (ds.length + 7) / 8 := by
  fun_induction readOctets ds with
  | case1 => rfl
  | case2 d rest ih =>
    rw [List.length_cons, ih, List.length_drop, List.length_cons]
    omega

/-! ## One code -/

theorem mem_toDigits_two {n : ℕ} {c : Char} (h : c ∈ Nat.toDigits 2 n) : c = '0' ∨ c = '1' := by
  have hdigit : ∀ i < 2, i.digitChar = '0' ∨ i.digitChar = '1' := by decide
  induction n using Nat.strongRecOn with
  | ind n ih =>
    rw [Nat.toDigits_eq_if (by decide)] at h
    split at h
    · rename_i hn
      exact List.mem_singleton.mp h ▸ hdigit n hn
    · obtain hfront | hlast := List.mem_append.mp h
      · exact ih (n / 2) (by omega) hfront
      · exact List.mem_singleton.mp hlast ▸ hdigit (n % 2) (by omega)

theorem mem_binaryDigits {n : ℕ} {c : Char} (h : c ∈ binaryDigits n) : c = '0' ∨ c = '1' := by
  obtain hzero | hdigit := List.mem_append.mp h
  · exact .inl (List.eq_of_mem_replicate hzero)
  · exact mem_toDigits_two hdigit

theorem length_binaryDigits (n : ℕ) :
    (binaryDigits n).length = max 8 (Nat.toDigits 2 n).length := by
  rw [binaryDigits, List.length_append, List.length_replicate]
  omega

theorem length_binaryDigits_eq_iff {n : ℕ} : (binaryDigits n).length = 8 ↔ n < 256 := by
  have hlong : (Nat.toDigits 2 n).length ≤ 8 ↔ n < 2 ^ 8 :=
    Nat.length_toDigits_le_iff (by decide) (by decide)
  rw [length_binaryDigits]
  omega

theorem ofDigitChars_binaryDigits (n : ℕ) : Nat.ofDigitChars 2 (binaryDigits n) 0 = n := by
  rw [binaryDigits, Nat.ofDigitChars_append, Nat.ofDigitChars_replicate_zero, Nat.mul_zero,
    Nat.ofDigitChars_toDigits (by decide) (by decide)]

/-! ## All codes -/

/-- **No code takes less than eight digits**, and none takes more just when all fit one byte. -/
theorem length_flatMap_binaryDigits (cs : List Char) :
    8 * cs.length ≤ (cs.flatMap fun c => binaryDigits c.toNat).length ∧
      ((cs.flatMap fun c => binaryDigits c.toNat).length = 8 * cs.length ↔
        ∀ c ∈ cs, c.toNat < 256) := by
  induction cs with
  | nil => exact ⟨Nat.le_refl _, iff_of_true rfl nofun⟩
  | cons c cs ih =>
    have hlength := length_binaryDigits c.toNat
    have hone := length_binaryDigits_eq_iff (n := c.toNat)
    rw [List.flatMap_cons, List.length_append, List.length_cons, List.forall_mem_cons, ← hone,
      ← ih.2]
    omega

/-- **Codes of one byte are read back.** -/
theorem readOctets_flatMap_binaryDigits {cs : List Char} (h : ∀ c ∈ cs, c.toNat < 256) :
    readOctets (cs.flatMap fun c => binaryDigits c.toNat) = cs.map Char.toNat := by
  induction cs with
  | nil => exact readOctets.eq_1
  | cons c cs ih =>
    obtain ⟨hc, hcs⟩ := List.forall_mem_cons.mp h
    rw [List.flatMap_cons, readOctets_append (length_binaryDigits_eq_iff.mpr hc),
      ofDigitChars_binaryDigits, ih hcs, List.map_cons]

theorem toList_binary (t : String) :
    (binary t).toList = t.toList.flatMap fun c => binaryDigits c.toNat := String.toList_ofList

theorem length_binary_eq_iff (t : String) : (binary t).length = 8 * t.length ↔ OneByte t := by
  rw [← String.length_toList, ← String.length_toList, toList_binary]
  exact (length_flatMap_binaryDigits t.toList).2

/-- Where the codes are read back there is no group too many, so that all fit one byte. -/
theorem readOctets_binary_iff (t : String) :
    readOctets (binary t).toList = t.toList.map Char.toNat ↔ OneByte t := by
  constructor
  · intro h
    have hgroups := congrArg List.length h
    have hleast := (length_flatMap_binaryDigits t.toList).1
    rw [length_readOctets, List.length_map, toList_binary] at hgroups
    exact (length_flatMap_binaryDigits t.toList).2.mp (by omega)
  · intro h
    rw [toList_binary]
    exact readOctets_flatMap_binaryDigits h

theorem binary_injective {t u : String} (ht : OneByte t) (hu : OneByte u)
    (h : binary t = binary u) : t = u := by
  have hcodes := (readOctets_binary_iff t).mpr ht
  rw [h, (readOctets_binary_iff u).mpr hu] at hcodes
  have hinjective : Function.Injective Char.toNat := fun _ _ => Char.toNat_inj.mp
  exact String.toList_inj.mp (List.map_injective_iff.mpr hinjective hcodes).symm

end Codec

/-! ## Operators -/

namespace Expr

open Codec (OneByte readOctets)

/-- The operators that write a text in binary digits. -/
inductive WritesBinary : Operator → Prop where
  | binary : WritesBinary .binary
  | base64ToBinary : WritesBinary .base64ToBinary
  | dataUriToBinary : WritesBinary .dataUriToBinary

theorem WritesBinary.returns {ambient : Ambient} {op : Operator} (h : WritesBinary op)
    (t : String) : Returns ambient op [.text t] (.text (Codec.binary t)) := by
  cases h with
  | binary | base64ToBinary | dataUriToBinary => exact returns_encoding rfl rfl t

/-- **Binary digits of a text.**  Every character is written in so many binary digits as its code
has, and in eight at least.  So there are eight for each character exactly when all codes fit one
byte, and then only can the codes be read back in groups of eight; texts of such codes are told
apart by their digits. -/
theorem binary_octets (ambient : Ambient) :
    (∀ t, ∀ c ∈ (Codec.binary t).toList, c = '0' ∨ c = '1') ∧
    (∀ t, (Codec.binary t).length =
      (t.toList.map fun c => max 8 (Nat.toDigits 2 c.toNat).length).sum) ∧
    (∀ t, (Codec.binary t).length = 8 * t.length ↔ OneByte t) ∧
    (∀ t, readOctets (Codec.binary t).toList = t.toList.map Char.toNat ↔ OneByte t) ∧
    (∀ t u, OneByte t → OneByte u → Codec.binary t = Codec.binary u → t = u) ∧
    ∀ op, WritesBinary op → ∀ t, Returns ambient op [.text t] (.text (Codec.binary t)) := by
  refine ⟨?_, ?_, Codec.length_binary_eq_iff, Codec.readOctets_binary_iff, ?_, ?_⟩
  · intro t c hc
    rw [Codec.toList_binary] at hc
    obtain ⟨d, -, hd⟩ := List.mem_flatMap.mp hc
    exact Codec.mem_binaryDigits hd
  · intro t
    rw [← String.length_toList, Codec.toList_binary, List.length_flatMap]
    simp only [Codec.length_binaryDigits]
  · intro t u ht hu h
    exact Codec.binary_injective ht hu h
  · intro op hop t
    exact hop.returns t

/-- A text of characters of one byte, the last of which is beyond ASCII. -/
theorem binary_octets_latin :
    let ambient : Ambient := .still
    let t : String := "hÿ"
    OneByte t ∧ Codec.binary t = "0110100011111111" ∧
    (∀ c ∈ (Codec.binary t).toList, c = '0' ∨ c = '1') ∧ (Codec.binary t).length = 8 * t.length ∧
    readOctets (Codec.binary t).toList = t.toList.map Char.toNat ∧ t = "h" ++ "ÿ" ∧
    Returns ambient .base64ToBinary [.text t] (.text (Codec.binary t)) := by
  intro ambient t
  have ht : OneByte t := by decide +kernel
  have hsame : Codec.binary t = Codec.binary ("h" ++ "ÿ") := by decide +kernel
  obtain ⟨hbits, -, hlength, hread, hinjective, hreturns⟩ := binary_octets ambient
  exact ⟨ht, by decide +kernel, hbits t, (hlength t).mpr ht, (hread t).mpr ht,
    hinjective t ("h" ++ "ÿ") ht ht hsame, hreturns _ .base64ToBinary t⟩

/-- One character can take nine digits.  Where a code ends and the next one begins cannot be seen
then: different texts, even of one length, have the same digits. -/
theorem binary_beyond_one_byte :
    let ambient : Ambient := .still
    (Codec.binary "Ā").length = 9 ∧ "Ā".length = 1 ∧
    readOctets (Codec.binary "Ā").toList = [128, 0] ∧
    "āa" ≠ "\u0080š" ∧ Codec.binary "āa" = Codec.binary "\u0080š" ∧
    Returns ambient .binary [.text "Ā"] (.text "100000000") := by
  intro ambient
  refine ⟨by decide +kernel, by decide +kernel, by decide +kernel, by decide +kernel,
    by decide +kernel, ?_⟩
  have hdigits : Codec.binary "Ā" = "100000000" := by decide +kernel
  exact hdigits ▸ WritesBinary.binary.returns "Ā"

end Expr

end StateExpr
