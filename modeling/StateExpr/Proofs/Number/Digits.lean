import Mathlib.Algebra.Order.Ring.Int
import Mathlib.Data.List.TakeDrop
import StateExpr.Number.Fixed
import StateExpr.Number.Reading
import StateExpr.Text.Words
/-!
# Words of decimal digits

What a word of digits is worth, how long it is, and where the leading digits of a text end.  Digits
and the signs around them are graphic characters, of which trimming takes none away.

Main statements: `digitsValue_toDigits`, `digitsValue_append`, `length_toDigits_bounds`,
`spanDigits_append` and `trimChars_of_graphic`.
-/

namespace StateExpr

/-- A text that digits in front of it do not run into. -/
def NoDigitHead (cs : List Char) : Prop := ∀ c ∈ cs.head?, c.isDigit = false

/-- A word of digits only. -/
def AllDigits (cs : List Char) : Prop := ∀ c ∈ cs, c.isDigit = true

theorem noDigitHead_nil : NoDigitHead [] := by
  intro c hc
  cases hc

theorem NoDigitHead.cons {c : Char} (h : c.isDigit = false) (cs : List Char) :
    NoDigitHead (c :: cs) := by
  intro b hb
  simp only [List.head?_cons, Option.mem_def, Option.some.injEq] at hb
  exact hb ▸ h

theorem allDigits_toDigits (n : Nat) : AllDigits (Nat.toDigits 10 n) :=
  fun _ hc => Nat.isDigit_of_mem_toDigits (by decide) (by decide) hc

theorem AllDigits.append {cs ds : List Char} (hc : AllDigits cs) (hd : AllDigits ds) :
    AllDigits (cs ++ ds) := by
  intro c h
  rcases List.mem_append.mp h with h | h
  · exact hc c h
  · exact hd c h

theorem allDigits_replicate_zero (n : Nat) : AllDigits (List.replicate n '0') := by
  intro c hc
  rw [List.eq_of_mem_replicate hc]
  decide

theorem AllDigits.take {cs : List Char} (h : AllDigits cs) (n : Nat) : AllDigits (cs.take n) :=
  fun c hc => h c (List.mem_of_mem_take hc)

theorem AllDigits.drop {cs : List Char} (h : AllDigits cs) (n : Nat) : AllDigits (cs.drop n) :=
  fun c hc => h c (List.mem_of_mem_drop hc)

/-- Digits end where the first other character stands. -/
theorem spanDigits_append {ds rest : List Char} (hd : AllDigits ds) (hr : NoDigitHead rest) :
    spanDigits (ds ++ rest) = (ds, rest) := by
  have hnone : rest.takeWhile Char.isDigit = [] ∧ rest.dropWhile Char.isDigit = rest := by
    cases rest with
    | nil => exact ⟨rfl, rfl⟩
    | cons c cs =>
      have hc : ¬ c.isDigit = true := by simp [hr c rfl]
      exact ⟨List.takeWhile_cons_of_neg hc, List.dropWhile_cons_of_neg hc⟩
  rw [spanDigits, List.span_eq_takeWhile_dropWhile, List.takeWhile_append_of_pos hd,
    List.dropWhile_append_of_pos hd, hnone.1, hnone.2, List.append_nil]

/-! ## Values -/

theorem digitsValue_toDigits (n : Nat) : digitsValue (Nat.toDigits 10 n) = n :=
  Nat.ofDigitChars_ten_toDigits

theorem digitsValue_append (cs ds : List Char) :
    digitsValue (cs ++ ds) = digitsValue cs * 10 ^ ds.length + digitsValue ds := by
  change Nat.ofDigitChars 10 (cs ++ ds) 0 = _
  rw [Nat.ofDigitChars_append, Nat.ofDigitChars_eq_ofDigitChars_zero, Nat.mul_comm]
  rfl

theorem digitsValue_replicate_zero (n : Nat) : digitsValue (List.replicate n '0') = 0 := by
  change Nat.ofDigitChars 10 (List.replicate n '0') 0 = 0
  rw [Nat.ofDigitChars_replicate_zero, Nat.mul_zero]

/-- A word of digits is worth less than the power of ten that its length names. -/
theorem AllDigits.digitsValue_lt {ds : List Char} (h : AllDigits ds) :
    digitsValue ds < 10 ^ ds.length := by
  induction ds with
  | nil => decide
  | cons c cs ih =>
    have hc : digitsValue [c] ≤ 9 := by
      have hdigit := h c List.mem_cons_self
      simp only [Char.isDigit, Bool.and_eq_true, decide_eq_true_eq, ge_iff_le] at hdigit
      have hle : c.toNat ≤ 57 := hdigit.2
      change 10 * 0 + (c.toNat - 48) ≤ 9
      omega
    have hrest := ih fun b hb => h b (List.mem_cons_of_mem c hb)
    have hsplit := digitsValue_append [c] cs
    rw [List.singleton_append] at hsplit
    have hpower := Nat.mul_le_mul_right (10 ^ cs.length) hc
    rw [hsplit, List.length_cons, Nat.pow_succ]
    omega

/-- A positive number lies between the powers of ten that its length names. -/
theorem length_toDigits_bounds {n : Nat} (h : 0 < n) :
    10 ^ ((Nat.toDigits 10 n).length - 1) ≤ n ∧ n < 10 ^ (Nat.toDigits 10 n).length := by
  have hpos : 0 < (Nat.toDigits 10 n).length := Nat.length_toDigits_pos
  refine ⟨?_, (Nat.length_toDigits_le_iff (by decide) hpos).mp (Nat.le_refl _)⟩
  by_cases hone : (Nat.toDigits 10 n).length = 1
  · rw [hone]
    exact h
  · have hlong := mt (Nat.length_toDigits_le_iff (b := 10) (n := n) (by decide)
      (k := (Nat.toDigits 10 n).length - 1) (by omega)).mpr (by omega)
    exact Nat.le_of_not_lt hlong

/-! ## Words of fixed width -/

theorem allDigits_paddedDigits (width n : Nat) : AllDigits (paddedDigits width n) :=
  (allDigits_replicate_zero _).append (allDigits_toDigits n)

theorem digitsValue_paddedDigits (width n : Nat) : digitsValue (paddedDigits width n) = n := by
  unfold paddedDigits
  rw [digitsValue_append, digitsValue_replicate_zero, digitsValue_toDigits, Nat.zero_mul,
    Nat.zero_add]

theorem length_paddedDigits {width n : Nat} (h : n < 10 ^ width) (hw : 0 < width) :
    (paddedDigits width n).length = width := by
  have := (Nat.length_toDigits_le_iff (b := 10) (n := n) (by decide) hw).mpr h
  simp only [paddedDigits, List.length_append, List.length_replicate]
  omega

/-! ## Texts without blanks -/

/-- A printing character of the first 128. -/
def Graphic (c : Char) : Prop := 33 ≤ c.toNat ∧ c.toNat < 128

instance (c : Char) : Decidable (Graphic c) :=
  inferInstanceAs (Decidable (33 ≤ c.toNat ∧ c.toNat < 128))

theorem AllDigits.graphic {cs : List Char} (h : AllDigits cs) : ∀ c ∈ cs, Graphic c := by
  intro c hc
  have hdigit := h c hc
  simp only [Char.isDigit, Bool.and_eq_true, decide_eq_true_eq, ge_iff_le] at hdigit
  have lower : 48 ≤ c.toNat := hdigit.1
  have upper : c.toNat ≤ 57 := hdigit.2
  unfold Graphic
  omega

theorem isBlank_of_graphic : ∀ i : Fin 128, 33 ≤ i.val → isBlank (Char.ofNat i.val) = false := by
  decide +kernel

/-- Nothing is trimmed off graphic characters. -/
theorem trimChars_of_graphic {cs : List Char} (h : ∀ c ∈ cs, Graphic c) : trimChars cs = cs := by
  have hblank : ∀ c ∈ cs, isBlank c = false := by
    intro c hc
    obtain ⟨lower, upper⟩ := h c hc
    have hgraphic := isBlank_of_graphic ⟨c.toNat, upper⟩ lower
    rwa [Char.ofNat_toNat] at hgraphic
  have hdrop {ds : List Char} (hds : ∀ c ∈ ds, isBlank c = false) :
      ds.dropWhile isBlank = ds := by
    cases ds with
    | nil => rfl
    | cons c ds => rw [List.dropWhile_cons_of_neg (by simp [hds c List.mem_cons_self])]
  rw [trimChars, hdrop hblank, hdrop (by simpa using hblank), List.reverse_reverse]

end StateExpr
