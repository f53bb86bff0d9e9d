import StateExpr.Proofs.Calls
import StateExpr.Proofs.Number.Whole
/-!
# Grouped digits

A number is written with a fixed count of places: the decimal with so many places that is nearest to
its magnitude, a half to the even neighbour, and no other.  Commas are counted from the right while
the digits are written from the left, so that behind a first group of one to three digits all groups
have three, and the digits are the same without the commas.

Main statements: `Dyadic.fixedPoint_fixed`, `FixedPoint.unique`, `Texts.grouped_spec` and
`Expr.formatNumber_groups`.
-/

namespace StateExpr

/-! ## Decimals with so many places -/

/-- The digits before and behind the point of the decimal with so many places that is nearest to a
magnitude, a half to the even neighbour. -/
structure FixedPoint (magnitude : ℚ) (places : ℕ) (whole fraction : List Char) : Prop where
  exists_number : ∃ n, whole = Nat.toDigits 10 n
  allDigits : AllDigits fraction
  length_eq : fraction.length = places
  nearest : |2 * (magnitude * 10 ^ places - digitsValue (whole ++ fraction))| ≤ 1
  even : |2 * (magnitude * 10 ^ places - digitsValue (whole ++ fraction))| = 1 →
    digitsValue (whole ++ fraction) % 2 = 0

/-- A digit is worth at most nine, and tells its character. -/
theorem digitsValue_singleton {c : Char} (h : c.isDigit = true) :
    digitsValue [c] = c.toNat - 48 ∧ 48 ≤ c.toNat ∧ c.toNat ≤ 57 := by
  simp only [Char.isDigit, Bool.and_eq_true, decide_eq_true_eq, ge_iff_le] at h
  refine ⟨?_, h.1, h.2⟩
  change 10 * 0 + (c.toNat - 48) = _
  omega

/-- Words of digits of one length are told apart by what they are worth. -/
theorem AllDigits.eq_of_value {ds es : List Char} (hd : AllDigits ds) (he : AllDigits es)
    (hlength : ds.length = es.length) (h : digitsValue ds = digitsValue es) : ds = es := by
  induction ds using List.reverseRecOn generalizing es with
  | nil => exact (List.length_eq_zero_iff.mp hlength.symm).symm
  | append_singleton cs c ih =>
    obtain rfl | ⟨bs, b, rfl⟩ := List.eq_nil_or_concat es
    · simp at hlength
    rw [List.concat_eq_append] at *
    rw [List.length_append, List.length_append] at hlength
    rw [digitsValue_append, digitsValue_append] at h
    obtain ⟨hc, hlow, hhigh⟩ := digitsValue_singleton (hd c (by simp))
    obtain ⟨hb, hlow', hhigh'⟩ := digitsValue_singleton (he b (by simp))
    rw [hc, hb] at h
    simp only [List.length_singleton, Nat.pow_one] at h hlength
    have hsame : c.toNat = b.toNat := by omega
    have hfront : cs = bs := ih (fun a ha => hd a (List.mem_append_left _ ha))
      (fun a ha => he a (List.mem_append_left _ ha)) (by omega) (by omega)
    rw [hfront, Char.toNat_inj.mp hsame]

/-- To be nearest to a fraction is said of its numerator. -/
theorem nearest_fraction_iff (num n : ℕ) {den : ℕ} (hden : 0 < den) :
    (|2 * ((num : ℚ) / den - n)| ≤ 1 ↔
      2 * n * den ≤ 2 * num + den ∧ 2 * num ≤ 2 * n * den + den) ∧
    (|2 * ((num : ℚ) / den - n)| = 1 ↔
      2 * num = 2 * n * den + den ∨ 2 * n * den = 2 * num + den) := by
  have hden' : (0 : ℚ) < den := by exact_mod_cast hden
  have hform : 2 * ((num : ℚ) / den - n) = (2 * num - 2 * n * den) / den := by field_simp
  rw [hform, abs_div, abs_of_pos hden', div_le_one hden', div_eq_one_iff_eq hden'.ne', abs_le,
    abs_eq hden'.le, neg_le_sub_iff_le_add, sub_le_iff_le_add', sub_eq_iff_eq_add',
    sub_eq_iff_eq_add', ← sub_eq_add_neg, eq_sub_iff_add_eq]
  constructor
  · norm_cast
  · rw [@eq_comm ℚ (2 * num + den)]
    norm_cast

namespace Dyadic

variable (d : Dyadic) (places : ℕ)

/-- The nearest number without its point. -/
def scaled : ℕ := roundHalfEven (d.numerator * 10 ^ places) d.denominator

theorem magnitude_mul_pow : d.magnitude * 10 ^ places =
    ((d.numerator * 10 ^ places : ℕ) : ℚ) / d.denominator := by
  rw [magnitude_eq]
  push_cast
  ring

end Dyadic

namespace FixedPoint

variable {d : Dyadic} {places : ℕ} {whole fraction : List Char}

theorem value_eq (h : FixedPoint d.magnitude places whole fraction) :
    digitsValue (whole ++ fraction) = d.scaled places := by
  obtain ⟨hnearest, htie⟩ := nearest_fraction_iff (d.numerator * 10 ^ places)
    (digitsValue (whole ++ fraction)) d.denominator_pos
  have hclose := h.nearest
  have heven := h.even
  rw [Dyadic.magnitude_mul_pow] at hclose heven
  obtain ⟨lower, upper⟩ := hnearest.mp hclose
  refine (roundHalfEven_eq d.denominator_pos lower upper fun hodd => ?_).symm
  have hno := mt (fun h => heven (htie.mpr h)) (by omega)
  omega

/-- **The number without its point tells the digits** before and behind the point. -/
theorem digits_eq (h : FixedPoint d.magnitude places whole fraction) :
    whole = Nat.toDigits 10 (d.scaled places / 10 ^ places) ∧
      digitsValue fraction = d.scaled places % 10 ^ places := by
  obtain ⟨k, rfl⟩ := h.exists_number
  have hlt := h.allDigits.digitsValue_lt
  rw [h.length_eq] at hlt
  have hpos : 0 < 10 ^ places := Nat.pow_pos (by decide)
  rw [← h.value_eq, digitsValue_append, digitsValue_toDigits, h.length_eq, Nat.mul_comm]
  constructor
  · rw [Nat.mul_add_div hpos, Nat.div_eq_of_lt hlt, Nat.add_zero]
  · rw [Nat.mul_add_mod, Nat.mod_eq_of_lt hlt]

theorem unique {whole' fraction' : List Char} (h : FixedPoint d.magnitude places whole fraction)
    (h' : FixedPoint d.magnitude places whole' fraction') :
    whole = whole' ∧ fraction = fraction' := by
  obtain ⟨hwhole, hfraction⟩ := h.digits_eq
  obtain ⟨hwhole', hfraction'⟩ := h'.digits_eq
  exact ⟨hwhole.trans hwhole'.symm, h.allDigits.eq_of_value h'.allDigits
    (h.length_eq.trans h'.length_eq.symm) (hfraction.trans hfraction'.symm)⟩

end FixedPoint

namespace Dyadic

/-- The nearest number is at most half away, and even when it is just that. -/
theorem scaled_nearest (d : Dyadic) (places : ℕ) :
    |2 * (d.magnitude * 10 ^ places - d.scaled places)| ≤ 1 ∧
    (|2 * (d.magnitude * 10 ^ places - d.scaled places)| = 1 → d.scaled places % 2 = 0) := by
  obtain ⟨lower, upper, hodd⟩ : 2 * (d.scaled places * d.denominator) ≤
        2 * (d.numerator * 10 ^ places) + d.denominator ∧
      2 * (d.numerator * 10 ^ places) ≤ 2 * (d.scaled places * d.denominator) + d.denominator ∧
      (d.scaled places % 2 = 1 →
        2 * (d.scaled places * d.denominator) < 2 * (d.numerator * 10 ^ places) + d.denominator ∧
        2 * (d.numerator * 10 ^ places) < 2 * (d.scaled places * d.denominator) + d.denominator) :=
    roundHalfEven_bounds d.denominator_pos
  rw [← Nat.mul_assoc 2 (d.scaled places)] at lower upper hodd
  obtain ⟨hnearest, htie⟩ := nearest_fraction_iff (d.numerator * 10 ^ places) (d.scaled places)
    d.denominator_pos
  rw [magnitude_mul_pow]
  refine ⟨hnearest.mpr ⟨lower, upper⟩, fun h => ?_⟩
  have := htie.mp h
  omega

theorem fixed_fst (d : Dyadic) (places : ℕ) :
    (d.fixed places).1 = Nat.toDigits 10 (d.scaled places / 10 ^ places) := rfl

/-- Behind the point there are so many digits, zeros in front included. -/
theorem fixed_snd (d : Dyadic) (places : ℕ) :
    AllDigits (d.fixed places).2 ∧ (d.fixed places).2.length = places ∧
      digitsValue (d.fixed places).2 = d.scaled places % 10 ^ places := by
  have hfraction : (d.fixed places).2 =
      if places = 0 then [] else paddedDigits places (d.scaled places % 10 ^ places) := rfl
  have hrest : d.scaled places % 10 ^ places < 10 ^ places :=
    Nat.mod_lt _ (Nat.pow_pos (by decide))
  rw [hfraction]
  split
  · rename_i hzero
    subst hzero
    exact ⟨nofun, rfl, (Nat.mod_one _).symm⟩
  · exact ⟨allDigits_paddedDigits _ _, length_paddedDigits hrest (by omega),
      digitsValue_paddedDigits _ _⟩

/-- **The digits that are written are those of the nearest decimal.** -/
theorem fixedPoint_fixed (d : Dyadic) (places : ℕ) :
    FixedPoint d.magnitude places (d.fixed places).1 (d.fixed places).2 := by
  obtain ⟨hdigits, hlength, hvalue⟩ := d.fixed_snd places
  have hscaled : digitsValue ((d.fixed places).1 ++ (d.fixed places).2) = d.scaled places := by
    rw [digitsValue_append, hlength, hvalue, fixed_fst, digitsValue_toDigits, Nat.div_add_mod']
  obtain ⟨hnearest, heven⟩ := d.scaled_nearest places
  rw [← hscaled] at hnearest heven
  exact ⟨⟨_, d.fixed_fst places⟩, hdigits, hlength, hnearest, heven⟩

end Dyadic

/-! ## Groups of three -/

namespace Texts

/-- The digits from a position on, with a comma in front of those behind which there are whole
groups. -/
def groupedFrom (length position : ℕ) (cs : List Char) : List Char :=
  (cs.zipIdx position).flatMap fun (c, i) =>
    if 0 < i && (length - i) % 3 == 0 then [',', c] else [c]

theorem groupedFrom_cons (length position : ℕ) (c : Char) (cs : List Char) :
    groupedFrom length position (c :: cs) =
      (if 0 < position && (length - position) % 3 == 0 then [',', c] else [c]) ++
        groupedFrom length (position + 1) cs := by
  rw [groupedFrom, List.zipIdx_cons, List.flatMap_cons]
  rfl

/-- No comma stands where no whole groups are ahead. -/
theorem groupedFrom_append {length position : ℕ} {cs : List Char}
    (h : ∀ i, position ≤ i → i < position + cs.length → i = 0 ∨ (length - i) % 3 ≠ 0)
    (rest : List Char) : groupedFrom length position (cs ++ rest) =
      cs ++ groupedFrom length (position + cs.length) rest := by
  induction cs generalizing position with
  | nil => rfl
  | cons c cs ih =>
    have hc := h position (Nat.le_refl _) (by rw [List.length_cons]; omega)
    have hno : (0 < position && (length - position) % 3 == 0) = false := by
      simp only [Bool.and_eq_false_iff, decide_eq_false_iff_not, beq_eq_false_iff_ne]
      omega
    have hrest : groupedFrom length (position + 1) (cs ++ rest) =
        cs ++ groupedFrom length (position + 1 + cs.length) rest :=
      ih fun i hlow hhigh => h i (by omega) (by rw [List.length_cons]; omega)
    rw [List.cons_append, groupedFrom_cons, hno, hrest, List.length_cons, Nat.add_right_comm]
    rfl

/-- Behind the first group there are whole ones. -/
theorem exists_wholeGroups (m : ℕ) {length position : ℕ} (hposition : 0 < position)
    {cs : List Char} (hcs : cs.length = 3 * m) (hlength : length = position + cs.length) :
    ∃ groups : List (List Char), groups.flatten = cs ∧ (∀ g ∈ groups, g.length = 3) ∧
      groupedFrom length position cs = groups.flatMap (',' :: ·) := by
  induction m generalizing position cs with
  | zero =>
    obtain rfl := List.length_eq_zero_iff.mp hcs
    exact ⟨[], rfl, nofun, rfl⟩
  | succ m ih =>
    match cs, hcs with
    | a :: b :: c :: rest, hcs =>
      simp only [List.length_cons] at hcs hlength
      have hnext : 0 < position + 3 ∧ length = position + 3 + rest.length := by omega
      obtain ⟨groups, hflatten, hthree, hgroups⟩ := ih hnext.1 (by omega) hnext.2
      refine ⟨[a, b, c] :: groups, by rw [List.flatten_cons, hflatten]; rfl,
        List.forall_mem_cons.mpr ⟨rfl, hthree⟩, ?_⟩
      have hcomma : (0 < position && (length - position) % 3 == 0) = true := by
        simp only [Bool.and_eq_true, decide_eq_true_eq, beq_iff_eq]
        omega
      have hplain : groupedFrom length (position + 1) ([b, c] ++ rest) =
          [b, c] ++ groupedFrom length (position + 3) rest := by
        apply groupedFrom_append
        intro i hlow hhigh
        simp only [List.length_cons, List.length_nil] at hhigh
        omega
      calc groupedFrom length position (a :: b :: c :: rest)
        _ = [',', a] ++ groupedFrom length (position + 1) ([b, c] ++ rest) := by
          rw [groupedFrom_cons, hcomma]
          rfl
        _ = [',', a, b, c] ++ groupedFrom length (position + 3) rest := by
          rw [hplain]
          rfl
        _ = ([a, b, c] :: groups).flatMap (',' :: ·) := by
          rw [hgroups]
          rfl

/-- Commas between groups of three digits, of which the first may have less. -/
inductive Grouped : List Char → List Char → Prop where
  | mk {first : List Char} {groups : List (List Char)} (some : 1 ≤ first.length)
      (most : first.length ≤ 3) (three : ∀ g ∈ groups, g.length = 3) :
      Grouped (first ++ groups.flatten) (first ++ groups.flatMap (',' :: ·))

/-- **Commas stand between groups of three**, counted from the right. -/
theorem grouped_spec {digits : List Char} (h : digits ≠ []) : Grouped digits (grouped digits) := by
  have hpos := List.length_pos_iff.mpr h
  have hfirst : (digits.take ((digits.length - 1) % 3 + 1)).length =
      (digits.length - 1) % 3 + 1 := by
    rw [List.length_take]
    omega
  have hrest : (digits.drop ((digits.length - 1) % 3 + 1)).length =
      3 * ((digits.length - 1) / 3) := by
    rw [List.length_drop]
    omega
  have hsplit := List.take_append_drop ((digits.length - 1) % 3 + 1) digits
  generalize digits.take ((digits.length - 1) % 3 + 1) = first at *
  generalize digits.drop ((digits.length - 1) % 3 + 1) = rest at *
  have hlength : digits.length = first.length + rest.length := by
    rw [← hsplit, List.length_append]
  obtain ⟨groups, rfl, hthree, hgroups⟩ := exists_wholeGroups _ (by omega) hrest hlength
  have hgrouped : grouped digits = first ++ groups.flatMap (',' :: ·) := by
    change groupedFrom digits.length 0 digits = _
    nth_rewrite 2 [← hsplit]
    rw [groupedFrom_append (by intro i hlow hhigh; omega), Nat.zero_add, hgroups]
  rw [hgrouped, ← hsplit]
  exact .mk (by omega) (by omega) hthree

theorem filter_comma {cs : List Char} (h : AllDigits cs) : cs.filter (· != ',') = cs := by
  apply List.filter_eq_self.mpr
  intro c hc
  rw [bne_iff_ne]
  rintro rfl
  exact absurd (h _ hc) (by decide)

theorem filter_flatMap_comma {groups : List (List Char)} (h : AllDigits groups.flatten) :
    (groups.flatMap (',' :: ·)).filter (· != ',') = groups.flatten := by
  induction groups with
  | nil => rfl
  | cons g groups ih =>
    rw [List.flatten_cons] at h
    have hg : g.filter (· != ',') = g :=
      filter_comma fun c hc => h c (List.mem_append_left _ hc)
    have hrest := ih fun c hc => h c (List.mem_append_right _ hc)
    rw [List.flatMap_cons, List.filter_append, hrest, List.flatten_cons,
      List.filter_cons_of_neg (by decide), hg]

/-- The digits are the same without the commas. -/
theorem Grouped.filter_eq {digits text : List Char} (h : Grouped digits text)
    (hdigits : AllDigits digits) : text.filter (· != ',') = digits := by
  cases h with
  | mk some most three =>
    rw [List.filter_append, filter_comma fun c hc => hdigits c (List.mem_append_left _ hc),
      filter_flatMap_comma fun c hc => hdigits c (List.mem_append_right _ hc)]

/-- What stands behind the whole part. -/
def pointed (fraction : List Char) : List Char :=
  if fraction.isEmpty then [] else '.' :: fraction

theorem filter_pointed {fraction : List Char} (h : AllDigits fraction) :
    (pointed fraction).filter (· != ',') = pointed fraction := by
  unfold pointed
  split
  · rfl
  · rw [List.filter_cons_of_pos (by decide), filter_comma h]

theorem filter_withSign (negative : Bool) (text : List Char) :
    (withSign negative text).filter (· != ',') = withSign negative (text.filter (· != ',')) := by
  cases negative <;> rfl

/-- A finite number in so many places: its digits in groups, and a minus sign in front of those of a
negative number that are not all zeros. -/
theorem fixedText_eq {x : Float} {d : Dyadic} (hx : Dyadic.ofFloat? x = some d) (places : ℕ) :
    fixedText x places = String.ofList (withSign
      (decide (x < 0 ∧ ∃ c ∈ (d.fixed places).1 ++ (d.fixed places).2, c ≠ '0'))
      (grouped (d.fixed places).1 ++ pointed (d.fixed places).2)) := by
  have hsign : (decide (x < 0) && ((d.fixed places).1 ++ (d.fixed places).2).any (· != '0')) =
      decide (x < 0 ∧ ∃ c ∈ (d.fixed places).1 ++ (d.fixed places).2, c ≠ '0') := by
    rw [Bool.eq_iff_iff]
    simp only [Bool.and_eq_true, decide_eq_true_eq, List.any_eq_true, bne_iff_ne]
  rw [fixedText, hx]
  dsimp only
  rw [hsign]
  rfl

end Texts

/-! ## The operator -/

namespace Expr

open Texts

theorem returns_formatNumber {ambient : Ambient} {x : Float} {v : Value} {places : ℕ}
    (hv : v.integer? = some (places : ℤ)) (hplaces : places ≤ 20) :
    Returns ambient .formatNumber [.number x, v] (.text (fixedText x places)) := by
  apply (callGives_of_applyWithError rfl rfl (checked_none 0 _)).returns
  have hnumber : (argument [.number x, v] 0).asNumber? = some x := rfl
  have hprecision : ((argument [.number x, v] 1).integer?.filter fun p => 0 ≤ p ∧ p ≤ 20) =
      some (places : ℤ) := by
    change (v.integer?.filter fun p => 0 ≤ p ∧ p ≤ 20) = _
    rw [hv, Option.filter_some, if_pos (by simpa using hplaces)]
  rw [formatNumber, hnumber]
  dsimp only
  rw [hprecision]
  rfl

/-- **Grouping alters no digits.**  A finite number is written as the decimal with so many places
that is nearest to its magnitude, which is one.  Without the commas the text is that decimal, behind
a minus sign just when the number is negative and a digit of it is not zero.  Commas stand in the
whole part only, between groups of three digits, of which the first may have less. -/
theorem formatNumber_groups (ambient : Ambient) {x : Float} {v : Value} {places : ℕ}
    (hx : x.isFinite = true) (hv : v.integer? = some (places : ℤ)) (hplaces : places ≤ 20) :
    ∃ d whole fraction shown text, Dyadic.ofFloat? x = some d ∧
      (∀ w f, FixedPoint d.magnitude places w f ↔ w = whole ∧ f = fraction) ∧
      Returns ambient .formatNumber [.number x, v] (.text text) ∧
      text.toList.filter (· != ',') =
        withSign (decide (x < 0 ∧ ∃ c ∈ whole ++ fraction, c ≠ '0')) (whole ++ pointed fraction) ∧
      text.toList =
        withSign (decide (x < 0 ∧ ∃ c ∈ whole ++ fraction, c ≠ '0')) (shown ++ pointed fraction) ∧
      Grouped whole shown := by
  rw [Dyadic.isFinite_eq, Option.isSome_iff_exists] at hx
  obtain ⟨d, hd⟩ := hx
  have hfixed := d.fixedPoint_fixed places
  have htext := congrArg String.toList (fixedText_eq hd places)
  rw [String.toList_ofList] at htext
  generalize (d.fixed places).1 = whole at hfixed htext
  generalize (d.fixed places).2 = fraction at hfixed htext
  obtain ⟨n, hn⟩ := hfixed.exists_number
  have hdigits : AllDigits whole := hn ▸ allDigits_toDigits n
  have hgrouped : Grouped whole (grouped whole) := grouped_spec (hn ▸ Nat.toDigits_ne_nil)
  refine ⟨d, whole, fraction, grouped whole, fixedText x places, hd, ?_,
    returns_formatNumber hv hplaces, ?_, htext, hgrouped⟩
  · intro w f
    constructor
    · exact fun h => h.unique hfixed
    · rintro ⟨rfl, rfl⟩
      exact hfixed
  · rw [htext, filter_withSign, List.filter_append, hgrouped.filter_eq hdigits,
      filter_pointed hfixed.allDigits]

/-- A negative number: the sign stands in front of a first group of one digit. -/
theorem formatNumber_groups_negative :
    let ambient : Ambient := .still
    let x : Float := -1234567.895
    x.isFinite = true ∧ (Value.number 2).integer? = some ((2 : ℕ) : ℤ) ∧
    fixedText x 2 = "-1,234,567.90" ∧
    ∃ d whole fraction shown text, Dyadic.ofFloat? x = some d ∧
      (∀ w f, FixedPoint d.magnitude 2 w f ↔ w = whole ∧ f = fraction) ∧
      Returns ambient .formatNumber [.number x, .number 2] (.text text) ∧
      text.toList.filter (· != ',') =
        withSign (decide (x < 0 ∧ ∃ c ∈ whole ++ fraction, c ≠ '0')) (whole ++ pointed fraction) ∧
      text.toList =
        withSign (decide (x < 0 ∧ ∃ c ∈ whole ++ fraction, c ≠ '0')) (shown ++ pointed fraction) ∧
      Grouped whole shown := by
  intro ambient x
  have hx : x.isFinite = true := by decide +kernel
  have hv : (Value.number 2).integer? = some ((2 : ℕ) : ℤ) := by decide +kernel
  exact ⟨hx, hv, by decide +kernel, formatNumber_groups ambient hx hv (by decide)⟩

end Expr

end StateExpr
