import StateExpr.Proofs.Calls
import StateExpr.Proofs.Number.Whole
/-!
# Whole numbers as counts

A check for integers lets every whole number through, of whatever size.  The operators behind it
work with integers of 64 bits: they take `2 ^ 63` for the greatest of those, and what is farther out
for zero, as if it were no integer.

Main statements: `Value.integer?_of_whole?`, `clampedCount_of_whole?` and
`Expr.whole_numbers_taken`.
-/

namespace StateExpr

/-- The integer has 64 bits. -/
def FitsInt64 (k : ℤ) : Prop := int64Min ≤ k ∧ k ≤ int64Max

instance (k : ℤ) : Decidable (FitsInt64 k) := inferInstanceAs (Decidable (_ ∧ _))

/-- The integer that operators take a whole number for: itself when it has 64 bits, the greatest
integer of 64 bits for the next one, and zero for all others. -/
def takenFor (k : ℤ) : ℤ :=
  if FitsInt64 k then k else if k = int64Max + 1 then int64Max else 0

theorem takenFor_eq_self_iff {k : ℤ} : takenFor k = k ↔ FitsInt64 k := by
  unfold takenFor
  split_ifs with hfits hnext
  · exact iff_of_true rfl hfits
  · exact iff_of_false (by omega) hfits
  · refine iff_of_false ?_ hfits
    rintro rfl
    exact hfits (by decide)

theorem takenFor_nonpos {k : ℤ} (h : k ≤ 0) : takenFor k ≤ 0 := by
  unfold takenFor int64Max
  split_ifs <;> omega

namespace Value

/-- The integer that a value is, of whatever size. -/
def whole? (v : Value) : Option ℤ := v.asNumber?.bind wholeValue?

variable {v : Value} {k : ℤ}

/-- **The check for integers lets through what is whole.** -/
theorem integer_fault?_eq_none_iff {e : Expr} {position : ℕ} :
    Check.integer.fault? v e position = none ↔ ∃ k, v.whole? = some k := by
  have hinteger : v.isInteger = v.whole?.isSome := by
    cases v <;> rfl
  change Check.expect v.isInteger e _ = none ↔ _
  rw [hinteger, ← Option.isSome_iff_exists]
  cases v.whole?.isSome <;> simp [Check.expect]

/-- **What operators get of a whole number.** -/
theorem integer?_of_whole? (h : v.whole? = some k) : v.integer? =
    if FitsInt64 k then some k else if k = int64Max + 1 then some int64Max else none := by
  cases v with
  | number x =>
    have hwhole : wholeValue? x = some k := h
    change int64Value? x = _
    rw [int64Value?, hwhole]
    dsimp only
    split_ifs with hrange hfits hnext hfits hnext
    · obtain ⟨hmin, hmax⟩ := hfits
      rw [clampInt64, min_eq_left hmax, max_eq_right hmin]
    · subst hnext
      rfl
    · exact absurd ⟨hrange.1, by omega⟩ hfits
    · exact absurd ⟨hfits.1, by have := hfits.2; omega⟩ hrange
    · exact absurd ⟨by subst hnext; decide, hnext.le⟩ hrange
    · rfl
  | _ => cases h

theorem integer?_of_fits (h : v.whole? = some k) (hk : FitsInt64 k) : v.integer? = some k := by
  rw [integer?_of_whole? h, if_pos hk]

theorem integer?_getD_of_whole? (h : v.whole? = some k) : v.integer?.getD 0 = takenFor k := by
  rw [integer?_of_whole? h, takenFor]
  split_ifs <;> rfl

end Value

theorem clampedCount_of_whole? {v : Value} {k : ℤ} (h : v.whole? = some k) (length : ℕ) :
    clampedCount v length = min (takenFor k).toNat length := by
  rw [← Value.integer?_getD_of_whole? h, clampedCount]
  cases v.integer? with
  | none => exact (Nat.zero_min length).symm
  | some n => rfl

namespace Expr

variable {ambient : Ambient} {v w : Value} {j k : ℤ}

/-! ## Operators that take a count -/

/-- A value of any kind that is wanted in front, and an integer behind it, are checked. -/
theorem checked_count {c : Check} {u : Value} (hu : c.fault? u (constant .null) 0 = none)
    (hc : ∀ v e, c.fault? v e 1 = Check.integer.fault? v e 1) (h : v.whole? = some k) :
    Checked (some c) 0 [u, v] := by
  refine ⟨⟨constant .null, hu⟩, ⟨constant .null, ?_⟩, trivial⟩
  rw [Option.bind_some, hc]
  exact Value.integer_fault?_eq_none_iff.mpr ⟨k, h⟩

theorem returns_take_items (h : v.whole? = some k) (l : List Value) :
    Returns ambient .take [.list l, v] (.list (l.take (clampedCount v l.length))) := by
  have hchecked : Checked (some .sequenceThenIntegers) 0 [.list l, v] :=
    checked_count rfl (fun _ _ => rfl) h
  exact returns_of_apply rfl rfl hchecked rfl

theorem returns_take_chars (h : v.whole? = some k) (s : String) :
    Returns ambient .take [.text s, v]
      (.text (String.ofList (s.toList.take (clampedCount v s.length)))) := by
  have hchecked : Checked (some .sequenceThenIntegers) 0 [.text s, v] :=
    checked_count rfl (fun _ _ => rfl) h
  exact returns_of_apply rfl rfl hchecked rfl

theorem checked_list_count (h : v.whole? = some k) (l : List Value) :
    Checked (some .listThenIntegers) 0 [.list l, v] :=
  checked_count rfl (fun _ _ => rfl) h

theorem returns_skip (h : v.whole? = some k) (l : List Value) :
    Returns ambient .skip [.list l, v] (.list (l.drop (clampedCount v l.length))) :=
  returns_of_apply rfl rfl (checked_list_count h l) rfl

theorem returns_flatten (h : v.whole? = some k) (l : List Value) :
    Returns ambient .flatten [.list l, v]
      (.list (Value.flattenItems (some (takenFor k).toNat) l)) := by
  rw [← Value.integer?_getD_of_whole? h]
  exact returns_of_apply rfl rfl (checked_list_count h l) rfl

theorem returns_addOrdinal (h : v.whole? = some k) :
    Returns ambient .addOrdinal [v] (.text (if takenFor k ≤ 0 then toString (takenFor k)
      else toString (takenFor k) ++ Texts.ordinalEnding (takenFor k).toNat)) := by
  have hfits : Check.integer.fault? v (constant .null) 0 = none :=
    Value.integer_fault?_eq_none_iff.mpr ⟨k, h⟩
  have hchecked : Checked (some .integer) 0 [v] := ⟨⟨_, hfits⟩, trivial⟩
  rw [← Value.integer?_getD_of_whole? h]
  exact returns_of_apply rfl rfl hchecked rfl

theorem callGives_range (hv : v.whole? = some k) (hw : w.whole? = some j) :
    CallGives ambient .range [v, w] fun r => 0 < takenFor j ∧
      takenFor k + (takenFor j - 1) ≤ int64Max ∧
      r = .list ((List.range (takenFor j).toNat).map fun (i : ℕ) => .ofInt (takenFor k + i)) := by
  have hchecked : Checked (some .integer) 0 [v, w] :=
    checked_count (Value.integer_fault?_eq_none_iff.mpr ⟨k, hv⟩) (fun _ _ => rfl) hw
  refine (callGives_of_applyWithError rfl rfl hchecked).congr fun r => ?_
  have hstart : (argument [v, w] 0).integer?.getD 0 = takenFor k :=
    Value.integer?_getD_of_whole? hv
  have hcount : (argument [v, w] 1).integer?.getD 0 = takenFor j :=
    Value.integer?_getD_of_whole? hw
  rw [Arithmetic.range, hstart, hcount]
  split_ifs with hcount hlast
  · exact iff_of_false nofun (by omega)
  · exact iff_of_false nofun (by omega)
  · rw [Except.ok.injEq]
    constructor
    · rintro rfl
      exact ⟨by omega, by omega, rfl⟩
    · exact fun h => h.2.2.symm

/-- **How whole numbers are taken.**  The check for integers lets through the values that are some
integer `k`, of whatever size, and what operators get of one is `k` itself exactly when it has 64
bits.  Counts are cut to what there is to take or skip, depths count the levels to flatten, ranges
have so many integers from a start on and ordinal numbers are written, all for the integer that `k`
is taken for. -/
theorem whole_numbers_taken (ambient : Ambient) :
    (∀ v e position, Check.integer.fault? v e position = none ↔ ∃ k, v.whole? = some k) ∧
    (∀ k, takenFor k = k ↔ FitsInt64 k) ∧
    ∀ v k, v.whole? = some k →
      (v.integer? = some k ↔ FitsInt64 k) ∧
      (∀ l, Returns ambient .take [.list l, v] (.list (l.take (takenFor k).toNat)) ∧
        Returns ambient .skip [.list l, v] (.list (l.drop (takenFor k).toNat)) ∧
        Returns ambient .flatten [.list l, v]
          (.list (Value.flattenItems (some (takenFor k).toNat) l))) ∧
      (∀ s : String, Returns ambient .take [.text s, v]
        (.text (String.ofList (s.toList.take (takenFor k).toNat)))) ∧
      Returns ambient .addOrdinal [v] (.text (if takenFor k ≤ 0 then toString (takenFor k)
        else toString (takenFor k) ++ Texts.ordinalEnding (takenFor k).toNat)) ∧
      ∀ w j, w.whole? = some j → CallGives ambient .range [v, w] fun r => 0 < takenFor j ∧
        takenFor k + (takenFor j - 1) ≤ int64Max ∧
        r = .list ((List.range (takenFor j).toNat).map fun (i : ℕ) => .ofInt (takenFor k + i)) := by
  refine ⟨fun _ _ _ => Value.integer_fault?_eq_none_iff, fun _ => takenFor_eq_self_iff, ?_⟩
  intro v k h
  refine ⟨?_, fun l => ⟨?_, ?_, returns_flatten h l⟩, fun s => ?_, returns_addOrdinal h,
    fun _ _ => callGives_range h⟩
  · rw [Value.integer?_of_whole? h]
    split_ifs with hfits hnext
    · exact iff_of_true rfl hfits
    · refine iff_of_false ?_ hfits
      rw [Option.some.injEq]
      omega
    · exact iff_of_false nofun hfits
  · rw [List.take_eq_take_min, ← clampedCount_of_whole? h]
    exact returns_take_items h l
  · rw [List.drop_eq_drop_min, ← clampedCount_of_whole? h]
    exact returns_skip h l
  · rw [List.take_eq_take_min, String.length_toList, ← clampedCount_of_whole? h]
    exact returns_take_chars h s

/-- The greatest number of at most 64 bits as a count and as an ordinal number. -/
theorem whole_numbers_taken_greatest :
    let ambient : Ambient := .still
    let v : Value := .number 9223372036854774784
    v.whole? = some 9223372036854774784 ∧ v.integer? = some 9223372036854774784 ∧
      Returns ambient .take [.list [.null, .bool true], v] (.list [.null, .bool true]) ∧
      Returns ambient .skip [.list [.null, .bool true], v] (.list []) ∧
      Returns ambient .addOrdinal [v] (.text "9223372036854774784th") ∧
      CallGives ambient .range [v, .number 2] fun r =>
        r = .list [.ofInt 9223372036854774784, .ofInt 9223372036854774785] := by
  intro ambient v
  have hv : v.whole? = some 9223372036854774784 := by decide +kernel
  have htwo : (Value.number 2).whole? = some 2 := by decide +kernel
  obtain ⟨-, -, htaken⟩ := whole_numbers_taken ambient
  obtain ⟨hinteger, hlists, -, hordinal, hrange⟩ := htaken v _ hv
  obtain ⟨htake, hskip, -⟩ := hlists [.null, .bool true]
  have hfits : FitsInt64 9223372036854774784 := by decide
  rw [takenFor_eq_self_iff.mpr hfits] at htake hskip hordinal
  refine ⟨hv, hinteger.mpr hfits, htake, hskip, hordinal, (hrange _ _ htwo).congr fun r => ?_⟩
  have htwo' : takenFor 2 = 2 := rfl
  rw [takenFor_eq_self_iff.mpr hfits, htwo']
  exact ⟨fun h => h.2.2, fun h => ⟨by decide, by decide, h⟩⟩

/-- Whole numbers that do not fit 64 bits pass the check: the first of them counts as one less, and
a farther one as nothing, so that nothing is taken where everything would be. -/
theorem counts_beyond_int64 :
    let ambient : Ambient := .still
    let l : List Value := [.number 1, .number 2, .number 3]
    let v : Value := .number 1e19
    v.whole? = some (10 ^ 19) ∧ Check.integer.fault? v (constant v) 1 = none ∧
      v.integer? = none ∧ clampedCount v l.length = 0 ∧
      (operation ambient .take [constant (.list l), constant v]).evaluate.outcome .null =
        (.ok (.list []), .null) ∧
      (operation ambient .addOrdinal [constant v]).evaluate.outcome .null =
        (.ok (.text "0"), .null) ∧
      (Value.number 9223372036854775808).whole? = some (2 ^ 63) ∧
      (Value.number 9223372036854775808).integer? = some (2 ^ 63 - 1) := by
  intro ambient l v
  have hv : v.whole? = some (10 ^ 19) := by decide +kernel
  have hnext : (Value.number 9223372036854775808).whole? = some (2 ^ 63) := by decide +kernel
  have hcount : clampedCount v l.length = 0 := by
    rw [clampedCount_of_whole? hv]
    rfl
  have htake : Returns ambient .take [.list l, v] (.list (l.take (clampedCount v l.length))) :=
    returns_take_items hv l
  have hordinal : Returns ambient .addOrdinal [v] (.text "0") := returns_addOrdinal hv
  rw [hcount] at htake
  refine ⟨hv, Value.integer_fault?_eq_none_iff.mpr ⟨_, hv⟩, ?_, hcount,
    htake _ .null .null (.constant [.list l, v] .null),
    hordinal _ .null .null (.constant [v] .null), hnext, ?_⟩
  · rw [Value.integer?_of_whole? hv]
    rfl
  · rw [Value.integer?_of_whole? hnext]
    rfl

end Expr

end StateExpr
