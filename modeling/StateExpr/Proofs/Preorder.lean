import StateExpr.Proofs.Sorting
/-!
# Where the order of values is one

Values are compared by their kinds and, within booleans, numbers and texts, in their own order.  Two
values are compared the same from either side.  But NaN counts as equal to every number, and so can
stand between two numbers that are out of order: with two different numbers and NaN among them,
values have no order, and such a list need not be sorted when `sortBy` is done with it.  That is all
that can go wrong.

Main statements: `Value.compare_ne_gt_trans_iff`, `Value.transCmp_iff` and
`Expr.values_in_order_iff`.
-/

namespace StateExpr

/-! ## Numbers beside NaN -/

section Numbers

open Float.Model Float.Model.UnpackedFloat

variable {x y : Float}

theorem compare_unpack_of_isNaN (h : x.isNaN = true ∨ y.isNaN = true) :
    x.toModel.unpack.compare y.toModel.unpack = none := by
  have hnan : ∀ u : UnpackedFloat, u.isNaN = true → u = .notANumber := by
    intro u hu
    cases u <;> first | rfl | cases hu
  rcases h with h | h
  · rw [hnan _ h]
    cases y.toModel.unpack <;> rfl
  · rw [hnan _ h]
    cases x.toModel.unpack <;> rfl

/-- NaN is neither below nor above a number. -/
theorem not_lt_of_isNaN (h : x.isNaN = true ∨ y.isNaN = true) : ¬ x < y := by
  change ¬ decide (x.toModel.unpack.compare y.toModel.unpack == some .lt) = true
  rw [compare_unpack_of_isNaN h]
  decide

theorem compareNumber?_getD_eq_lt_iff : (compareNumber? x y).getD .eq = .lt ↔ x < y := by
  unfold compareNumber?
  split_ifs with hlt <;> simp [hlt]

end Numbers

/-! ## Sorting by an order of the items alone -/

/-- Sorting puts the items in order when the order passes on between them, whatever it does with
others. -/
theorem pairwise_mergeSort_of_mem {α : Type} {le : α → α → Bool} {l : List α}
    (htrans : ∀ a ∈ l, ∀ b ∈ l, ∀ c ∈ l, le a b = true → le b c = true → le a c = true)
    (htotal : ∀ a b, (le a b || le b a) = true) :
    (l.mergeSort le).Pairwise fun a b => le a b = true := by
  have hitems := List.pairwise_mergeSort
    (fun a b c : {a // a ∈ l} => htrans a.1 a.2 b.1 b.2 c.1 c.2) (fun a b => htotal a.1 b.1)
    l.attach
  have hsame : (l.attach.mergeSort fun a b => le a.1 b.1).map Subtype.val = l.mergeSort le := by
    rw [List.map_mergeSort (f := Subtype.val) (s := le) fun _ _ _ _ => rfl,
      List.attach_map_subtype_val]
  rw [← hsame]
  exact List.pairwise_map.mpr hitems

/-! ## Comparisons of values -/

namespace Value

variable {u v w : Value}

/-- NaN is compared by its kind alone. -/
theorem compare_of_isNaN (h : v.isNaN = true ∨ w.isNaN = true) :
    v.compare w = Ord.compare v.rank w.rank := by
  by_cases hrank : v.rank = w.rank
  · cases v <;> cases w <;> try exact absurd hrank (Nat.ne_of_beq_eq_false rfl)
    case number.number x y =>
      have hlt : ¬ x < y := not_lt_of_isNaN h
      have hgt : ¬ y < x := not_lt_of_isNaN h.symm
      change (compareNumber? x y).getD .eq = .eq
      unfold compareNumber?
      rw [if_neg hlt, if_neg hgt]
      split_ifs <;> rfl
    all_goals rcases h with h | h <;> cases h
  · exact compare_of_rank_ne hrank

theorem compare_cases (v w : Value) :
    (v.isNaN = false ∧ w.isNaN = false ∧ v.compare w = Ord.compare v.place w.place) ∨
      (v.isNaN = true ∨ w.isNaN = true) ∧ v.compare w = Ord.compare v.rank w.rank := by
  cases hv : v.isNaN with
  | true => exact .inr ⟨.inl rfl, compare_of_isNaN (.inl hv)⟩
  | false =>
    cases hw : w.isNaN with
    | true => exact .inr ⟨.inr rfl, compare_of_isNaN (.inr hw)⟩
    | false => exact .inl ⟨rfl, rfl, compare_eq_compare_place hv hw⟩

/-- **The comparison is the same from either side.** -/
theorem compare_swap (v w : Value) : v.compare w = (w.compare v).swap := by
  rcases compare_cases v w with ⟨hv, hw, hcompare⟩ | ⟨hnan, hcompare⟩
  · rw [hcompare, compare_eq_compare_place hw hv]
    exact Std.OrientedOrd.eq_swap
  · rw [hcompare, compare_of_isNaN hnan.symm]
    exact Std.OrientedOrd.eq_swap

instance : Std.OrientedCmp compare := ⟨compare_swap _ _⟩

/-- Values in order are of kinds in order. -/
theorem rank_le (h : v.compare w ≠ .gt) : v.rank ≤ w.rank := by
  rcases compare_cases v w with ⟨-, -, hcompare⟩ | ⟨-, hcompare⟩
  · rw [hcompare] at h
    exact Prod.Lex.monotone_fst _ _ (compare_le_iff_le.mp h)
  · rw [hcompare] at h
    exact compare_le_iff_le.mp h

theorem exists_number_of_rank (hrank : u.rank = v.rank) (hv : v.isNaN = true) :
    ∃ x, u = .number x := by
  cases v <;> first | cases hv | skip
  cases u <;> first | exact ⟨_, rfl⟩ | cases hrank

/-- NaN stands between two numbers that are out of order. -/
def NaNBetween (u v w : Value) : Prop :=
  v.isNaN = true ∧ ∃ x y, u = .number x ∧ w = .number y ∧ y < x

/-- **Order passes on from each value to the next, but for NaN between two numbers.** -/
theorem compare_ne_gt_trans_iff (huv : u.compare v ≠ .gt) (hvw : v.compare w ≠ .gt) :
    u.compare w ≠ .gt ↔ ¬ NaNBetween u v w := by
  constructor
  · rintro h ⟨-, x, y, rfl, rfl, hlt⟩
    exact h (Std.OrientedCmp.gt_iff_lt.mpr (compareNumber?_getD_eq_lt_iff.mpr hlt))
  · intro hbetween hgt
    have hlt : w.compare u = .lt := Std.OrientedCmp.gt_iff_lt.mp hgt
    have hwu : w.rank ≤ u.rank := rank_le (by rw [hlt]; decide)
    have huv' : u.rank = v.rank := (rank_le huv).antisymm ((rank_le hvw).trans hwu)
    have hvw' : w.rank = v.rank := (hwu.trans (rank_le huv)).antisymm (rank_le hvw)
    rcases compare_cases u w with ⟨hu, hw, hcompare⟩ | ⟨-, hcompare⟩
    · cases hv : v.isNaN with
      | true =>
        obtain ⟨x, rfl⟩ := exists_number_of_rank huv' hv
        obtain ⟨y, rfl⟩ := exists_number_of_rank hvw' hv
        exact hbetween ⟨hv, x, y, rfl, rfl, compareNumber?_getD_eq_lt_iff.mp hlt⟩
      | false =>
        rw [compare_eq_compare_place hu hv] at huv
        rw [compare_eq_compare_place hv hw] at hvw
        have hle := (compare_le_iff_le.mp huv).trans (compare_le_iff_le.mp hvw)
        exact compare_le_iff_le.mpr hle (hcompare.symm.trans hgt)
    · rw [hcompare, huv', hvw', compare_eq_iff_eq.mpr rfl] at hgt
      cases hgt

/-- **Values have an order when NaN is not among them, or no two numbers are different.** -/
theorem transCmp_iff {p : Value → Prop} :
    (Std.TransCmp fun v w : Subtype p => v.1.compare w.1) ↔
      ∀ v, p v → v.isNaN = true → ∀ x y, p (.number x) → p (.number y) → ¬ y < x := by
  constructor
  · intro h v hv hnan x y hx hy hlt
    have hrank : ∀ z : Float, v.rank = (Value.number z).rank := by
      intro z
      cases v <;> first | rfl | cases hnan
    have hxv : (Value.number x).compare v = .eq := by
      rw [compare_of_isNaN (.inr hnan), hrank x, compare_eq_iff_eq.mpr rfl]
    have hvy : v.compare (Value.number y) = .eq := by
      rw [compare_of_isNaN (.inl hnan), hrank y, compare_eq_iff_eq.mpr rfl]
    have hle := h.isLE_trans (a := ⟨_, hx⟩) (b := ⟨v, hv⟩) (c := ⟨_, hy⟩)
      (by rw [hxv]; rfl) (by rw [hvy]; rfl)
    refine (compare_ne_gt_trans_iff (by rw [hxv]; decide) (by rw [hvy]; decide)).mp
      (Ordering.isLE_iff_ne_gt.mp hle) ⟨hnan, x, y, rfl, rfl, hlt⟩
  · intro h
    have horiented : Std.OrientedCmp fun v w : Subtype p => v.1.compare w.1 :=
      ⟨compare_swap _ _⟩
    refine ⟨fun {u v w} huv hvw => ?_⟩
    simp only [Ordering.isLE_iff_ne_gt] at huv hvw ⊢
    refine (compare_ne_gt_trans_iff huv hvw).mpr ?_
    rintro ⟨hnan, x, y, hx, hy, hlt⟩
    exact h v.1 v.2 hnan x y (hx ▸ u.2) (hy ▸ w.2) hlt

theorem notAfter_total (v w : Value) : (v.notAfter w || w.notAfter v) = true := by
  rw [notAfter, notAfter, compare_swap w]
  cases v.compare w <;> decide

/-- Keys that have an order are in order when the list is sorted by them. -/
theorem pairwise_sortedOn {key : Value → Value} {l : List Value}
    (h : Std.TransCmp fun v w : {k // k ∈ l.map key} => v.1.compare w.1) :
    (sortedOn key l).Pairwise fun v w => (key v).compare (key w) ≠ .gt := by
  have hkey : ∀ v ∈ l, key v ∈ l.map key := fun v hv => List.mem_map_of_mem hv
  refine (pairwise_mergeSort_of_mem ?_ fun v w => notAfter_total (key v) (key w)).imp bne_iff_ne.mp
  intro u hu v hv w hw huv hvw
  simp only [notAfter, bne_iff_ne, ne_eq, ← Ordering.isLE_iff_ne_gt] at huv hvw ⊢
  exact h.isLE_trans (a := ⟨_, hkey u hu⟩) (b := ⟨_, hkey v hv⟩) (c := ⟨_, hkey w hw⟩) huv hvw

end Value

namespace Expr

variable {ambient : Ambient}

/-- **Values are in order, but for NaN among different numbers.**  Every value is equal to itself in
the order, and two values are compared the same from either side.  Three values that are in order
from each to the next are in order from the first to the last, unless the middle one is NaN between
two numbers that are out of order.  So values have an order exactly when NaN is not among them or no
two of the numbers are different, and a list whose keys have one is sorted by them. -/
theorem values_in_order_iff (ambient : Ambient) :
    (∀ v : Value, v.compare v = .eq) ∧
    (∀ v w : Value, w.compare v = (v.compare w).swap) ∧
    (∀ u v w : Value, u.compare v ≠ .gt → v.compare w ≠ .gt →
      (u.compare w ≠ .gt ↔ ¬ Value.NaNBetween u v w)) ∧
    (∀ p : Value → Prop, (Std.TransCmp fun v w : Subtype p => v.1.compare w.1) ↔
      ∀ v, p v → v.isNaN = true → ∀ x y, p (.number x) → p (.number y) → ¬ y < x) ∧
    ∀ l rest : List Value,
      (Std.TransCmp fun v w : {k // k ∈ l.map (Value.sortKey rest)} => v.1.compare w.1) →
      ∃ r, Returns ambient .sortBy (.list l :: rest) (.list r) ∧ r.Perm l ∧
        r.Pairwise fun v w => (Value.sortKey rest v).compare (Value.sortKey rest w) ≠ .gt := by
  refine ⟨fun v => Std.ReflCmp.compare_self, fun v w => Value.compare_swap w v,
    fun u v w => Value.compare_ne_gt_trans_iff, fun p => Value.transCmp_iff, fun l rest h => ?_⟩
  exact ⟨_, returns_sortBy l rest, List.mergeSort_perm l _, Value.pairwise_sortedOn h⟩

/-- NaN among equal numbers and values of other kinds. -/
theorem values_in_order_equal_numbers :
    let ambient : Ambient := .still
    let nan : Value := .number (0.0 / 0.0)
    let l : List Value := [.text "b", nan, .number 1, .null, nan, .number 1, .bool true]
    (Value.bool true).compare (.text "a") ≠ .gt ∧
      ∃ r, Returns ambient .sortBy [.list l] (.list r) ∧ r.Perm l ∧
        r.Pairwise fun v w => v.compare w ≠ .gt := by
  intro ambient nan l
  obtain ⟨-, -, htrans, hiff, hsort⟩ := values_in_order_iff ambient
  have hbetween : ¬ Value.NaNBetween (.bool true) nan (.text "a") := by
    rintro ⟨-, x, y, hx, -⟩
    cases hx
  have hnumbers : ∀ x : Float, .number x ∈ l → x = 0.0 / 0.0 ∨ x = 1 := by
    intro x hx
    have hcases : x = 0.0 / 0.0 ∨ x = 1 ∨ x = 0.0 / 0.0 ∨ x = 1 := by simpa [l, nan] using hx
    tauto
  have hone : ¬ (1 : Float) < 1 := by decide +kernel
  have hleft : ∀ x : Float, ¬ 0.0 / 0.0 < x := fun x => not_lt_of_isNaN (.inl (by decide +kernel))
  have hright : ∀ x : Float, ¬ x < 0.0 / 0.0 := fun x => not_lt_of_isNaN (.inr (by decide +kernel))
  have horder := (hiff (· ∈ l)).mpr fun v _ _ x y hx hy => by
    rcases hnumbers x hx with rfl | rfl <;> rcases hnumbers y hy with rfl | rfl
    · exact hleft _
    · exact hright 1
    · exact hleft 1
    · exact hone
  exact ⟨(htrans (.bool true) nan (.text "a") (by decide +kernel) (by decide +kernel)).mpr hbetween,
    hsort l [] horder⟩

/-- NaN stands between two numbers that are out of order, and sorting leaves them so. -/
theorem numbers_around_nan :
    let ambient : Ambient := .still
    let nan : Value := .number (0.0 / 0.0)
    let l : List Value := [nan, .number 2, nan, .number 1]
    (Value.number 2).compare nan = .eq ∧ nan.compare (.number 1) = .eq ∧
      (Value.number 2).compare (.number 1) = .gt ∧
      Returns ambient .sortBy [.list l] (.list l) := by
  intro ambient nan l
  have hleft : (Value.number 2).compare nan = .eq := by decide +kernel
  have hright : nan.compare (.number 1) = .eq := by decide +kernel
  have hother : nan.compare (.number 2) = .eq := by decide +kernel
  have hself : nan.compare nan = .eq := by decide +kernel
  have hgt : (Value.number 2).compare (.number 1) = .gt := by decide +kernel
  refine ⟨hleft, hright, hgt, ?_⟩
  have hsorted : Value.sortedOn (Value.sortKey []) l = l := by
    change l.mergeSort Value.notAfter = l
    simp [l, List.mergeSort, List.MergeSort.Internal.splitInTwo, Value.notAfter, hleft, hright,
      hother, hself]
  have hreturns : Returns ambient .sortBy [.list l] _ := returns_sortBy l []
  rwa [hsorted] at hreturns

end Expr

end StateExpr
