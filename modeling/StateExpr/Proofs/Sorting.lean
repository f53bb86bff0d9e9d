import Mathlib.Data.Prod.Lex
import Mathlib.Data.String.Basic
import StateExpr.Proofs.Calls
import StateExpr.Proofs.Number.Form
/-!
# Sorting

Values that are not NaN have a place in a linear order, and are compared as their places are.  Lists
share one place, as do maps, so sorting has to keep many items as they stood.

Main statements: `Value.compare_eq_compare_place`, `Value.compare_ne_gt_iff`,
`Value.sortedAs_sortedOn` and `Expr.sortBy_stable`.
-/

namespace StateExpr

/-! ## Places of numbers -/

section Numbers

open Float.Model Float.Model.UnpackedFloat

/-- The place of a number among all numbers: of two with the same sign the exponent and then the
mantissa say which one is farther from zero.  The zeros share a place, NaN has none. -/
def numberPlace? : UnpackedFloat → Option (ℤ ×ₗ ℤ ×ₗ ℤ)
  | .notANumber => none
  | .infinity .negative => some (toLex (-2, toLex (0, 0)))
  | .finite .negative m e _ => some (toLex (-1, toLex (-e, -m)))
  | .zero _ => some (toLex (0, toLex (0, 0)))
  | .finite .positive m e _ => some (toLex (1, toLex (e, m)))
  | .infinity .positive => some (toLex (2, toLex (0, 0)))

theorem compare_neg_neg (e f : ℤ) : compare (-e) (-f) = (compare e f).swap := by
  have hneg : StrictAnti fun i : ℤ => -i := fun _ _ => Int.neg_lt_neg
  rw [← cmp_eq_compare, ← cmp_eq_compare, cmp_swap]
  exact hneg.cmp_map_eq e f

theorem compare_natCast (m n : ℕ) : compare (m : ℤ) (n : ℤ) = compare m n := by
  rw [← cmp_eq_compare, ← cmp_eq_compare]
  exact Nat.strictMono_cast.cmp_map_eq m n

theorem compare_of_numberPlace? {u v : UnpackedFloat} {a b : ℤ ×ₗ ℤ ×ₗ ℤ}
    (hu : numberPlace? u = some a) (hv : numberPlace? v = some b) :
    u.compare v = some (compare a b) := by
  rcases u with (_ | _) | _ | (_ | _) | ⟨_ | _, m, e, hm⟩ <;>
    rcases v with (_ | _) | _ | (_ | _) | ⟨_ | _, n, f, hn⟩ <;> cases hu <;> cases hv
  all_goals
    simp [UnpackedFloat.compare, Prod.Lex.compare_def, compareLex, compareOn, compare_neg_neg,
      compare_natCast, Ordering.swap_then]
  all_goals rfl

variable {x y : Float} {a b : ℤ ×ₗ ℤ ×ₗ ℤ}

theorem exists_numberPlace (h : x.isNaN = false) :
    ∃ a, numberPlace? x.toModel.unpack = some a := by
  change x.toModel.unpack.isNaN = false at h
  rcases hu : x.toModel.unpack with (_ | _) | _ | (_ | _) | ⟨_ | _, m, e, hm⟩ <;>
    rw [hu] at h <;> first | exact ⟨_, rfl⟩ | cases h

section

variable (hx : numberPlace? x.toModel.unpack = some a) (hy : numberPlace? y.toModel.unpack = some b)
include hx hy

theorem float_lt_iff : x < y ↔ a < b := by
  have hlt : x < y ↔ (x.toModel.unpack.compare y.toModel.unpack == some .lt) = true :=
    decide_eq_true_iff
  rw [hlt, beq_iff_eq, compare_of_numberPlace? hx hy, Option.some.injEq, compare_lt_iff_lt]

theorem float_le_iff : x ≤ y ↔ a ≤ b := by
  have hle : x ≤ y ↔ ((x.toModel.unpack.compare y.toModel.unpack).any (·.isLE)) = true :=
    decide_eq_true_iff
  rw [hle, compare_of_numberPlace? hx hy, Option.any_some, Ordering.isLE_iff_ne_gt]
  exact compare_le_iff_le

end

end Numbers

/-! ## Sorting by places -/

section

variable {α K : Type} [LinearOrder K] (f : α → K) (l : List α)

theorem decide_le_trans (a b c : α) (hab : decide (f a ≤ f b)) (hbc : decide (f b ≤ f c)) :
    decide (f a ≤ f c) :=
  decide_eq_true ((of_decide_eq_true hab).trans (of_decide_eq_true hbc))

theorem decide_le_total (a b : α) : decide (f a ≤ f b) || decide (f b ≤ f a) := by
  simpa using le_total (f a) (f b)

theorem pairwise_mergeSort_le :
    (l.mergeSort fun a b => decide (f a ≤ f b)).Pairwise fun a b => f a ≤ f b :=
  (List.pairwise_mergeSort (decide_le_trans f) (decide_le_total f) l).imp of_decide_eq_true

/-- **Items of one place stay in order.**  They are in order as they stand, so that sorting keeps
them as a sublist, and there are no others of this place. -/
theorem filter_mergeSort_le (k : K) :
    (l.mergeSort fun a b => decide (f a ≤ f b)).filter (fun a => f a = k) =
      l.filter fun a => f a = k := by
  have hordered : (l.filter fun a => f a = k).Pairwise fun a b => decide (f a ≤ f b) := by
    refine List.pairwise_of_forall_mem_list fun a ha b hb => decide_eq_true ?_
    have ha := of_decide_eq_true (List.mem_filter.mp ha).2
    have hb := of_decide_eq_true (List.mem_filter.mp hb).2
    exact (ha.trans hb.symm).le
  have hkept := (List.sublist_mergeSort (decide_le_trans f) (decide_le_total f) hordered
    List.filter_sublist).filter fun a => f a = k
  simp only [List.filter_filter, Bool.and_self] at hkept
  exact (hkept.eq_of_length ((List.mergeSort_perm l _).filter _).length_eq.symm).symm

end

/-! ## Places of values -/

theorem compare_eq_ite {K : Type} [LinearOrder K] (a b : K) :
    compare a b = if a < b then .lt else if b < a then .gt else .eq := by
  split_ifs with hlt hgt
  · exact compare_lt_iff_lt.mpr hlt
  · exact compare_gt_iff_gt.mpr hgt
  · exact compare_eq_iff_eq.mpr (le_antisymm (not_lt.mp hgt) (not_lt.mp hlt))

theorem compareText_eq (s t : String) : compareText s t = Ord.compare s t :=
  (compare_eq_ite s t).symm

theorem compareNumber?_getD {x y : Float} {a b : ℤ ×ₗ ℤ ×ₗ ℤ}
    (hx : numberPlace? x.toModel.unpack = some a) (hy : numberPlace? y.toModel.unpack = some b) :
    (compareNumber? x y).getD .eq = Ord.compare a b := by
  unfold compareNumber?
  simp only [float_lt_iff hx hy, float_lt_iff hy hx]
  rw [compare_eq_ite a b]
  split_ifs <;> rfl

namespace Value

/-- The value is NaN itself; NaN within lists and maps does not count. -/
def isNaN : Value → Bool
  | number x => x.isNaN
  | _ => false

/-- The order of values: one kind behind the other, from null to maps, and within booleans, numbers
and texts their own order. -/
def AtMost : Value → Value → Prop
  | bool a, bool b => a ≤ b
  | number x, number y => x ≤ y
  | text s, text t => s ≤ t
  | v, w => v.rank ≤ w.rank

/-- The place of a value among the values of its kind. -/
def placeWithin : Value → (ℤ ×ₗ ℤ ×ₗ ℤ) ×ₗ String
  | bool b => toLex (toLex (b.toNat, toLex (0, 0)), "")
  | number x => toLex ((numberPlace? x.toModel.unpack).getD (toLex (0, toLex (0, 0))), "")
  | text s => toLex (toLex (0, toLex (0, 0)), s)
  | _ => toLex (toLex (0, toLex (0, 0)), "")

def place (v : Value) : ℕ ×ₗ (ℤ ×ₗ ℤ ×ₗ ℤ) ×ₗ String := toLex (v.rank, v.placeWithin)

variable {v w : Value}

theorem compare_place (v w : Value) : Ord.compare v.place w.place =
    (Ord.compare v.rank w.rank).then (Ord.compare v.placeWithin w.placeWithin) := rfl

theorem compare_of_rank_ne (h : v.rank ≠ w.rank) :
    v.compare w = Ord.compare v.rank w.rank := by
  cases v <;> cases w <;> first | rfl | exact absurd rfl h

theorem atMost_of_rank_ne (h : v.rank ≠ w.rank) : v.AtMost w ↔ v.rank ≤ w.rank := by
  cases v <;> cases w <;> first | rfl | exact absurd rfl h

section

variable (hv : v.isNaN = false) (hw : w.isNaN = false)
include hv hw

/-- **Values are compared as their places are.** -/
theorem compare_eq_compare_place : v.compare w = Ord.compare v.place w.place := by
  rw [compare_place]
  by_cases hrank : v.rank = w.rank
  · rw [compare_eq_iff_eq.mpr hrank, Ordering.eq_then]
    cases v <;> cases w <;> try exact absurd hrank (Nat.ne_of_beq_eq_false rfl)
    case number.number x y =>
      obtain ⟨a, ha⟩ := exists_numberPlace hv
      obtain ⟨b, hb⟩ := exists_numberPlace hw
      rw [Value.compare, compareNumber?_getD ha hb, placeWithin, placeWithin, ha, hb]
      simp [Prod.Lex.compare_def, compareLex, compareOn]
    case text.text s t =>
      rw [Value.compare, compareText_eq]
      simp [placeWithin, Prod.Lex.compare_def, compareLex, compareOn]
    case bool.bool a b => cases a <;> cases b <;> rfl
    all_goals exact (compare_eq_iff_eq.mpr rfl).symm
  · rw [compare_of_rank_ne hrank]
    cases hcompare : Ord.compare v.rank w.rank with
    | lt | gt => rfl
    | eq => exact absurd (compare_eq_iff_eq.mp hcompare) hrank

/-- **The comparison of values goes by their order.** -/
theorem compare_ne_gt_iff : v.compare w ≠ .gt ↔ v.AtMost w := by
  by_cases hrank : v.rank = w.rank
  · cases v <;> cases w <;> try exact absurd hrank (Nat.ne_of_beq_eq_false rfl)
    case number.number x y =>
      obtain ⟨a, ha⟩ := exists_numberPlace hv
      obtain ⟨b, hb⟩ := exists_numberPlace hw
      rw [Value.compare, compareNumber?_getD ha hb, AtMost, float_le_iff ha hb]
      exact compare_le_iff_le
    case text.text s t =>
      rw [Value.compare, compareText_eq, AtMost]
      exact compare_le_iff_le
    case bool.bool a b =>
      rw [Value.compare, AtMost]
      cases a <;> cases b <;> decide
    all_goals exact compare_le_iff_le
  · rw [compare_of_rank_ne hrank, atMost_of_rank_ne hrank]
    exact compare_le_iff_le

end

/-! ## Sorted lists -/

/-- The items in the order of what they are sorted by, equal ones as they stood. -/
def sortedOn (key : Value → Value) (items : List Value) : List Value :=
  items.mergeSort fun v w => (key v).notAfter (key w)

/-- The second list is the first one sorted by a key: it has the same items, their keys go on from
each to the next, and those of equal keys stand as they stood. -/
structure SortedAs (key : Value → Value) (l r : List Value) : Prop where
  perm : r.Perm l
  ordered : r.Pairwise fun v w => (key v).compare (key w) ≠ .gt
  stable : ∀ k : Value, k.isNaN = false →
    r.filter (fun v => (key v).compare k == .eq) = l.filter fun v => (key v).compare k == .eq

section

variable {key : Value → Value} {l : List Value} (h : ∀ v ∈ l, (key v).isNaN = false)
include h

/-- Sorting by comparison is sorting by places, where the order is total for all values. -/
theorem sortedOn_eq_mergeSort_place :
    sortedOn key l = l.mergeSort fun v w => decide ((key v).place ≤ (key w).place) := by
  have hsame : ∀ v ∈ l, ∀ w ∈ l,
      (key v).notAfter (key w) = decide ((key v).place ≤ (key w).place) := by
    intro v hv w hw
    rw [notAfter, compare_eq_compare_place (h v hv) (h w hw), Bool.eq_iff_iff, bne_iff_ne,
      decide_eq_true_iff]
    exact compare_le_iff_le
  simpa [sortedOn] using List.map_mergeSort (f := id) hsame

theorem sortedAs_sortedOn : SortedAs key l (sortedOn key l) := by
  have hperm : (sortedOn key l).Perm l := List.mergeSort_perm l _
  have hkeys : ∀ v ∈ sortedOn key l, (key v).isNaN = false :=
    fun v hv => h v (hperm.mem_iff.mp hv)
  refine ⟨hperm, ?_, fun k hk => ?_⟩
  · have hordered := pairwise_mergeSort_le (fun v => (key v).place) l
    rw [← sortedOn_eq_mergeSort_place h] at hordered
    refine hordered.imp_of_mem fun {v w} hv hw hle => ?_
    rw [compare_eq_compare_place (hkeys v hv) (hkeys w hw)]
    exact compare_le_iff_le.mpr hle
  · have hsame : ∀ v, (key v).isNaN = false →
        ((key v).compare k == .eq) = decide ((key v).place = k.place) := by
      intro v hv
      rw [compare_eq_compare_place hv hk, Bool.eq_iff_iff, beq_iff_eq, compare_eq_iff_eq,
        decide_eq_true_iff]
    have hstable := filter_mergeSort_le (fun v => (key v).place) l k.place
    rw [← sortedOn_eq_mergeSort_place h] at hstable
    rwa [List.filter_congr fun v hv => hsame v (hkeys v hv),
      List.filter_congr fun v hv => hsame v (h v hv)]

end

theorem SortedAs.again {key : Value → Value} {l r : List Value} (h : SortedAs key l r) :
    sortedOn key r = r :=
  List.mergeSort_of_pairwise (h.ordered.imp fun hne => bne_iff_ne.mpr hne)

/-- What an item is sorted by, for the operands behind the list: a property that the first of them
names, or the item itself when it is no text. -/
def sortKey (rest : List Value) (v : Value) : Value :=
  match rest.head?.bind asText? with
  | some name => v.property name
  | none => v

end Value

namespace Expr

variable {ambient : Ambient}

theorem sortedItems_list (l rest : List Value) : Collection.sortedItems (.list l :: rest) =
    .ok (Value.sortedOn (Value.sortKey rest) l) := by
  have hsecond : (.list l :: rest : List Value)[1]? = rest.head? := List.head?_eq_getElem?.symm
  change (match ((.list l :: rest : List Value)[1]?.bind Value.asText?) with
    | some name => Except.ok (Value.sortedBy name l)
    | none => Except.ok (Value.sorted l)) = _
  unfold Value.sortedOn Value.sortKey
  rw [hsecond]
  cases rest.head?.bind Value.asText? <;> rfl

theorem returns_sortBy (l rest : List Value) : Returns ambient .sortBy (.list l :: rest)
    (.list (Value.sortedOn (Value.sortKey rest) l)) :=
  (callGives_of_applyWithError rfl rfl (checked_none _ _)).returns
    (congrArg (Except.map Value.list) (sortedItems_list l rest))

theorem returns_sortByDescending (l rest : List Value) :
    Returns ambient .sortByDescending (.list l :: rest)
      (.list (Value.sortedOn (Value.sortKey rest) l).reverse) :=
  (callGives_of_applyWithError rfl rfl (checked_none _ _)).returns
    (congrArg (Except.map fun items => Value.list items.reverse) (sortedItems_list l rest))

/-- **Sorting is stable.**  Values are compared in the order of their kinds and, within booleans,
numbers and texts, in their own order.  A list none of whose keys is NaN is sorted by them: no item
is lost, keys never decrease and items with equal keys stand as they stood.  Sorting once more
changes nothing, and keys never increase in descending order. -/
theorem sortBy_stable (ambient : Ambient) :
    (∀ v w : Value, v.isNaN = false → w.isNaN = false → (v.compare w ≠ .gt ↔ v.AtMost w)) ∧
    ∀ l rest : List Value, (∀ v ∈ l, (Value.sortKey rest v).isNaN = false) → ∃ r d,
      Returns ambient .sortBy (.list l :: rest) (.list r) ∧
      Value.SortedAs (Value.sortKey rest) l r ∧
      Returns ambient .sortBy (.list r :: rest) (.list r) ∧
      Returns ambient .sortByDescending (.list l :: rest) (.list d) ∧ d.Perm l ∧
      d.Pairwise fun v w => (Value.sortKey rest w).compare (Value.sortKey rest v) ≠ .gt := by
  refine ⟨fun _ _ => Value.compare_ne_gt_iff, fun l rest h => ?_⟩
  have hsorted := Value.sortedAs_sortedOn h
  have hagain : Returns ambient .sortBy
      (.list (Value.sortedOn (Value.sortKey rest) l) :: rest) _ := returns_sortBy _ rest
  rw [hsorted.again] at hagain
  exact ⟨_, _, returns_sortBy l rest, hsorted, hagain, returns_sortByDescending l rest,
    (List.reverse_perm _).trans hsorted.perm, List.pairwise_reverse.mpr hsorted.ordered⟩

/-- Items of several kinds, sorted by a property that stands under a name in another case, is null,
or is not there at all. -/
theorem sortBy_stable_of_kinds :
    let ambient : Ambient := .still
    let l : List Value := [.map [("Rank", .list [])], .text "x", .map [("rank", .number 1)],
      .map [("rank", .null)], .map [("RANK", .list [.null])]]
    Value.AtMost (.number 1) (.list []) ∧
    ∃ r d, Returns ambient .sortBy [.list l, .text "rank"] (.list r) ∧
      Value.SortedAs (fun v => v.property "rank") l r ∧
      Returns ambient .sortBy [.list r, .text "rank"] (.list r) ∧
      Returns ambient .sortByDescending [.list l, .text "rank"] (.list d) ∧ d.Perm l ∧
      d.Pairwise fun v w => (w.property "rank").compare (v.property "rank") ≠ .gt := by
  intro ambient l
  obtain ⟨hcompare, hsorted⟩ := sortBy_stable ambient
  have hone : (Value.number 1).isNaN = false := by decide +kernel
  have hkeys : ∀ v ∈ l, (Value.sortKey [.text "rank"] v).isNaN = false := by decide +kernel
  exact ⟨(hcompare _ _ hone rfl).mp (by decide), hsorted l [.text "rank"] hkeys⟩

end Expr

end StateExpr
