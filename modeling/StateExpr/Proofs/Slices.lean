import StateExpr.Proofs.Counts
/-!
# Parts of lists and texts

Positions outside of a list or a text are errors, counts are cut to what is there.  Either way the
parts in front of and behind a place make up the whole, item by item and character by character.

Main statements: `Expr.slices_exact` and `Expr.take_skip_partition`.
-/

namespace StateExpr

/-- The items at the positions from `start` on and before `stop`. -/
def itemsBetween {α : Type} (l : List α) (start stop : ℕ) : List α :=
  (List.range' start (stop - start)).filterMap fun i => l[i]?

theorem take_drop_eq_itemsBetween {α : Type} (l : List α) (start stop : ℕ) :
    (l.drop start).take (stop - start) = itemsBetween l start stop := by
  unfold itemsBetween
  induction stop - start with
  | zero => rfl
  | succ n ih =>
    rw [List.take_add_one, ih, List.getElem?_drop, List.range'_concat, List.filterMap_append,
      one_mul]
    cases hitem : l[start + n]? <;> simp [hitem]

theorem take_drop {α : Type} (l : List α) (start count : ℕ) :
    (l.drop start).take count = itemsBetween l start (start + count) := by
  rw [← take_drop_eq_itemsBetween, Nat.add_sub_cancel_left]

@[simp] theorem itemsBetween_zero {α : Type} (l : List α) (stop : ℕ) :
    itemsBetween l 0 stop = l.take stop := by
  rw [← take_drop_eq_itemsBetween, List.drop_zero, Nat.sub_zero]

@[simp] theorem itemsBetween_length {α : Type} (l : List α) (start : ℕ) :
    itemsBetween l start l.length = l.drop start := by
  rw [← take_drop_eq_itemsBetween, ← List.length_drop, List.take_length]

/-! ## Positions -/

/-- A position is an exact integer, but for the greatest one. -/
theorem Value.integer?_eq_some_iff_whole? {v : Value} {n : ℕ} (hn : n < int64Max) :
    v.integer? = some (n : ℤ) ↔ v.whole? = some (n : ℤ) := by
  have hmin : int64Min ≤ n := by
    unfold int64Min
    omega
  refine ⟨fun h => ?_, fun h => integer?_of_fits h ⟨hmin, hn.le⟩⟩
  cases hwhole : v.whole? with
  | none =>
    cases v with
    | number x =>
      have hnone : wholeValue? x = none := hwhole
      have hsome : int64Value? x = some (n : ℤ) := h
      rw [int64Value?, hnone] at hsome
      cases hsome
    | _ => cases h
  | some k =>
    rw [integer?_of_whole? hwhole] at h
    split_ifs at h with hfits hnext
    · exact h
    · rw [Option.some.injEq] at h
      omega

/-! ## Parts -/

/-- What a part of a list is, for the values of all operands.  Operands behind the third are not
looked at. -/
inductive SubArrayOf : List Value → Value → Prop
  | between {l : List Value} {v w : Value} {start stop : ℕ} (more : List Value)
      (hstart : v.integer? = some (start : ℤ)) (hstop : w.integer? = some (stop : ℤ))
      (hstart_le : start ≤ l.length) (hstop_le : stop ≤ l.length) :
      SubArrayOf (.list l :: v :: w :: more) (.list (itemsBetween l start stop))
  | toEnd {l : List Value} {v : Value} {start : ℕ} (hstart : v.integer? = some (start : ℤ))
      (hstart_le : start ≤ l.length) :
      SubArrayOf [.list l, v] (.list (itemsBetween l start l.length))

/-- What a part of a text is, for the values of all operands: the empty text is the only part of
what is missing or null. -/
inductive SubstringOf : List Value → Value → Prop
  | counted {s : String} {v w : Value} {start count : ℕ} (more : List Value)
      (hstart : v.integer? = some (start : ℤ)) (hcount : w.integer? = some (count : ℤ))
      (hstart_le : start ≤ s.length) (hcount_le : count ≤ s.length - start) :
      SubstringOf (.text s :: v :: w :: more)
        (.text (String.ofList (itemsBetween s.toList start (start + count))))
  | toEnd {s : String} {v : Value} {start : ℕ} (hstart : v.integer? = some (start : ℤ))
      (hstart_le : start ≤ s.length) :
      SubstringOf [.text s, v] (.text (String.ofList (itemsBetween s.toList start s.length)))
  | ofNull (more : List Value) : SubstringOf (.null :: more) (.text "")
  | ofNothing : SubstringOf [] (.text "")

namespace Expr

/-- **A position is an integer within its limit.** -/
theorem boundAt_givesExactly {σ : Type} (e : Expr) (args : List Value) (position limit : ℕ)
    (container : String) :
    (boundAt e args position limit container : Action σ ℕ).GivesExactly fun i : ℕ =>
      (args[position]?.bind Value.integer?) = some (i : ℤ) ∧ i ≤ limit := by
  unfold boundAt integerAt?
  split
  case h_1 hnone =>
    refine .throw ?_
    rintro i ⟨hsome, -⟩
    cases hnone.symm.trans hsome
  case h_2 n hn =>
    rw [hn]
    split_ifs with hrange
    · refine (Action.GivesExactly.pure _).congr fun i => ?_
      rw [Option.some.injEq]
      omega
    · refine .throw ?_
      rintro i ⟨hi, hlimit⟩
      rw [Option.some.injEq] at hi
      omega

variable {ambient : Ambient}

theorem callGives_subArray (vs : List Value) : CallGives ambient .subArray vs (SubArrayOf vs) := by
  refine callGives_of_special rfl rfl (fun e ms => rfl) fun e => ?_
  match vs with
  | [] => exact .throw nofun
  | [.list l] =>
    exact ((boundAt_givesExactly e [.list l] 1 l.length _).bind (Q := fun _ _ => False)
      fun _ h => nomatch h.1).congr fun r => iff_of_false nofun nofun
  | [.list l, v] =>
    refine ((boundAt_givesExactly e [.list l, v] 1 l.length _).bind
      fun start _ => .pure _).congr fun r => ?_
    simp only [take_drop_eq_itemsBetween]
    constructor
    · rintro ⟨start, ⟨hstart, hle⟩, rfl⟩
      exact .toEnd hstart hle
    · intro h
      cases h with
      | toEnd hstart hle => exact ⟨_, ⟨hstart, hle⟩, rfl⟩
  | .list l :: v :: w :: more =>
    refine ((boundAt_givesExactly e (.list l :: v :: w :: more) 1 l.length _).bind fun start _ =>
      (boundAt_givesExactly e (.list l :: v :: w :: more) 2 l.length _).bind fun stop _ =>
        .pure _).congr fun r => ?_
    simp only [take_drop_eq_itemsBetween]
    constructor
    · rintro ⟨start, ⟨hstart, hle⟩, stop, ⟨hstop, hle'⟩, rfl⟩
      exact .between more hstart hstop hle hle'
    · intro h
      cases h with
      | between _ hstart hstop hle hle' => exact ⟨_, ⟨hstart, hle⟩, _, ⟨hstop, hle'⟩, rfl⟩
  | .null :: _ | .bool _ :: _ | .number _ :: _ | .text _ :: _ | .map _ :: _ => exact .throw nofun

theorem callGives_substring (vs : List Value) :
    CallGives ambient .substring vs (SubstringOf vs) := by
  refine callGives_of_special rfl rfl (fun e ms => rfl) fun e => ?_
  match vs with
  | [] =>
    refine (Action.GivesExactly.pure _).congr fun r => ?_
    constructor
    · rintro rfl
      exact .ofNothing
    · rintro ⟨⟩
      rfl
  | .null :: more =>
    refine (Action.GivesExactly.pure _).congr fun r => ?_
    constructor
    · rintro rfl
      exact .ofNull more
    · rintro ⟨⟩
      rfl
  | [.text s] =>
    exact ((boundAt_givesExactly e [.text s] 1 s.length _).bind (Q := fun _ _ => False)
      fun _ h => nomatch h.1).congr fun r => iff_of_false nofun nofun
  | [.text s, v] =>
    refine ((boundAt_givesExactly e [.text s, v] 1 s.length _).bind
      fun start _ => .pure _).congr fun r => ?_
    simp only [take_drop_eq_itemsBetween]
    constructor
    · rintro ⟨start, ⟨hstart, hle⟩, rfl⟩
      exact .toEnd hstart hle
    · intro h
      cases h with
      | toEnd hstart hle => exact ⟨_, ⟨hstart, hle⟩, rfl⟩
  | .text s :: v :: w :: more =>
    refine ((boundAt_givesExactly e (.text s :: v :: w :: more) 1 s.length _).bind fun start _ =>
      (boundAt_givesExactly e (.text s :: v :: w :: more) 2 (s.length - start) _).bind
        fun stop _ => .pure _).congr fun r => ?_
    constructor
    · rintro ⟨start, ⟨hstart, hle⟩, count, ⟨hcount, hle'⟩, rfl⟩
      rw [take_drop]
      exact .counted more hstart hcount hle hle'
    · intro h
      cases h with
      | counted _ hstart hcount hle hle' =>
        refine ⟨_, ⟨hstart, hle⟩, _, ⟨hcount, hle'⟩, ?_⟩
        rw [take_drop]
  | .bool _ :: _ | .number _ :: _ | .list _ :: _ | .map _ :: _ => exact .throw nofun

/-- **Parts are exact.**  A part of a list has the items from a position on and before another, a
part of a text the characters from a position on, so many of them; without the last operand both go
on to the end.  The positions lie within the list or the text, so that the part in front of one and
the part from it on make up the whole, and but for the empty part of null every other call fails. -/
theorem slices_exact (ambient : Ambient) :
    (∀ (v : Value) (n : ℕ), n < int64Max →
      (v.integer? = some (n : ℤ) ↔ v.whole? = some (n : ℤ))) ∧
    (∀ vs, CallGives ambient .subArray vs (SubArrayOf vs)) ∧
    (∀ vs, CallGives ambient .substring vs (SubstringOf vs)) ∧
    ∀ (z v : Value) (k : ℕ), z.integer? = some 0 → v.integer? = some (k : ℤ) →
      (∀ l, k ≤ l.length → ∃ front back, Returns ambient .subArray [.list l, z, v] (.list front) ∧
        Returns ambient .subArray [.list l, v] (.list back) ∧ front ++ back = l) ∧
      ∀ s : String, k ≤ s.length → ∃ front back : String,
        Returns ambient .substring [.text s, z, v] (.text front) ∧
        Returns ambient .substring [.text s, v] (.text back) ∧ front ++ back = s := by
  refine ⟨fun _ _ => Value.integer?_eq_some_iff_whole?, callGives_subArray, callGives_substring, ?_⟩
  intro z v k hz hv
  constructor
  · intro l hk
    refine ⟨_, _, (callGives_subArray _).returns (.between [] hz hv (Nat.zero_le _) hk),
      (callGives_subArray _).returns (.toEnd hv hk), ?_⟩
    rw [itemsBetween_zero, itemsBetween_length, List.take_append_drop]
  · intro s hk
    refine ⟨_, _, (callGives_substring _).returns (.counted [] hz hv (Nat.zero_le _) hk),
      (callGives_substring _).returns (.toEnd hv hk), ?_⟩
    rw [Nat.zero_add, itemsBetween_zero, ← String.length_toList, itemsBetween_length,
      ← String.ofList_append, List.take_append_drop, String.ofList_toList]

/-- A list and a text whose characters have several bytes, in two parts each. -/
theorem slices_exact_at :
    let ambient : Ambient := .still
    let l : List Value := [.number 1, .null, .text "b"]
    Value.whole? (.number 2) = some 2 ∧
      Returns ambient .subArray [.list l, .number 1, .number 2] (.list [.null]) ∧
      (∃ front back, Returns ambient .subArray [.list l, .number 0, .number 2] (.list front) ∧
        Returns ambient .subArray [.list l, .number 2] (.list back) ∧ front ++ back = l) ∧
      Returns ambient .substring [.text "äöü", .number 1, .number 2] (.text "öü") ∧
      ∃ front back : String,
        Returns ambient .substring [.text "äöü", .number 0, .number 2] (.text front) ∧
        Returns ambient .substring [.text "äöü", .number 2] (.text back) ∧
        front ++ back = "äöü" := by
  intro ambient l
  have hzero : Value.integer? (.number 0) = some ((0 : ℕ) : ℤ) := by decide +kernel
  have hone : Value.integer? (.number 1) = some ((1 : ℕ) : ℤ) := by decide +kernel
  have htwo : Value.integer? (.number 2) = some ((2 : ℕ) : ℤ) := by decide +kernel
  obtain ⟨hexact, hlists, htexts, hparts⟩ := slices_exact ambient
  obtain ⟨hlist, htext⟩ := hparts _ _ 2 hzero htwo
  refine ⟨(hexact _ 2 (by decide)).mp htwo, ?_, hlist l (by decide), ?_,
    htext "äöü" (by decide)⟩
  · exact (hlists _).returns (.between [] hone htwo (by decide) (by decide))
  · exact (htexts _).returns (.counted [] hone htwo (by decide) (by decide))

/-- A call with no text that is no error. -/
theorem substring_of_null :
    let ambient : Ambient := .still
    (∀ s, Value.null ≠ .text s) ∧ (∀ l, Value.null ≠ .list l) ∧
      (operation ambient .substring [constant .null, constant (.number 0)]).evaluate.outcome .null =
        (.ok (.text ""), .null) :=
  ⟨nofun, nofun, (callGives_substring _).returns (.ofNull _) _ .null .null
    (.constant [.null, .number 0] .null)⟩

end Expr

/-! ## Counts of items and characters -/

namespace Value

/-- The value stands for `n` items or characters where there are `length` of them: it is that
integer, or the number made of it, which is another integer only where it is rounded, far beyond
the end. -/
structure CountsAs (v : Value) (n : ℤ) (length : ℕ) : Prop where
  fits : FitsInt64 n
  same : v.whole? = some n ∨ v = .ofInt n ∧ length < 2 ^ 53

theorem whole?_ofInt_of_lt {n : ℤ} (hn : n.natAbs < 2 ^ 64) :
    (ofInt n).whole? = some (n.sign * Dyadic.nearestWhole n.natAbs) := by
  refine wholeValue?_numberOfInt ?_
  by_cases h0 : n.natAbs = 0
  · rw [h0]
    decide
  · exact ((Nat.log2_lt h0).mpr hn).trans (by decide)

theorem whole?_ofInt {n : ℤ} (hn : FitsInt64 n) :
    (ofInt n).whole? = some (n.sign * Dyadic.nearestWhole n.natAbs) := by
  obtain ⟨hmin, hmax⟩ := hn
  unfold int64Min at hmin
  unfold int64Max at hmax
  exact whole?_ofInt_of_lt (by omega)

namespace CountsAs

variable {v : Value} {n : ℤ} {length : ℕ} (h : v.CountsAs n length)
include h

theorem mono {shorter : ℕ} (hle : shorter ≤ length) : v.CountsAs n shorter :=
  ⟨h.fits, h.same.imp_right fun ⟨hv, hlength⟩ => ⟨hv, hle.trans_lt hlength⟩⟩

theorem exists_whole : ∃ k, v.whole? = some k := by
  obtain hv | ⟨rfl, -⟩ := h.same
  · exact ⟨n, hv⟩
  · exact ⟨_, whole?_ofInt h.fits⟩

/-- A count within what there is is exact. -/
theorem whole? (h0 : 0 ≤ n) (hn : n ≤ length) : v.whole? = some n := by
  obtain hv | ⟨rfl, hlength⟩ := h.same
  · exact hv
  · rw [whole?_ofInt h.fits, Dyadic.nearestWhole_of_lt (by omega), Int.sign_mul_natAbs]

theorem integer? (h0 : 0 ≤ n) (hn : n ≤ length) : v.integer? = some n :=
  integer?_of_fits (h.whole? h0 hn) h.fits

/-- **Counts are cut to what there is.** -/
theorem clampedCount : clampedCount v length = min n.toNat length := by
  obtain hv | ⟨rfl, hlength⟩ := h.same
  · rw [clampedCount_of_whole? hv, takenFor_eq_self_iff.mpr h.fits]
  · obtain ⟨hmin, hmax⟩ := h.fits
    rw [clampedCount_of_whole? (whole?_ofInt h.fits)]
    unfold int64Max at hmax
    rcases lt_or_ge n.natAbs (2 ^ 53) with hexact | hfar
    · rw [Dyadic.nearestWhole_of_lt hexact, Int.sign_mul_natAbs, takenFor_eq_self_iff.mpr h.fits]
    · -- so far out it is nothing or everything, rounded or not
      rcases lt_or_gt_of_ne (show n ≠ 0 by omega) with hneg | hpos
      · have htaken : takenFor (n.sign * Dyadic.nearestWhole n.natAbs) ≤ 0 := by
          rw [Int.sign_eq_neg_one_of_neg hneg, neg_one_mul]
          exact takenFor_nonpos (by omega)
        omega
      · have htaken : (2 ^ 53 : ℤ) ≤ takenFor (n.sign * Dyadic.nearestWhole n.natAbs) := by
          obtain ⟨hlower, hupper⟩ := Dyadic.nearestWhole_mem hfar (by omega)
          rw [Int.sign_eq_one_of_pos hpos, one_mul]
          unfold takenFor FitsInt64 int64Min int64Max
          split_ifs <;> omega
        omega

end CountsAs

end Value

namespace Expr

variable {ambient : Ambient} {v w : Value} {n m : ℤ}

theorem returns_take_count {l : List Value} (h : v.CountsAs n l.length) :
    Returns ambient .take [.list l, v] (.list (l.take n.toNat)) := by
  obtain ⟨k, hk⟩ := h.exists_whole
  rw [List.take_eq_take_min, ← h.clampedCount]
  exact returns_take_items hk l

theorem returns_skip_count {l : List Value} (h : v.CountsAs n l.length) :
    Returns ambient .skip [.list l, v] (.list (l.drop n.toNat)) := by
  obtain ⟨k, hk⟩ := h.exists_whole
  rw [List.drop_eq_drop_min, ← h.clampedCount]
  exact returns_skip hk l

theorem returns_take_characters {s : String} (h : v.CountsAs n s.length) :
    Returns ambient .take [.text s, v] (.text (String.ofList (s.toList.take n.toNat))) := by
  obtain ⟨k, hk⟩ := h.exists_whole
  rw [List.take_eq_take_min, String.length_toList, ← h.clampedCount]
  exact returns_take_chars hk s

/-- **Taking and skipping part a list.**  For every integer of 64 bits, so many items are taken as
there are up to it and skipping goes on behind them.  What is taken of a text is its part from the
start on, counted in characters.  Of two counts, one inside the other, the lesser one counts. -/
theorem take_skip_partition (ambient : Ambient) :
    (∀ (l : List Value) v (n : ℤ), v.CountsAs n l.length → ∃ front back,
      Returns ambient .take [.list l, v] (.list front) ∧
      Returns ambient .skip [.list l, v] (.list back) ∧
      front ++ back = l ∧ (front.length : ℤ) = min (max n 0) l.length) ∧
    (∀ (s : String) v z w (n : ℤ), v.CountsAs n s.length → z.CountsAs 0 s.length →
      w.CountsAs (min (max n 0) s.length) s.length → ∃ t : String,
        Returns ambient .take [.text s, v] (.text t) ∧
        Returns ambient .substring [.text s, z, w] (.text t) ∧
        (t.length : ℤ) = min (max n 0) s.length) ∧
    ∀ (l : List Value) u v w (n m : ℤ), 0 ≤ n → 0 ≤ m → u.CountsAs (min n m) l.length →
      v.CountsAs n l.length → w.CountsAs m l.length → ∃ r,
        Returns ambient .take [.list l, u] (.list r) ∧
        ∀ cs c s t s', Operands cs s [.list l, v] t → c.evaluate.outcome t = (.ok w, s') →
          (operation ambient .take [operation ambient .take cs, c]).evaluate.outcome s =
            (.ok (.list r), s') := by
  refine ⟨fun l v n hv => ?_, fun s v z w n hv hz hw => ?_, fun l u v w n m hn hm hu hv hw => ?_⟩
  · refine ⟨_, _, returns_take_count hv, returns_skip_count hv, List.take_append_drop _ l, ?_⟩
    rw [List.length_take]
    omega
  · refine ⟨_, returns_take_characters hv, ?_, ?_⟩
    · have hcount : min (max n 0) (s.length : ℤ) = (min n.toNat s.length : ℕ) := by omega
      have hw' := hw.integer? (by omega) (by omega)
      rw [hcount] at hw'
      have hpart : SubstringOf [.text s, z, w] _ :=
        .counted [] (hz.integer? le_rfl (by omega)) hw' (Nat.zero_le _) (Nat.min_le_right _ _)
      rw [Nat.zero_add, itemsBetween_zero, ← String.length_toList,
        ← List.take_eq_take_min] at hpart
      exact (callGives_substring _).returns hpart
    · rw [String.length_ofList, List.length_take, String.length_toList]
      omega
  · refine ⟨_, returns_take_count hu, fun cs c s t s' hcs hc => ?_⟩
    have hinner : (operation ambient .take cs).evaluate.outcome s =
        (.ok (.list (l.take n.toNat)), t) := returns_take_count hv cs s t hcs
    have hw' : w.CountsAs m (l.take n.toNat).length := by
      refine hw.mono ?_
      rw [List.length_take]
      exact Nat.min_le_right _ _
    have houter : Returns ambient .take [.list (l.take n.toNat), w] _ := returns_take_count hw'
    rw [List.take_take, show min m.toNat n.toNat = (min n m).toNat by omega] at houter
    exact houter _ s s' (.cons hinner (.cons hc .nil))

/-- Counts beyond the length, one of them no number is, and before the start, and a text whose
characters have several bytes. -/
theorem take_skip_partition_at :
    let ambient : Ambient := .still
    let l : List Value := [.number 1, .null, .text "b"]
    (∃ front back, Returns ambient .take [.list l, .ofInt int64Max] (.list front) ∧
      Returns ambient .skip [.list l, .ofInt int64Max] (.list back) ∧
      front ++ back = l ∧ (front.length : ℤ) = 3) ∧
    (∃ t : String, Returns ambient .take [.text "äöü", .ofInt (-1)] (.text t) ∧
      Returns ambient .substring [.text "äöü", .number 0, .ofInt 0] (.text t) ∧
      (t.length : ℤ) = 0) ∧
    ∃ r, Returns ambient .take [.list l, .number 1] (.list r) ∧
      (operation ambient .take
        [operation ambient .take [constant (.list l), constant (.ofInt int64Max)],
          constant (.number 1)]).evaluate.outcome .null = (.ok (.list r), .null) := by
  intro ambient l
  obtain ⟨hlists, htexts, hnested⟩ := take_skip_partition ambient
  have hgreatest : (Value.ofInt int64Max).CountsAs int64Max l.length :=
    ⟨by decide, .inr ⟨rfl, by decide⟩⟩
  have hone : (Value.number 1).CountsAs 1 l.length := ⟨by decide, .inl (by decide +kernel)⟩
  refine ⟨hlists l _ _ hgreatest, ?_, ?_⟩
  · have hnegative : (Value.ofInt (-1)).CountsAs (-1) "äöü".length :=
      ⟨by decide, .inr ⟨rfl, by decide⟩⟩
    have hzero : (Value.number 0).CountsAs 0 "äöü".length := ⟨by decide, .inl (by decide +kernel)⟩
    have hzero' : (Value.ofInt 0).CountsAs 0 "äöü".length := ⟨by decide, .inr ⟨rfl, by decide⟩⟩
    exact htexts "äöü" _ _ _ _ hnegative hzero hzero'
  · obtain ⟨r, hr, hcall⟩ := hnested l _ _ _ _ _ (by decide) (by decide) hone hgreatest hone
    exact ⟨r, hr, hcall _ _ _ _ _ (.constant [.list l, .ofInt int64Max] .null)
      (by rw [evaluate_constant]; rfl)⟩

end Expr

end StateExpr
