import StateExpr.Function.Collection
import StateExpr.Proofs.Equality
import StateExpr.Proofs.Tree
/-!
# Lists as sets

Items are kept one after the other, unless an equal one has been kept before.  Among values without
NaN equality is an equivalence, whatever is shared, so what has been kept holds the same items as
all that was seen, and the kept ones are the first occurrences.

Main statements: `Collection.distinct_eq_firstOccurrences`, `Collection.holds_distinct`,
`Collection.holds_common_iff`, `Collection.sameItems_of_holds` and `Collection.set_algebra`.
-/

namespace StateExpr

/-- A value that equality can tell: no map holds a key twice, and no number is NaN. -/
structure Value.Definite (v : Value) : Prop where
  keyed : v.Keyed
  numbers : ∀ x ∈ v.numbers, x.isNaN = false

namespace Value.Definite

variable {shared : Value → Bool} {v w : Value}

theorem beqIn_self (h : v.Definite) : v.beqIn shared v = true := Value.beqIn_self h.keyed h.numbers

theorem beqIn_symm (hv : v.Definite) (hw : w.Definite) (h : v.beqIn shared w = true) :
    w.beqIn shared v = true :=
  Value.beqIn_symm hv.keyed hw.keyed h

end Value.Definite

namespace Collection

variable {shared : Value → Bool} {l as bs : List Value} {v w : Value}

/-! ## What a list holds -/

theorem holds_iff : holds shared l v = true ↔ ∃ w ∈ l, w.beqIn shared v = true := List.any_eq_true

theorem holds_eq_false_iff : holds shared l v = false ↔ ∀ w ∈ l, w.beqIn shared v = false := by
  simp [holds]

theorem holds_append : holds shared (as ++ bs) v = (holds shared as v || holds shared bs v) :=
  List.any_append

theorem holds_singleton : holds shared [w] v = w.beqIn shared v := Bool.or_false _

theorem holds_of_beqIn (h : v.beqIn shared w = true) (hv : holds shared l v = true) :
    holds shared l w = true := by
  obtain ⟨u, hu, heq⟩ := holds_iff.mp hv
  exact holds_iff.mpr ⟨u, hu, Value.beqIn_trans heq h⟩

/-- Equal values are held by the same lists. -/
theorem holds_congr (hv : v.Definite) (hw : w.Definite) (h : v.beqIn shared w = true) :
    holds shared l v = holds shared l w :=
  Bool.eq_iff_iff.mpr ⟨holds_of_beqIn h, holds_of_beqIn (hv.beqIn_symm hw h)⟩

theorem holds_of_mem (hv : v.Definite) (h : v ∈ l) : holds shared l v = true :=
  holds_iff.mpr ⟨v, h, hv.beqIn_self⟩

/-! ## Keeping each item once -/

/-- No item is equal to one behind it. -/
def NoneTwice (shared : Value → Bool) (l : List Value) : Prop :=
  l.Pairwise fun a b => a.beqIn shared b = false

/-- The items that equal none in front of them. -/
def firstOccurrences (shared : Value → Bool) (l : List Value) : List Value :=
  (l.zipIdx.filter fun (v, i) => !holds shared (l.take i) v).map Prod.fst

/-- One more item is kept when none that was kept is equal to it. -/
theorem distinct_concat (l : List Value) (v : Value) :
    distinct shared (l ++ [v]) =
      if holds shared (distinct shared l) v then distinct shared l else distinct shared l ++ [v] :=
  List.foldl_concat ..

theorem distinct_sublist (l : List Value) : (distinct shared l).Sublist l := by
  -- from the last item, which is looked up in what was kept of those in front
  induction l using List.reverseRecOn with
  | nil => exact .slnil
  | append_singleton l v ih =>
    rw [distinct_concat]
    split
    · exact ih.trans (List.sublist_append_left l [v])
    · exact ih.append (List.Sublist.refl [v])

theorem noneTwice_concat :
    NoneTwice shared (l ++ [v]) ↔ NoneTwice shared l ∧ holds shared l v = false := by
  unfold NoneTwice
  rw [List.pairwise_append, holds_eq_false_iff]
  simp

theorem noneTwice_distinct (l : List Value) : NoneTwice shared (distinct shared l) := by
  induction l using List.reverseRecOn with
  | nil => exact .nil
  | append_singleton l v ih =>
    rw [distinct_concat]
    split
    · exact ih
    · rename_i hnew
      exact noneTwice_concat.mpr ⟨ih, Bool.eq_false_iff.mpr hnew⟩

/-- A list without equal items is kept as it is. -/
theorem NoneTwice.distinct_eq (h : NoneTwice shared l) : distinct shared l = l := by
  induction l using List.reverseRecOn with
  | nil => rfl
  | append_singleton l v ih =>
    obtain ⟨hl, hnew⟩ := noneTwice_concat.mp h
    rw [distinct_concat, ih hl, hnew]
    rfl

/-- **What has been kept holds what was seen.** -/
theorem holds_distinct (hl : ∀ v ∈ l, v.Definite) (hv : v.Definite) :
    holds shared (distinct shared l) v = holds shared l v := by
  induction l using List.reverseRecOn with
  | nil => rfl
  | append_singleton l w ih =>
    have hlast : w.Definite := hl w (by simp)
    have hbefore := ih fun u hu => hl u (List.mem_append_left _ hu)
    rw [distinct_concat, holds_append, holds_singleton, ← hbefore]
    by_cases hkept : holds shared (distinct shared l) w = true
    · rw [if_pos hkept]
      cases heq : w.beqIn shared v with
      | true => rw [← holds_congr hlast hv heq, hkept, Bool.or_true]
      | false => rw [Bool.or_false]
    · rw [if_neg hkept, holds_append, holds_singleton]

theorem firstOccurrences_concat (l : List Value) (v : Value) :
    firstOccurrences shared (l ++ [v]) =
      if holds shared l v then firstOccurrences shared l else firstOccurrences shared l ++ [v] := by
  have hbefore : l.zipIdx.filter (fun (w, i) => !holds shared ((l ++ [v]).take i) w) =
      l.zipIdx.filter fun (w, i) => !holds shared (l.take i) w := by
    refine List.filter_congr ?_
    rintro ⟨w, i⟩ hmem
    have hi : i ≤ l.length := by
      have := (List.mem_zipIdx hmem).2.1
      omega
    dsimp only
    rw [List.take_append_of_le_length hi]
  unfold firstOccurrences
  rw [List.zipIdx_append, List.filter_append, List.map_append, hbefore]
  cases hv : holds shared l v <;> simp [hv]

/-- **The items that are kept are the first occurrences.** -/
theorem distinct_eq_firstOccurrences (hl : ∀ v ∈ l, v.Definite) :
    distinct shared l = firstOccurrences shared l := by
  induction l using List.reverseRecOn with
  | nil => rfl
  | append_singleton l v ih =>
    have hbefore : ∀ w ∈ l, w.Definite := fun w hw => hl w (List.mem_append_left _ hw)
    rw [distinct_concat, firstOccurrences_concat, holds_distinct hbefore (hl v (by simp)),
      ih hbefore]

/-! ## Items of all lists -/

/-- The items of the first list that are in all the others. -/
def common (shared : Value → Bool) (first : List Value) (rest : List (List Value)) :
    List Value :=
  distinct shared (first.filter fun v => rest.all fun l => holds shared l v)

theorem intersection_eq (first : List Value) (rest : List (List Value)) :
    intersection shared ((first :: rest).map .list) = .list (common shared first rest) := by
  simp only [intersection, List.map_cons, Value.items, List.all_map]
  rfl

/-- **What the common items hold is held by every list.** -/
theorem holds_common_iff {first : List Value} {rest : List (List Value)}
    (hfirst : ∀ v ∈ first, v.Definite) (hv : v.Definite) :
    holds shared (common shared first rest) v = true ↔
      ∀ l ∈ first :: rest, holds shared l v = true := by
  have hkept : ∀ w ∈ first.filter fun w => rest.all fun l => holds shared l w, w.Definite :=
    fun w hw => hfirst w (List.mem_filter.mp hw).1
  rw [common, holds_distinct hkept hv, List.forall_mem_cons]
  constructor
  · intro h
    obtain ⟨w, hw, heq⟩ := holds_iff.mp h
    obtain ⟨hmem, hall⟩ := List.mem_filter.mp hw
    refine ⟨holds_iff.mpr ⟨w, hmem, heq⟩, ?_⟩
    intro l hl
    exact holds_of_beqIn heq (List.all_eq_true.mp hall l hl)
  · rintro ⟨h, hrest⟩
    obtain ⟨w, hmem, heq⟩ := holds_iff.mp h
    refine holds_iff.mpr ⟨w, List.mem_filter.mpr ⟨hmem, List.all_eq_true.mpr ?_⟩, heq⟩
    intro l hl
    rw [holds_congr (hfirst w hmem) hv heq]
    exact hrest l hl

/-! ## The same items -/

/-- The same items up to their order, and up to equality of each. -/
def SameItems (shared : Value → Bool) (as bs : List Value) : Prop :=
  ∃ cs, cs.Perm bs ∧ List.Forall₂ (fun a c => a.beqIn shared c = true) as cs

theorem holds_perm (h : as.Perm bs) : holds shared as v = holds shared bs v := h.any_eq

/-- Of a list without equal items, what is behind the first one holds the rest. -/
theorem holds_tail (hl : NoneTwice shared (w :: l)) (hdefinite : ∀ u ∈ w :: l, u.Definite)
    (hv : v.Definite) : holds shared l v = (holds shared (w :: l) v && !w.beqIn shared v) := by
  have hcons : holds shared (w :: l) v = (w.beqIn shared v || holds shared l v) := List.any_cons
  rw [hcons]
  cases heq : w.beqIn shared v with
  | false => simp
  | true =>
    have hw : w.Definite := hdefinite w List.mem_cons_self
    have hnone : holds shared l w = false := by
      refine holds_eq_false_iff.mpr fun u hu => ?_
      rw [Value.beqIn_comm (hdefinite u (List.mem_cons_of_mem w hu)).keyed hw.keyed]
      exact List.rel_of_pairwise_cons hl hu
    rw [← holds_congr hw hv heq, hnone]
    rfl

theorem NoneTwice.of_middle (h : NoneTwice shared (as ++ v :: bs)) (has : ∀ u ∈ as, u.Definite)
    (hv : v.Definite) : NoneTwice shared (v :: (as ++ bs)) := by
  obtain ⟨hfront, hmiddle, hacross⟩ := List.pairwise_append.mp h
  obtain ⟨hnone, hbehind⟩ := List.pairwise_cons.mp hmiddle
  refine List.pairwise_cons.mpr ⟨?_, List.pairwise_append.mpr ⟨hfront, hbehind, ?_⟩⟩
  · intro u hu
    rcases List.mem_append.mp hu with hu | hu
    · rw [Value.beqIn_comm hv.keyed (has u hu).keyed]
      exact hacross u hu v List.mem_cons_self
    · exact hnone u hu
  · exact fun a ha b hb => hacross a ha b (List.mem_cons_of_mem v hb)

/-- **Lists without equal items that hold the same have the same items.** -/
theorem sameItems_of_holds (has : NoneTwice shared as) (hbs : NoneTwice shared bs)
    (hdefinite : ∀ v ∈ as, v.Definite) (hdefinite' : ∀ v ∈ bs, v.Definite)
    (h : ∀ v, v.Definite → holds shared as v = holds shared bs v) : SameItems shared as bs := by
  induction as generalizing bs with
  | nil =>
    obtain rfl : bs = [] := by
      refine List.eq_nil_iff_forall_not_mem.mpr fun b hb => ?_
      have hheld := (h b (hdefinite' b hb)).trans (holds_of_mem (hdefinite' b hb) hb)
      cases hheld
    exact ⟨[], .refl _, .nil⟩
  | cons a as ih =>
    have ha : a.Definite := hdefinite a List.mem_cons_self
    obtain ⟨b, hmem, heq⟩ :=
      holds_iff.mp ((h a ha).symm.trans (holds_of_mem ha List.mem_cons_self))
    have hb : b.Definite := hdefinite' b hmem
    -- what is left of both lists without the equal items again holds the same
    obtain ⟨front, behind, rfl⟩ := List.append_of_mem hmem
    have hmiddle : (front ++ b :: behind).Perm (b :: (front ++ behind)) := List.perm_middle
    have hothers : NoneTwice shared (b :: (front ++ behind)) :=
      hbs.of_middle (fun u hu => hdefinite' u (List.mem_append_left _ hu)) hb
    have hdefinite'' : ∀ u ∈ b :: (front ++ behind), u.Definite :=
      fun u hu => hdefinite' u (hmiddle.mem_iff.mpr hu)
    have hrest : ∀ v, v.Definite → holds shared as v = holds shared (front ++ behind) v := by
      intro v hv
      have hfirst : a.beqIn shared v = b.beqIn shared v :=
        Bool.eq_iff_iff.mpr ⟨Value.beqIn_trans heq, Value.beqIn_trans (hb.beqIn_symm ha heq)⟩
      rw [holds_tail has hdefinite hv, holds_tail hothers hdefinite'' hv, h v hv,
        holds_perm hmiddle, hfirst]
    obtain ⟨cs, hperm, hequal⟩ := ih has.of_cons hothers.of_cons
      (fun u hu => hdefinite u (List.mem_cons_of_mem a hu))
      (fun u hu => hdefinite'' u (List.mem_cons_of_mem b hu)) hrest
    exact ⟨b :: cs, (hperm.cons b).trans hmiddle.symm, .cons (hb.beqIn_symm ha heq) hequal⟩

/-! ## Union, intersection and first occurrences -/

theorem unique_eq (l : List Value) : unique shared [.list l] = .list (distinct shared l) := rfl

theorem union_eq (ls : List (List Value)) :
    union shared (ls.map .list) = unique shared [.list ls.flatten] := by
  have hitems : (ls.map Value.list).flatMap Value.items = ls.flatten := by
    rw [List.flatMap_map]
    exact List.flatMap_id ..
  rw [union, hitems, unique_eq]

theorem common_sublist (first : List Value) (rest : List (List Value)) :
    (common shared first rest).Sublist first :=
  (distinct_sublist _).trans List.filter_sublist

/-- **The order of the lists changes their common items only up to order and equality.** -/
theorem sameItems_common {first first' : List Value} {rest rest' : List (List Value)}
    (hperm : (first :: rest).Perm (first' :: rest')) (hfirst : ∀ v ∈ first, v.Definite)
    (hfirst' : ∀ v ∈ first', v.Definite) :
    SameItems shared (common shared first rest) (common shared first' rest') := by
  refine sameItems_of_holds (noneTwice_distinct _) (noneTwice_distinct _) ?_ ?_ ?_
  · exact fun v hv => hfirst v ((common_sublist first rest).subset hv)
  · exact fun v hv => hfirst' v ((common_sublist first' rest').subset hv)
  · intro v hv
    rw [Bool.eq_iff_iff, holds_common_iff hfirst hv, holds_common_iff hfirst' hv]
    exact forall_congr' fun l => imp_congr_left hperm.mem_iff

/-- **Lists as sets.**  The items of a list that are kept once are its first occurrences: in order,
none twice, each item equal to one of them, and the same when it is done again.  A union keeps once
what is in all lists together.  An intersection keeps the order of the first list and no item twice,
and holds what all lists hold; the order of the lists changes it only up to order and equality. -/
theorem set_algebra (shared : Value → Bool) :
    (∀ l : List Value, (∀ v ∈ l, v.Definite) → ∃ r, unique shared [.list l] = .list r ∧
      r = firstOccurrences shared l ∧ r.Sublist l ∧ NoneTwice shared r ∧
      (∀ v ∈ l, holds shared r v = true) ∧ unique shared [.list r] = .list r) ∧
    (∀ ls : List (List Value), union shared (ls.map .list) = unique shared [.list ls.flatten]) ∧
    (∀ (first : List Value) (rest : List (List Value)),
      (∀ l ∈ first :: rest, ∀ v ∈ l, v.Definite) →
      ∃ r, intersection shared ((first :: rest).map .list) = .list r ∧ r.Sublist first ∧
        NoneTwice shared r ∧ ∀ v, v.Definite →
          (holds shared r v = true ↔ ∀ l ∈ first :: rest, holds shared l v = true)) ∧
    ∀ ls ls' : List (List Value), (∀ l ∈ ls, ∀ v ∈ l, v.Definite) → ls.Perm ls' →
      ∃ r r', intersection shared (ls.map .list) = .list r ∧
        intersection shared (ls'.map .list) = .list r' ∧ SameItems shared r r' := by
  refine ⟨?_, union_eq, ?_, ?_⟩
  · intro l hl
    refine ⟨distinct shared l, unique_eq l, distinct_eq_firstOccurrences hl, distinct_sublist l,
      noneTwice_distinct l, ?_, congrArg Value.list (noneTwice_distinct l).distinct_eq⟩
    intro v hv
    rw [holds_distinct hl (hl v hv)]
    exact holds_of_mem (hl v hv) hv
  · intro first rest hdefinite
    exact ⟨common shared first rest, intersection_eq first rest, common_sublist first rest,
      noneTwice_distinct _, fun v => holds_common_iff (hdefinite first List.mem_cons_self)⟩
  · intro ls ls' hdefinite hperm
    cases ls with
    | nil =>
      obtain rfl := List.nil_perm.mp hperm
      exact ⟨[], [], rfl, rfl, [], .refl _, .nil⟩
    | cons first rest =>
      cases ls' with
      | nil => cases List.perm_nil.mp hperm
      | cons first' rest' =>
        refine ⟨_, _, intersection_eq first rest, intersection_eq first' rest',
          sameItems_common hperm (hdefinite first List.mem_cons_self) ?_⟩
        exact hdefinite first' (hperm.mem_iff.mpr List.mem_cons_self)

/-- The zeros of two signs are kept once, the one that comes first. -/
theorem set_algebra_two_zeros :
    let shared : Value → Bool := fun _ => false
    let l : List Value := [.number 0, .text "x", .number (-0.0)]
    let l' : List Value := [.text "y", .number (-0.0), .text "x"]
    (∀ v ∈ l ++ l', v.Definite) ∧ unique shared [.list l] = .list [.number 0, .text "x"] ∧
      union shared [.list l, .list l'] = unique shared [.list (l ++ l')] ∧
      ∃ r r', intersection shared [.list l, .list l'] = .list r ∧
        intersection shared [.list l', .list l] = .list r' ∧ NoneTwice shared r ∧
        SameItems shared r r' := by
  intro shared l l'
  have hnumber : ∀ x : Float, x.isNaN = false → (Value.number x).Definite :=
    fun x hx => ⟨.number, List.forall_mem_singleton.mpr hx⟩
  have htext : ∀ s, (Value.text s).Definite := fun s => ⟨.text, nofun⟩
  have hl : ∀ v ∈ l, v.Definite :=
    forall_mem_three.mpr ⟨hnumber 0 rfl, htext "x", hnumber (-0.0) rfl⟩
  have hl' : ∀ v ∈ l', v.Definite :=
    forall_mem_three.mpr ⟨htext "y", hnumber (-0.0) rfl, htext "x"⟩
  have hboth : ∀ k ∈ [l, l'], ∀ v ∈ k, v.Definite := forall_mem_two.mpr ⟨hl, hl'⟩
  obtain ⟨honce, hunion, hcommon, hperm⟩ := set_algebra shared
  obtain ⟨kept, hkept, hfirst, -⟩ := honce l hl
  obtain ⟨r, hr, -, hnone, -⟩ := hcommon l [l'] hboth
  obtain ⟨r₁, r₂, hr₁, hr₂, hsame⟩ := hperm [l, l'] [l', l] hboth (.swap l' l [])
  obtain rfl : r = r₁ := Value.list.inj (hr.symm.trans hr₁)
  refine ⟨List.forall_mem_append.mpr ⟨hl, hl'⟩, ?_, hunion [l, l'], r, r₂, hr₁, hr₂, hnone, hsame⟩
  rw [hkept, hfirst]
  rfl

end Collection

end StateExpr
