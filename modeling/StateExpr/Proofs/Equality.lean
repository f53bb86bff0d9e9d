import StateExpr.Function.Comparison
import StateExpr.Proofs.Number.Form
import StateExpr.Proofs.Value
/-!
# Equality of values

Equal numbers are those of one unpacked form, but that NaN has none and the zeros share one.  Maps
are compared by the number of their keys and by a look-up of the keys of one of them in the other;
since no key is there twice, all keys of both have been seen then.  A list or map that is shared is
equal to itself in any case, which makes a difference where there is NaN in it and nowhere else.

Main statements: `float_beq_iff`, `Value.beqIn_comm`, `Value.beqIn_trans`, `Value.beqIn_self`,
`Value.beqIn_congr`, `Value.map_beq_iff` and `Value.equality_is_equivalence`.
-/

namespace StateExpr

/-! ## Numbers -/

section Numbers

open Float.Model Float.Model.UnpackedFloat

/-- What equality sees of a number: nothing of NaN, and of a zero not its sign. -/
def equalityForm? : UnpackedFloat → Option UnpackedFloat
  | .notANumber => none
  | .zero _ => some (.zero .positive)
  | u => some u

theorem compare_eq_iff {u v : UnpackedFloat} : u.compare v = some .eq ↔
    ∃ w, equalityForm? u = some w ∧ equalityForm? v = some w := by
  rcases u with (_ | _) | _ | (_ | _) | ⟨_ | _, m, e, hm⟩ <;>
    rcases v with (_ | _) | _ | (_ | _) | ⟨_ | _, n, f, hn⟩
  all_goals
    simp [UnpackedFloat.compare, equalityForm?, Ordering.then_eq_eq, Ordering.swap_eq_eq]
  any_goals rfl
  all_goals omega

variable {x y z : Float}

/-- **Numbers are equal when equality sees the same of both.** -/
theorem float_beq_iff : (x == y) = true ↔
    ∃ w, equalityForm? x.toModel.unpack = some w ∧ equalityForm? y.toModel.unpack = some w := by
  change (x.toModel.unpack.compare y.toModel.unpack == some .eq) = true ↔ _
  rw [beq_iff_eq]
  exact compare_eq_iff

theorem float_beq_symm (h : (x == y) = true) : (y == x) = true := by
  obtain ⟨w, hx, hy⟩ := float_beq_iff.mp h
  exact float_beq_iff.mpr ⟨w, hy, hx⟩

theorem float_beq_trans (h : (x == y) = true) (h' : (y == z) = true) : (x == z) = true := by
  obtain ⟨w, hx, hy⟩ := float_beq_iff.mp h
  obtain ⟨w', hy', hz⟩ := float_beq_iff.mp h'
  obtain rfl := Option.some.inj (hy.symm.trans hy')
  exact float_beq_iff.mpr ⟨w, hx, hz⟩

theorem float_beq_self (h : x.isNaN = false) : (x == x) = true := by
  have hform : ∃ w, equalityForm? x.toModel.unpack = some w := by
    change x.toModel.unpack.isNaN = false at h
    cases hu : x.toModel.unpack with
    | notANumber =>
      rw [hu] at h
      cases h
    | infinity s => exact ⟨_, rfl⟩
    | zero s => exact ⟨_, rfl⟩
    | finite s m e hm => exact ⟨_, rfl⟩
  obtain ⟨w, hw⟩ := hform
  exact float_beq_iff.mpr ⟨w, hw, hw⟩

end Numbers

namespace Value

variable {shared shared' : Value → Bool}

/-! ## The very same value -/

theorem identicalItems_iff {as bs : List Value}
    (hitems : ∀ a ∈ as, ∀ b, identical a b = true ↔ a = b) :
    identicalItems as bs = true ↔ as = bs := by
  induction as generalizing bs with
  | nil => cases bs <;> simp [identicalItems]
  | cons a as ih =>
    rw [List.forall_mem_cons] at hitems
    cases bs with
    | nil => simp [identicalItems]
    | cons b bs => simp [identicalItems, hitems.1 b, ih hitems.2]

theorem identicalEntries_iff {as bs : Entries}
    (hvalues : ∀ e ∈ as, ∀ b, identical e.2 b = true ↔ e.2 = b) :
    identicalEntries as bs = true ↔ as = bs := by
  induction as generalizing bs with
  | nil => cases bs <;> simp [identicalEntries]
  | cons e as ih =>
    obtain ⟨k, a⟩ := e
    rw [List.forall_mem_cons] at hvalues
    cases bs with
    | nil => simp [identicalEntries]
    | cons f bs => simp [identicalEntries, hvalues.1 f.2, ih hvalues.2, Prod.ext_iff, and_assoc]

theorem identical_iff {v w : Value} : identical v w = true ↔ v = w := by
  induction v using Value.induction generalizing w with
  | null => cases w <;> simp [identical]
  | bool b => cases w <;> simp [identical]
  | number x => cases w <;> simp [identical, Float.toBits_inj]
  | text s => cases w <;> simp [identical]
  | list items ih => cases w <;> simp [identical, identicalItems_iff fun a ha b => ih a ha]
  | map entries ih => cases w <;> simp [identical, identicalEntries_iff fun e he b => ih e he]

/-- Two lists are equal when they are one object, or their items are equal. -/
theorem list_beqIn_iff {as bs : List Value} : beqIn shared (list as) (list bs) = true ↔
    shared (list as) = true ∧ as = bs ∨ beqItemsIn shared as bs = true := by
  rw [beqIn, Bool.or_eq_true, Bool.and_eq_true,
    identicalItems_iff fun _ _ _ => identical_iff]

/-! ## Entries -/

theorem subsumedIn_iff {es other : Entries} : subsumedIn shared es other = true ↔
    ∀ e ∈ es, ∃ w, Entries.get? e.1 other = some w ∧ beqIn shared e.2 w = true := by
  induction es with
  | nil => simp [subsumedIn]
  | cons e rest ih =>
    obtain ⟨k, v⟩ := e
    rw [subsumedIn, Bool.and_eq_true, ih, List.forall_mem_cons]
    refine and_congr_left fun _ => ?_
    cases Entries.get? k other <;> simp

theorem mem_of_get? {k : String} {v : Value} {es : Entries} (h : Entries.get? k es = some v) :
    (k, v) ∈ es := by
  induction es with
  | nil => cases h
  | cons e rest ih =>
    obtain ⟨l, u⟩ := e
    by_cases hl : l = k
    · simp only [Entries.get?, hl, if_true, Option.some.injEq] at h
      rw [hl, h]
      exact List.mem_cons_self
    · simp only [Entries.get?, hl, if_false] at h
      exact List.mem_cons_of_mem _ (ih h)

/-- As many keys, all of which are found, are all keys. -/
theorem keys_perm_of_subsumedIn {as bs : Entries} (hdistinct : (as.map Prod.fst).Nodup)
    (hlength : as.length = bs.length) (h : subsumedIn shared as bs = true) :
    (as.map Prod.fst).Perm (bs.map Prod.fst) := by
  have hsubset : as.map Prod.fst ⊆ bs.map Prod.fst := by
    intro k hk
    obtain ⟨e, he, rfl⟩ := List.mem_map.mp hk
    obtain ⟨w, hw, -⟩ := subsumedIn_iff.mp h e he
    exact List.mem_map.mpr ⟨_, mem_of_get? hw, rfl⟩
  refine (List.subperm_of_subset hdistinct hsubset).perm_of_length_le ?_
  rw [List.length_map, List.length_map, hlength]

/-- The same keys, and equal values under each of them. -/
def EqualEntries (shared : Value → Bool) (as bs : Entries) : Prop :=
  (∀ k, k ∈ as.map Prod.fst ↔ k ∈ bs.map Prod.fst) ∧
    ∀ k v w, Entries.get? k as = some v → Entries.get? k bs = some w → beqIn shared v w = true

/-- A look-up one way is enough, because no key is there twice. -/
theorem equalEntries_iff {as bs : Entries} (hdistinct : (as.map Prod.fst).Nodup)
    (hdistinct' : (bs.map Prod.fst).Nodup) :
    (as.length == bs.length && subsumedIn shared as bs) = true ↔ EqualEntries shared as bs := by
  rw [Bool.and_eq_true, beq_iff_eq]
  constructor
  · rintro ⟨hlength, hsubsumed⟩
    have hkeys := keys_perm_of_subsumedIn hdistinct hlength hsubsumed
    refine ⟨fun k => hkeys.mem_iff, ?_⟩
    intro k v w hv hw
    obtain ⟨w', hw', heq⟩ := subsumedIn_iff.mp hsubsumed _ (mem_of_get? hv)
    obtain rfl := Option.some.inj (hw'.symm.trans hw)
    exact heq
  · rintro ⟨hkeys, hvalues⟩
    have hperm := (List.perm_ext_iff_of_nodup hdistinct hdistinct').mpr hkeys
    refine ⟨by simpa using hperm.length_eq, subsumedIn_iff.mpr ?_⟩
    rintro ⟨k, v⟩ hmem
    obtain ⟨⟨_, w⟩, hw, rfl⟩ := List.mem_map.mp ((hkeys k).mp (List.mem_map_of_mem hmem))
    have hget := get?_of_mem hdistinct' hw
    exact ⟨w, hget, hvalues _ v w (get?_of_mem hdistinct hmem) hget⟩

/-- Two maps are equal when they are one object, or their entries are found equal. -/
theorem map_beqIn_iff {as bs : Entries} : beqIn shared (map as) (map bs) = true ↔
    shared (map as) = true ∧ as = bs ∨
      (as.length == bs.length && subsumedIn shared as bs) = true := by
  rw [beqIn, Bool.or_eq_true, Bool.and_eq_true (shared _),
    identicalEntries_iff fun _ _ _ => identical_iff]

/-- **Maps are equal when they have the same keys and equal values under each of them.** -/
theorem map_beq_iff {as bs : Entries} (hdistinct : (as.map Prod.fst).Nodup)
    (hdistinct' : (bs.map Prod.fst).Nodup) : (map as == map bs) = true ↔
      (∀ k, k ∈ as.map Prod.fst ↔ k ∈ bs.map Prod.fst) ∧
      ∀ k v w, Entries.get? k as = some v → Entries.get? k bs = some w → (v == w) = true := by
  refine map_beqIn_iff.trans ((or_iff_right nofun).trans ?_)
  exact equalEntries_iff hdistinct hdistinct'

/-! ## Items -/

theorem beqItemsIn_symm {as bs : List Value} (h : beqItemsIn shared as bs = true)
    (hbeq : ∀ a ∈ as, ∀ b ∈ bs, beqIn shared a b = true → beqIn shared b a = true) :
    beqItemsIn shared bs as = true := by
  induction as generalizing bs with
  | nil =>
    cases bs with
    | nil => rfl
    | cons b bs => cases h
  | cons a as ih =>
    cases bs with
    | nil => cases h
    | cons b bs =>
      simp only [beqItemsIn, Bool.and_eq_true] at h ⊢
      exact ⟨hbeq a List.mem_cons_self b List.mem_cons_self h.1, ih h.2 fun c hc d hd =>
        hbeq c (List.mem_cons_of_mem a hc) d (List.mem_cons_of_mem b hd)⟩

theorem beqItemsIn_trans {as bs cs : List Value} (h : beqItemsIn shared as bs = true)
    (h' : beqItemsIn shared bs cs = true)
    (hbeq : ∀ a ∈ as, ∀ b c, beqIn shared a b = true → beqIn shared b c = true →
      beqIn shared a c = true) :
    beqItemsIn shared as cs = true := by
  induction as generalizing bs cs with
  | nil =>
    cases bs with
    | nil => exact h'
    | cons b bs => cases h
  | cons a as ih =>
    cases bs with
    | nil => cases h
    | cons b bs =>
      cases cs with
      | nil => cases h'
      | cons c cs =>
        simp only [beqItemsIn, Bool.and_eq_true] at h h' ⊢
        exact ⟨hbeq a List.mem_cons_self b c h.1 h'.1,
          ih h.2 h'.2 fun d hd => hbeq d (List.mem_cons_of_mem a hd)⟩

theorem beqItemsIn_self {as : List Value} (hbeq : ∀ a ∈ as, beqIn shared a a = true) :
    beqItemsIn shared as as = true := by
  induction as with
  | nil => rfl
  | cons a as ih =>
    rw [List.forall_mem_cons] at hbeq
    rw [beqItemsIn, hbeq.1, ih hbeq.2, Bool.and_self]

theorem beqIn_symm {v w : Value} (hv : v.Keyed) (hw : w.Keyed) (h : beqIn shared v w = true) :
    beqIn shared w v = true := by
  -- a map is only looked up one way, so that the keys are distinct is needed at every depth
  induction v using Value.induction generalizing w with
  | null => cases w <;> first | rfl | cases h
  | bool b =>
    cases w with
    | bool c => exact (Bool.beq_comm (a := c) (b := b)).trans h
    | _ => cases h
  | number x =>
    cases w with
    | number y => exact float_beq_symm h
    | _ => cases h
  | text s =>
    cases w with
    | text t => exact beq_iff_eq.mpr (beq_iff_eq.mp h).symm
    | _ => cases h
  | list items ih =>
    cases w with
    | list others =>
      cases hv with | list hbeneath =>
      cases hw with | list hbeneath' =>
      rcases list_beqIn_iff.mp h with ⟨-, rfl⟩ | hitems
      · exact h
      · exact list_beqIn_iff.mpr (.inr (beqItemsIn_symm hitems fun a ha b hb =>
          ih a ha (hbeneath a ha) (hbeneath' b hb)))
    | _ => cases h
  | map entries ih =>
    cases w with
    | map others =>
      cases hv with | map hdistinct hbeneath =>
      cases hw with | map hdistinct' hbeneath' =>
      rcases map_beqIn_iff.mp h with ⟨-, rfl⟩ | hentries
      · exact h
      · obtain ⟨hkeys, hvalues⟩ := (equalEntries_iff hdistinct hdistinct').mp hentries
        refine map_beqIn_iff.mpr (.inr ((equalEntries_iff hdistinct' hdistinct).mpr ?_))
        refine ⟨fun k => (hkeys k).symm, ?_⟩
        intro k w v hw hv
        have hmem := mem_of_get? hv
        exact ih _ hmem (hbeneath _ hmem) (hbeneath' _ (mem_of_get? hw)) (hvalues k v w hv hw)
    | _ => cases h

/-- **Equality is the same both ways.** -/
theorem beqIn_comm {v w : Value} (hv : v.Keyed) (hw : w.Keyed) :
    v.beqIn shared w = w.beqIn shared v :=
  Bool.eq_iff_iff.mpr ⟨beqIn_symm hv hw, beqIn_symm hw hv⟩

/-- **What is equal to the same is equal**: the look-ups of keys can be made one after the
other. -/
theorem beqIn_trans {u v w : Value} (h : beqIn shared u v = true) (h' : beqIn shared v w = true) :
    beqIn shared u w = true := by
  induction u using Value.induction generalizing v w with
  | null =>
    cases v with
    | null => exact h'
    | _ => cases h
  | bool b =>
    cases v with
    | bool c =>
      obtain rfl := beq_iff_eq.mp h
      exact h'
    | _ => cases h
  | number x =>
    cases v with
    | number y =>
      cases w with
      | number z => exact float_beq_trans h h'
      | _ => cases h'
    | _ => cases h
  | text s =>
    cases v with
    | text t =>
      obtain rfl := beq_iff_eq.mp h
      exact h'
    | _ => cases h
  | list as ih =>
    cases v with
    | list bs =>
      cases w with
      | list cs =>
        rcases list_beqIn_iff.mp h with ⟨-, rfl⟩ | hitems
        · exact h'
        rcases list_beqIn_iff.mp h' with ⟨-, rfl⟩ | hitems'
        · exact h
        exact list_beqIn_iff.mpr (.inr (beqItemsIn_trans hitems hitems' fun a ha b c => ih a ha))
      | _ => cases h'
    | _ => cases h
  | map as ih =>
    cases v with
    | map bs =>
      cases w with
      | map cs =>
        rcases map_beqIn_iff.mp h with ⟨-, rfl⟩ | hentries
        · exact h'
        rcases map_beqIn_iff.mp h' with ⟨-, rfl⟩ | hentries'
        · exact h
        rw [Bool.and_eq_true, beq_iff_eq] at hentries hentries'
        rw [map_beqIn_iff, Bool.and_eq_true, beq_iff_eq]
        refine .inr ⟨hentries.1.trans hentries'.1, subsumedIn_iff.mpr ?_⟩
        intro e he
        obtain ⟨v, hv, hev⟩ := subsumedIn_iff.mp hentries.2 e he
        obtain ⟨w, hw, hvw⟩ := subsumedIn_iff.mp hentries'.2 _ (mem_of_get? hv)
        exact ⟨w, hw, ih e he hev hvw⟩
      | _ => cases h'
    | _ => cases h

/-- **A value without NaN is equal to itself.** -/
theorem beqIn_self {v : Value} (hv : v.Keyed) (hnumbers : ∀ x ∈ v.numbers, x.isNaN = false) :
    beqIn shared v v = true := by
  induction v using Value.induction with
  | null => rfl
  | bool b => exact beq_self_eq_true b
  | number x => exact float_beq_self (hnumbers x (List.mem_singleton.mpr rfl))
  | text s => exact beq_self_eq_true s
  | list items ih =>
    cases hv with | list hbeneath =>
    refine list_beqIn_iff.mpr (.inr (beqItemsIn_self fun a ha => ih a ha (hbeneath a ha) ?_))
    exact fun x hx => hnumbers x (mem_itemNumbers.mpr ⟨a, ha, hx⟩)
  | map entries ih =>
    cases hv with | map hdistinct hbeneath =>
    refine map_beqIn_iff.mpr (.inr ((equalEntries_iff hdistinct hdistinct).mpr ?_))
    refine ⟨fun _ => Iff.rfl, ?_⟩
    intro k v w hv hw
    obtain rfl := Option.some.inj (hv.symm.trans hw)
    have hmem := mem_of_get? hv
    refine ih _ hmem (hbeneath _ hmem) ?_
    exact fun x hx => hnumbers x (mem_entryNumbers.mpr ⟨_, hmem, hx⟩)

/-! ## What is shared -/

end Value

/-- What is told equal without a look into it is equal. -/
theorem Comparison.equal_eq (shared : Value → Bool) (args : List Value) :
    equal shared args = (argument args 0).beqIn shared (argument args 1) := by
  unfold equal
  split
  · rename_i h h'
    rw [h, h', Value.list_beqIn_iff.mpr (.inr rfl)]
  · rename_i h h'
    rw [h, h', Value.map_beqIn_iff.mpr (.inr rfl)]
  · rfl

namespace Value

/-- **Equality is an equivalence.**  It is the same both ways and passes on, and every value without
NaN is equal to itself.  Maps are equal when they have the same keys, in whatever order, and equal
values under each of them.  The function that tells whether its arguments are equal tells this, and
goes by what is shared as equality does. -/
theorem equality_is_equivalence :
    (∀ v w : Value, v.Keyed → w.Keyed → (v == w) = (w == v)) ∧
    (∀ u v w : Value, u.Keyed → v.Keyed → w.Keyed → (u == v) = true → (v == w) = true →
      (u == w) = true) ∧
    (∀ v : Value, v.Keyed → (∀ x ∈ v.numbers, x.isNaN = false) → (v == v) = true) ∧
    (∀ as bs, (map as).Keyed → (map bs).Keyed → ((map as == map bs) = true ↔
      (∀ k, k ∈ as.map Prod.fst ↔ k ∈ bs.map Prod.fst) ∧
      ∀ k v w, Entries.get? k as = some v → Entries.get? k bs = some w → (v == w) = true)) ∧
    (∀ v w : Value, Comparison.equal (fun _ => false) [v, w] = (v == w)) ∧
    ∀ shared (v w : Value), Comparison.equal shared [v, w] = v.beqIn shared w := by
  refine ⟨fun _ _ => beqIn_comm, fun _ _ _ _ _ _ => beqIn_trans, fun _ => beqIn_self, ?_, ?_, ?_⟩
  · rintro as bs ⟨⟩ ⟨⟩
    exact map_beq_iff ‹_› ‹_›
  · exact fun v w => Comparison.equal_eq _ [v, w]
  · exact fun _ v w => Comparison.equal_eq _ [v, w]

/-- Two orders of the same keys, over zeros of two signs. -/
theorem equality_of_reordered_maps :
    let v := map [("a", .number 0), ("b", .list [.null, .text "x"])]
    let w := map [("b", .list [.null, .text "x"]), ("a", .number (-0.0))]
    v.Keyed ∧ w.Keyed ∧ (v == v) = true ∧ (v == w) = true ∧ (w == v) = true ∧ (w == w) = true ∧
      Comparison.equal (fun _ => false) [v, w] = true := by
  intro v w
  have hitems : (list [.null, .text "x"]).Keyed :=
    .list (List.forall_mem_cons.mpr ⟨.null, List.forall_mem_singleton.mpr .text⟩)
  have hv : v.Keyed := .map (by decide)
    (List.forall_mem_cons.mpr ⟨.number, List.forall_mem_singleton.mpr hitems⟩)
  have hw : w.Keyed := .map (by decide)
    (List.forall_mem_cons.mpr ⟨hitems, List.forall_mem_singleton.mpr .number⟩)
  obtain ⟨hcomm, htrans, hself, -, hequal, -⟩ := equality_is_equivalence
  have heq : (v == w) = true := by decide +kernel
  have heq' : (w == v) = true := (hcomm w v hw hv).trans heq
  refine ⟨hv, hw, hself v hv ?_, heq, heq', htrans w v w hw hv hw heq' heq, ?_⟩
  · exact List.forall_mem_singleton.mpr rfl
  · exact (hequal v w).trans heq

end Value

end StateExpr
