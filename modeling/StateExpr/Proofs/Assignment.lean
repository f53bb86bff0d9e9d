import Mathlib.Data.List.Basic
import StateExpr.Eval.Assign
import StateExpr.Proofs.Related
/-!
# Assignment along a path

What a path leads to, and how that changes when something is assigned along a path.

Main statements:

* `Value.assign_error_snd`: an assignment that fails leaves its value as it was, because whatever it
  makes on its way is fresh, and nothing fails on fresh ground (`Value.assign_null_fst`);
* `Value.follow_assign`: after an assignment its path leads to what was assigned;
* `Value.assign_assign`: a second assignment along the same path is as good as the only one;
* `Value.follow_assign_of_apart`: a path that parts from the assigned one, by another name or
  another index, leads to what it led to before.
-/

namespace StateExpr

/-! ## Entries -/

namespace Entries

variable {α : Type}

theorem get?_eq_none_iff {key : String} {es : List (String × α)} :
    get? key es = none ↔ key ∉ es.map Prod.fst := by
  induction es with
  | nil => simp [get?]
  | cons entry rest ih =>
    obtain ⟨k, v⟩ := entry
    by_cases hk : k = key
    · simp [get?, hk]
    · simp [get?, hk, ih, Ne.symm hk]

theorem insert_of_get? {key : String} {value : α} {es : List (String × α)}
    (h : get? key es = some value) : insert key value es = es := by
  induction es with
  | nil => cases h
  | cons e rest ih =>
    obtain ⟨k, v⟩ := e
    by_cases hk : k = key
    · simp only [get?, hk, if_true, Option.some.injEq] at h
      simp only [insert, hk, if_true, h]
    · simp only [get?, hk, if_false] at h
      simp only [insert, hk, if_false, ih h]

theorem insert_insert (key : String) (v w : α) (es : List (String × α)) :
    insert key w (insert key v es) = insert key w es := by
  induction es with
  | nil => simp only [insert, if_true]
  | cons e rest ih =>
    obtain ⟨k, u⟩ := e
    by_cases hk : k = key
    · simp only [insert, hk, if_true]
    · simp only [insert, hk, if_false, ih]

theorem find?_insert {p : String × α → Bool} {key : String} (h : ∀ v, p (key, v) = false)
    (value : α) (es : List (String × α)) : (insert key value es).find? p = es.find? p := by
  induction es with
  | nil => simp only [insert, List.find?_cons, h, List.find?_nil]
  | cons e rest ih =>
    obtain ⟨k, v⟩ := e
    by_cases hk : k = key
    · subst hk
      simp only [insert, if_true, List.find?_cons, h]
    · simp only [insert, hk, if_false, List.find?_cons, ih]

theorem property_of_get? {es : Entries} {name : String} {v : Value} (h : get? name es = some v) :
    property es name = v := by
  simp only [property, h]

/-- An entry whose name differs in more than case does not show under another name. -/
theorem property_insert_of_apart {es : Entries} {key name : String}
    (h : sameIgnoringCase key name = false) (v : Value) :
    property (insert key v es) name = property es name := by
  have hne : name ≠ key := by
    rintro rfl
    simp [sameIgnoringCase] at h
  unfold property
  rw [get?_insert_of_ne hne, find?_insert (fun _ => h)]

end Entries

/-! ## Keys -/

/-- The keys of a path, without what its steps are printed for. -/
def keysOf (steps : List PathStep) : List Key := steps.map PathStep.key

theorem keysOf_concat (steps : List PathStep) (step : PathStep) :
    keysOf (steps ++ [step]) = keysOf steps ++ [step.key] :=
  List.map_append

theorem keysOf_eq_cons {steps : List PathStep} {key : Key} {rest : List Key}
    (h : keysOf steps = key :: rest) :
    ∃ owner steps', steps = ⟨key, owner⟩ :: steps' ∧ keysOf steps' = rest := by
  cases steps with
  | nil => cases h
  | cons step steps =>
    obtain ⟨rfl, rfl⟩ := List.cons.inj h
    exact ⟨step.owner, steps, rfl, rfl⟩

namespace Key

/-- Two names that differ in more than case, or two indices. -/
def Apart : Key → Key → Prop
  | name n, name m => sameIgnoringCase n m = false
  | index i, index j => i ≠ j
  | _, _ => False

/-- Two names, or two indices. -/
def SameSort : Key → Key → Prop
  | name _, name _ => True
  | index _, index _ => True
  | _, _ => False

theorem Apart.sameSort {a b : Key} (h : Apart a b) : SameSort a b := by
  cases a <;> cases b <;> trivial

theorem SameSort.refl (k : Key) : SameSort k k := by
  cases k <;> trivial

end Key

theorem preparedFor_congr {p q : List PathStep} (h : keysOf p = keysOf q) (v : Value) :
    preparedFor p v = preparedFor q v := by
  cases p with
  | nil =>
    obtain rfl : q = [] := List.map_eq_nil_iff.mp h.symm
    rfl
  | cons step rest =>
    obtain ⟨owner, rest', rfl, -⟩ := keysOf_eq_cons h.symm
    rfl

namespace Value

variable (new : Value)

/-! ## One step of an assignment -/

theorem asMap?_map (entries : Entries) : (map entries).asMap? = some entries := rfl

theorem assign_name (n owner : String) (rest : List PathStep) (v : Value) :
    new.assign (⟨.name n, owner⟩ :: rest) v =
      ((new.assign rest (preparedFor rest ((Entries.get? n (v.asMap?.getD [])).getD .null))).1,
        .map (Entries.insert n
          (new.assign rest (preparedFor rest ((Entries.get? n (v.asMap?.getD [])).getD .null))).2
          (v.asMap?.getD []))) := rfl

theorem assign_index (i : Nat) (owner : String) (rest : List PathStep) (items : List Value) :
    new.assign (⟨.index i, owner⟩ :: rest) (.list items) =
      ((new.assign rest (preparedFor rest ((paddedTo items i).getD i .null))).1,
        .list ((paddedTo items i).set i
          (new.assign rest (preparedFor rest ((paddedTo items i).getD i .null))).2)) := rfl

theorem length_paddedTo (items : List Value) (i : Nat) : i < (paddedTo items i).length := by
  simp only [paddedTo, List.length_append, List.length_replicate]
  omega

theorem paddedTo_of_lt {items : List Value} {i : Nat} (h : i < items.length) :
    paddedTo items i = items := by
  simp [paddedTo, Nat.sub_eq_zero_of_le h]

theorem getD_paddedTo_of_le {items : List Value} {i : Nat} (h : items.length ≤ i) :
    (paddedTo items i).getD i .null = .null := by
  simp only [paddedTo, List.getD_eq_getElem?_getD, List.getElem?_append_right h,
    List.getElem?_replicate]
  split <;> rfl

/-- Only the keys of a path matter, but for the message. -/
theorem assign_congr {p q : List PathStep} (h : keysOf p = keysOf q) (v : Value) :
    Alike Eq (new.assign p v).1 (new.assign q v).1 ∧ (new.assign p v).2 = (new.assign q v).2 := by
  induction p generalizing q v with
  | nil =>
    obtain rfl : q = [] := List.map_eq_nil_iff.mp h.symm
    exact ⟨.ok rfl, rfl⟩
  | cons step rest ih =>
    obtain ⟨key, owner⟩ := step
    obtain ⟨owner', rest', rfl, hkeys⟩ := keysOf_eq_cons h.symm
    have hrest : keysOf rest = keysOf rest' := hkeys.symm
    cases key with
    | name n =>
      rw [assign_name, assign_name, preparedFor_congr hrest]
      obtain ⟨alike, same⟩ := ih hrest (preparedFor rest' _)
      exact ⟨alike, by rw [same]⟩
    | index i =>
      cases v with
      | list items =>
        rw [assign_index, assign_index, preparedFor_congr hrest]
        obtain ⟨alike, same⟩ := ih hrest (preparedFor rest' _)
        exact ⟨alike, by rw [same]⟩
      | _ => exact ⟨.error rfl, rfl⟩

/-! ## Fresh ground -/

/-- Nothing can stop an assignment where nothing was. -/
theorem assign_null_fst (rest : List PathStep) :
    (new.assign rest (preparedFor rest .null)).1 = .ok () := by
  induction rest with
  | nil => rfl
  | cons step rest ih =>
    obtain ⟨key, owner⟩ := step
    cases key with
    | name n => exact ih
    | index i =>
      change (new.assign (⟨.index i, owner⟩ :: rest) (.list [])).1 = _
      rw [assign_index, getD_paddedTo_of_le (Nat.zero_le i)]
      exact ih

/-- What had to be made is fresh, so an assignment that fails has made nothing. -/
theorem preparedFor_of_error {rest : List PathStep} {v : Value} {e : EvalError}
    (h : (new.assign rest (preparedFor rest v)).1 = .error e) : preparedFor rest v = v := by
  cases rest with
  | nil => rfl
  | cons step rest =>
    obtain ⟨key, owner⟩ := step
    cases key with
    | name n =>
      cases v with
      | map entries => rfl
      | _ => exact absurd ((assign_null_fst new rest).symm.trans h) nofun
    | index i =>
      cases v with
      | null => exact absurd ((assign_null_fst new _).symm.trans h) nofun
      | _ => rfl

/-- **An assignment that fails changes nothing.** -/
theorem assign_error_snd {steps : List PathStep} {v : Value} {e : EvalError}
    (h : (new.assign steps v).1 = .error e) : (new.assign steps v).2 = v := by
  induction steps generalizing v with
  | nil => cases h
  | cons step rest ih =>
    obtain ⟨key, owner⟩ := step
    cases key with
    | name n =>
      rw [assign_name] at h ⊢
      cases hg : Entries.get? n (v.asMap?.getD []) with
      | none =>
        rw [hg] at h
        exact absurd ((assign_null_fst new rest).symm.trans h) nofun
      | some w =>
        rw [hg, Option.getD_some] at h
        have hw := preparedFor_of_error new h
        rw [hw] at h
        simp only [Option.getD_some, hw, ih h, Entries.insert_of_get? hg]
        cases v with
        | map entries => rfl
        | _ => cases hg
    | index i =>
      cases v with
      | list items =>
        rw [assign_index] at h ⊢
        by_cases hi : i < items.length
        · have hd : items.getD i .null = items[i] := by
            simp only [List.getD_eq_getElem?_getD, List.getElem?_eq_getElem hi, Option.getD_some]
          rw [paddedTo_of_lt hi, hd] at h ⊢
          have hw := preparedFor_of_error new h
          rw [hw] at h
          simp only [hw, ih h, List.set_getElem_self]
        · rw [getD_paddedTo_of_le (Nat.le_of_not_lt hi)] at h
          exact absurd ((assign_null_fst new rest).symm.trans h) nofun
      | _ => rfl

/-! ## What a path leads to -/

/-- What a key leads to. -/
def under (v : Value) : Key → Except IndexFault Value
  | .name n => .ok (v.property n)
  | .index i => v.item i

/-- What a path leads to. -/
def follow (v : Value) : List Key → Except IndexFault Value
  | [] => .ok v
  | key :: rest =>
    match v.under key with
    | .ok w => w.follow rest
    | .error fault => .error fault

theorem item_of_getElem? {items : List Value} {i : Nat} {w : Value} (h : items[i]? = some w) :
    (list items).item i = .ok w := by
  simp only [item, Int.toNat_natCast, if_neg (Int.not_lt.mpr (Int.natCast_nonneg i)), h]

theorem follow_index_of_getElem? {items : List Value} {i : Nat} {w : Value} {rest : List Key}
    (h : items[i]? = some w) : (list items).follow (.index i :: rest) = w.follow rest := by
  simp only [follow, under, item_of_getElem? h]

theorem follow_concat (v : Value) (keys : List Key) (key : Key) :
    v.follow (keys ++ [key]) = match v.follow keys with
      | .ok w => w.under key
      | .error fault => .error fault := by
  induction keys generalizing v with
  | nil =>
    simp only [List.nil_append, follow]
    cases v.under key <;> rfl
  | cons k rest ih =>
    simp only [List.cons_append, follow]
    cases v.under k with
    | ok w => exact ih w
    | error fault => rfl

theorem follow_null (keys : List Key) : null.follow keys = .ok null := by
  induction keys with
  | nil => rfl
  | cons key rest ih => cases key <;> exact ih

/-- What an assignment has made of a place serves the same steps once more. -/
theorem preparedFor_assign {rest : List PathStep} {v : Value}
    (h : (new.assign rest (preparedFor rest v)).1 = .ok ()) :
    preparedFor rest (new.assign rest (preparedFor rest v)).2
      = (new.assign rest (preparedFor rest v)).2 := by
  cases rest with
  | nil => rfl
  | cons step rest =>
    obtain ⟨key, owner⟩ := step
    cases key with
    | name n => rfl
    | index i =>
      generalize preparedFor _ v = w at h ⊢
      cases w with
      | list items => rfl
      | _ => cases h

/-- **After an assignment its path leads to what was assigned.** -/
theorem follow_assign {steps : List PathStep} {v : Value}
    (h : (new.assign steps v).1 = .ok ()) :
    (new.assign steps v).2.follow (keysOf steps) = .ok new := by
  induction steps generalizing v with
  | nil => rfl
  | cons step rest ih =>
    obtain ⟨key, owner⟩ := step
    cases key with
    | name n =>
      rw [assign_name] at h ⊢
      change (Entries.property _ n).follow (keysOf rest) = _
      rw [Entries.property_of_get? (Entries.get?_insert_self _ _ _)]
      exact ih h
    | index i =>
      cases v with
      | list items =>
        rw [assign_index] at h ⊢
        have hi := length_paddedTo items i
        exact (follow_index_of_getElem? (List.getElem?_set_self hi)).trans (ih h)
      | _ => cases h

/-- **A second assignment along the same path is as good as the only one.** -/
theorem assign_assign (other : Value) {steps : List PathStep} {v : Value}
    (h : (new.assign steps v).1 = .ok ()) :
    other.assign steps (new.assign steps v).2 = other.assign steps v := by
  induction steps generalizing v with
  | nil => rfl
  | cons step rest ih =>
    obtain ⟨key, owner⟩ := step
    cases key with
    | name n =>
      rw [assign_name] at h
      have again := preparedFor_assign new h
      rw [assign_name new, assign_name other, assign_name other]
      simp only [asMap?_map, Option.getD_some, Entries.get?_insert_self, again, ih h,
        Entries.insert_insert]
    | index i =>
      cases v with
      | list items =>
        rw [assign_index] at h
        have again := preparedFor_assign new h
        have hi := length_paddedTo items i
        rw [assign_index new, assign_index other, assign_index other,
          paddedTo_of_lt (by rw [List.length_set]; exact hi)]
        simp only [List.getD_eq_getElem?_getD, List.getElem?_set_self hi, Option.getD_some,
          List.set_set] at again h ⊢
        rw [again, ih h]
      | _ => cases h

/-- Whether an assignment succeeds does not depend on what is assigned. -/
theorem assign_fst (other : Value) (steps : List PathStep) (v : Value) :
    (other.assign steps v).1 = (new.assign steps v).1 := by
  induction steps generalizing v with
  | nil => rfl
  | cons step rest ih =>
    obtain ⟨key, owner⟩ := step
    cases key with
    | name n => exact ih _
    | index i =>
      cases v with
      | list items => exact ih _
      | _ => rfl

/-! ## Paths that part -/

/-- The names of a path stand in a value exactly as they are spelled. -/
def Spelled : List Key → Value → Prop
  | [], _ => True
  | .name n :: rest, v =>
    ∃ entries w, v = .map entries ∧ Entries.get? n entries = some w ∧ Spelled rest w
  | .index i :: rest, v => ∀ w, v.item i = .ok w → Spelled rest w

/-- Where a path leads somewhere, nothing has to be made for a step of the same sort. -/
theorem prepared_of_follow {v u : Value} {key key' : Key} {rest : List Key} (hs : key.SameSort key')
    (h : v.follow (key' :: rest) = .ok u) (hu : u ≠ .null) : key.prepared v = v := by
  cases key with
  | name n =>
    cases key' with
    | name m =>
      cases v with
      | map entries => rfl
      | _ => exact absurd (Except.ok.inj ((follow_null rest).symm.trans h)).symm hu
    | index j => exact hs.elim
  | index i =>
    cases v with
    | null => exact absurd (Except.ok.inj ((follow_null (key' :: rest)).symm.trans h)).symm hu
    | _ => rfl

theorem list_of_follow_index {v u : Value} {i : Nat} {rest : List Key}
    (h : v.follow (.index i :: rest) = .ok u) (hu : u ≠ .null) :
    ∃ items w, v = .list items ∧ items[i]? = some w ∧ w.follow rest = .ok u := by
  cases v with
  | null => exact absurd (Except.ok.inj ((follow_null rest).symm.trans h)).symm hu
  | list items =>
    cases hw : items[i]? with
    | none =>
      simp only [follow, under, item, Int.toNat_natCast, hw,
        if_neg (Int.not_lt.mpr (Int.natCast_nonneg i))] at h
      cases h
    | some w => exact ⟨items, w, rfl, hw, (follow_index_of_getElem? hw).symm.trans h⟩
  | _ => cases h

/-- Where a path that parts from the assigned one leads somewhere, nothing has to be made. -/
theorem preparedFor_of_follow {common : List Key} {a b : Key} {after rest : List Key}
    {steps : List PathStep} {v u : Value} (hsteps : keysOf steps = common ++ a :: after)
    (hab : a.Apart b) (hread : v.follow (common ++ b :: rest) = .ok u) (hu : u ≠ .null) :
    preparedFor steps v = v := by
  cases common with
  | nil =>
    obtain ⟨owner, steps, rfl, -⟩ := keysOf_eq_cons hsteps
    exact prepared_of_follow hab.sameSort hread hu
  | cons k common =>
    obtain ⟨owner, steps, rfl, -⟩ := keysOf_eq_cons hsteps
    exact prepared_of_follow (Key.SameSort.refl k) hread hu

/-- The case of two paths that part at once. -/
theorem follow_assign_of_apart_head {a b : Key} {owner : String} {steps : List PathStep}
    {rest : List Key} {v u : Value} (hab : a.Apart b) (hread : v.follow (b :: rest) = .ok u)
    (hu : u ≠ .null) : (new.assign (⟨a, owner⟩ :: steps) v).2.follow (b :: rest) = .ok u := by
  match a, b, hab with
  | .name n, .name m, hab =>
    cases v with
    | map entries =>
      rw [assign_name]
      change (Entries.property _ m).follow rest = _
      rw [Entries.property_insert_of_apart hab]
      exact hread
    | _ => exact absurd (Except.ok.inj ((follow_null rest).symm.trans hread)).symm hu
  | .index i, .index j, hab =>
    obtain ⟨items, w, rfl, hw, hrest⟩ := list_of_follow_index hread hu
    have hj : j < items.length := (List.getElem?_eq_some_iff.mp hw).1
    rw [assign_index]
    refine (follow_index_of_getElem? ?_).trans hrest
    rw [List.getElem?_set_ne hab, paddedTo, List.getElem?_append_left hj, hw]

/-- **A path that parts from the assigned one leads to what it led to before.** -/
theorem follow_assign_of_apart {common : List Key} {a b : Key} {after rest : List Key}
    {steps : List PathStep} {v u : Value} (hsteps : keysOf steps = common ++ a :: after)
    (hab : a.Apart b) (hspelled : Spelled common v)
    (hread : v.follow (common ++ b :: rest) = .ok u) (hu : u ≠ .null)
    (hassign : (new.assign steps v).1 = .ok ()) :
    (new.assign steps v).2.follow (common ++ b :: rest) = .ok u := by
  induction common generalizing steps v with
  | nil =>
    obtain ⟨owner, steps, rfl, -⟩ := keysOf_eq_cons hsteps
    exact follow_assign_of_apart_head new hab hread hu
  | cons k common ih =>
    obtain ⟨owner, steps, rfl, hrest⟩ := keysOf_eq_cons hsteps
    cases k with
    | name n =>
      obtain ⟨entries, w, rfl, hw, hspelled⟩ := hspelled
      have hread : w.follow (common ++ b :: rest) = .ok u := by
        rw [← Entries.property_of_get? hw]
        exact hread
      have kept := preparedFor_of_follow hrest hab hread hu
      rw [assign_name] at hassign ⊢
      simp only [asMap?_map, Option.getD_some, hw, kept] at hassign ⊢
      change (Entries.property _ n).follow (common ++ b :: rest) = _
      rw [Entries.property_of_get? (Entries.get?_insert_self _ _ _)]
      exact ih hrest hspelled hread hassign
    | index i =>
      obtain ⟨items, w, rfl, hw, hread⟩ := list_of_follow_index hread hu
      have hi : i < items.length := (List.getElem?_eq_some_iff.mp hw).1
      have hspelled : Spelled common w := hspelled w (item_of_getElem? hw)
      have kept := preparedFor_of_follow hrest hab hread hu
      rw [assign_index] at hassign ⊢
      simp only [paddedTo_of_lt hi, List.getD_eq_getElem?_getD, hw, Option.getD_some,
        kept] at hassign ⊢
      refine (follow_index_of_getElem? (List.getElem?_set_self hi)).trans ?_
      exact ih hrest hspelled hread hassign

end Value

end StateExpr
