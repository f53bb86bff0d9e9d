import StateExpr.Proofs.Lens
/-!
# The slot that a path reads

A path reads one place of a value: at every name the entry with just this name, or the first one
that differs in case only, and at every index the item at this position.  Setting goes by the exact
names, so it fills the very place that is read when all names are spelled as they stand, and only
then; a name in another case gets an entry of its own.

Main statements: `Value.replaced_assign_iff` and `Expr.setPathToValue_in_place_iff`.
-/

namespace StateExpr

namespace Entries

variable {α : Type}

/-- A key that stands among entries divides the others into those in front and those behind. -/
theorem exists_split_of_get? {key : String} {v : α} {es : List (String × α)}
    (h : get? key es = some v) :
    ∃ before behind, es = before ++ (key, v) :: behind ∧ get? key before = none := by
  induction es with
  | nil => cases h
  | cons e rest ih =>
    obtain ⟨k, u⟩ := e
    by_cases hk : k = key
    · subst hk
      simp only [get?, if_true, Option.some.injEq] at h
      subst h
      exact ⟨[], rest, rfl, rfl⟩
    · simp only [get?, hk, if_false] at h
      obtain ⟨before, behind, rfl, hbefore⟩ := ih h
      exact ⟨(k, u) :: before, behind, rfl, by simpa [get?, hk] using hbefore⟩

theorem get?_append_cons_self {key : String} {before : List (String × α)}
    (h : get? key before = none) (v : α) (behind : List (String × α)) :
    get? key (before ++ (key, v) :: behind) = some v := by
  induction before with
  | nil => simp [get?]
  | cons e rest ih =>
    obtain ⟨k, u⟩ := e
    by_cases hk : k = key
    · simp [get?, hk] at h
    · simp only [get?, hk, if_false] at h
      simp only [List.cons_append, get?, hk, if_false, ih h]

theorem insert_append_cons_self {key : String} {before : List (String × α)}
    (h : get? key before = none) (v w : α) (behind : List (String × α)) :
    insert key w (before ++ (key, v) :: behind) = before ++ (key, w) :: behind := by
  induction before with
  | nil => simp [insert]
  | cons e rest ih =>
    obtain ⟨k, u⟩ := e
    by_cases hk : k = key
    · simp [get?, hk] at h
    · simp only [get?, hk, if_false] at h
      simp only [List.cons_append, insert, hk, if_false, ih h]

/-- A new key makes one entry more. -/
theorem length_insert_of_none {key : String} {es : List (String × α)} (h : get? key es = none)
    (v : α) : (insert key v es).length = es.length + 1 := by
  induction es with
  | nil => rfl
  | cons e rest ih =>
    obtain ⟨k, u⟩ := e
    by_cases hk : k = key
    · simp [get?, hk] at h
    · simp only [get?, hk, if_false] at h
      simp only [insert, hk, if_false, List.length_cons, ih h]

end Entries

namespace Value

/-- The second value is the first one with another value in the slot that a path reads; nothing else
is changed, and the slot stays where it is. -/
inductive Replaced (old new : Value) : List Key → Value → Value → Prop where
  | here : Replaced old new [] old new
  /-- The entry with just this name. -/
  | exact {name : String} {before behind : Entries} {v w : Value} {rest : List Key}
      (hbefore : Entries.get? name before = none) (beneath : Replaced old new rest v w) :
      Replaced old new (.name name :: rest) (.map (before ++ (name, v) :: behind))
        (.map (before ++ (name, w) :: behind))
  /-- Where none has just this name, the first one whose name differs in case only. -/
  | ignoringCase {name key : String} {before behind : Entries} {v w : Value} {rest : List Key}
      (hnone : Entries.get? name (before ++ (key, v) :: behind) = none)
      (hbefore : ∀ e ∈ before, sameIgnoringCase e.1 name = false)
      (hkey : sameIgnoringCase key name = true) (beneath : Replaced old new rest v w) :
      Replaced old new (.name name :: rest) (.map (before ++ (key, v) :: behind))
        (.map (before ++ (key, w) :: behind))
  | index {before behind : List Value} {v w : Value} {rest : List Key}
      (beneath : Replaced old new rest v w) :
      Replaced old new (.index before.length :: rest) (.list (before ++ v :: behind))
        (.list (before ++ w :: behind))

variable {old new v w u : Value} {keys : List Key} {steps : List PathStep}

/-- The path reads what was in the slot, and then what is there instead. -/
theorem Replaced.follow (h : Replaced old new keys v w) :
    v.follow keys = .ok old ∧ w.follow keys = .ok new := by
  induction h with
  | here => exact ⟨rfl, rfl⟩
  | @exact name before behind v w rest hbefore beneath ih =>
    have reads : ∀ x : Value, (map (before ++ (name, x) :: behind)).follow (.name name :: rest) =
        x.follow rest := by
      intro x
      simp only [Value.follow, under, property,
        Entries.property_of_get? (Entries.get?_append_cons_self hbefore x behind)]
    rw [reads, reads]
    exact ih
  | @ignoringCase name key before behind v w rest hnone hbefore hkey beneath ih =>
    have reads : ∀ x : Value, (map (before ++ (key, x) :: behind)).follow (.name name :: rest) =
        x.follow rest := by
      intro x
      have hx : Entries.get? name (before ++ (key, x) :: behind) = none := by
        simpa [Entries.get?_eq_none_iff] using hnone
      have found : (before ++ (key, x) :: behind).find? (fun e => sameIgnoringCase e.1 name) =
          some (key, x) := by
        rw [List.find?_append, List.find?_eq_none.mpr fun e he => by simp [hbefore e he],
          Option.none_or, List.find?_cons, hkey]
      simp only [Value.follow, under, property, Entries.property, hx, found]
    rw [reads, reads]
    exact ih
  | @index before behind v w rest beneath ih =>
    have reads : ∀ x : Value, (list (before ++ x :: behind)).follow (.index before.length :: rest) =
        x.follow rest := fun x => follow_index_of_getElem? (by simp)
    rw [reads, reads]
    exact ih

/-- Where a path leads somewhere, nothing has to be made for its first step. -/
theorem preparedFor_of_read (hread : v.follow (keysOf steps) = .ok u) (hu : u ≠ .null) :
    preparedFor steps v = v := by
  cases steps with
  | nil => rfl
  | cons step rest => exact prepared_of_follow (Key.SameSort.refl step.key) hread hu

theorem exists_split_of_getElem? {items : List Value} {i : Nat} (h : items[i]? = some v) :
    ∃ before behind, items = before ++ v :: behind ∧ before.length = i := by
  obtain ⟨hi, rfl⟩ := List.getElem?_eq_some_iff.mp h
  refine ⟨items.take i, items.drop (i + 1), ?_, List.length_take_of_le (Nat.le_of_lt hi)⟩
  rw [← List.drop_eq_getElem_cons hi, List.take_append_drop]

/-- An assignment to a position that is there goes on with the item at it. -/
theorem assign_index_append_cons (owner : String) (before behind : List Value) :
    new.assign (⟨.index before.length, owner⟩ :: steps) (.list (before ++ v :: behind)) =
      ((new.assign steps (preparedFor steps v)).1,
        .list (before ++ (new.assign steps (preparedFor steps v)).2 :: behind)) := by
  rw [assign_index, paddedTo_of_lt (by simp)]
  simp

/-- Names that are spelled as they stand, and indices, address the slot that they read. -/
theorem Spelled.replaced_assign (hspelled : Spelled (keysOf steps) v)
    (hread : v.follow (keysOf steps) = .ok u) (hu : u ≠ .null) :
    Replaced u new (keysOf steps) v (new.assign steps v).2 := by
  induction steps generalizing v with
  | nil =>
    obtain rfl : v = u := Except.ok.inj hread
    exact .here
  | cons step rest ih =>
    obtain ⟨key, owner⟩ := step
    cases key with
    | name n =>
      obtain ⟨entries, x, rfl, hx, hspelled⟩ := hspelled
      have reads : x.follow (keysOf rest) = .ok u := by
        rw [← Entries.property_of_get? hx]
        exact hread
      obtain ⟨before, behind, rfl, hbefore⟩ := Entries.exists_split_of_get? hx
      simp only [assign_name, asMap?_map, Option.getD_some, hx, preparedFor_of_read reads hu,
        Entries.insert_append_cons_self hbefore]
      exact .exact hbefore (ih hspelled reads)
    | index i =>
      obtain ⟨items, x, rfl, hx, reads⟩ := list_of_follow_index hread hu
      have spelled : Spelled (keysOf rest) x := hspelled x (item_of_getElem? hx)
      obtain ⟨before, behind, rfl, rfl⟩ := exists_split_of_getElem? hx
      rw [assign_index_append_cons, preparedFor_of_read reads hu]
      exact .index (ih spelled reads)

/-- An assignment that fills the slot that is read has found every name as it is spelled. -/
theorem Replaced.spelled (h : Replaced u new keys v w) (hu : u ≠ .null)
    (hkeys : keysOf steps = keys) (hw : (new.assign steps v).2 = w) : Spelled keys v := by
  induction h generalizing steps with
  | here => trivial
  | @exact name before behind v w rest hbefore beneath ih =>
    obtain ⟨owner, steps, rfl, rfl⟩ := keysOf_eq_cons hkeys
    have hget := Entries.get?_append_cons_self hbefore v behind
    simp only [assign_name, asMap?_map, Option.getD_some, hget,
      preparedFor_of_read beneath.follow.1 hu, Entries.insert_append_cons_self hbefore,
      map.injEq, List.append_cancel_left_eq, List.cons.injEq, Prod.mk.injEq, true_and, and_true]
      at hw
    exact ⟨_, v, rfl, hget, ih rfl hw⟩
  | @ignoringCase name key before behind v w rest hnone hbefore hkey beneath ih =>
    obtain ⟨owner, steps, rfl, rfl⟩ := keysOf_eq_cons hkeys
    simp only [assign_name, asMap?_map, Option.getD_some, map.injEq] at hw
    have longer := congrArg List.length hw
    rw [Entries.length_insert_of_none hnone] at longer
    simp at longer
  | @index before behind v w rest beneath ih =>
    obtain ⟨owner, steps, rfl, rfl⟩ := keysOf_eq_cons hkeys
    rw [assign_index_append_cons, preparedFor_of_read beneath.follow.1 hu] at hw
    intro x hx
    obtain rfl : v = x := Except.ok.inj ((item_of_getElem? (by simp)).symm.trans hx)
    exact ih rfl (List.cons.inj (List.append_cancel_left (list.inj hw))).1

/-- **An assignment fills the slot that is read exactly when the names stand as they are
spelled.** -/
theorem replaced_assign_iff (hread : v.follow (keysOf steps) = .ok u) (hu : u ≠ .null) :
    Replaced u new (keysOf steps) v (new.assign steps v).2 ↔ Spelled (keysOf steps) v :=
  ⟨fun h => h.spelled hu rfl rfl, fun h => h.replaced_assign hread hu⟩

end Value

namespace Expr

variable {ambient : Ambient} {p : Expr} {keys : List Key}

/-- **Reading and setting address the same slot** exactly when all names of the path stand in the
state as they are spelled.  Setting then puts the value in the place of what was read, no map on
the way gains a key, and nothing else changes. -/
theorem setPathToValue_in_place_iff (hp : ConstantPath p keys) {u v r s s' : Value}
    (hread : (p.evaluate.outcome s).1 = .ok u) (hu : u ≠ .null)
    (hset : (setting ambient p v).evaluate.outcome s = (.ok r, s')) :
    Value.Replaced u v keys s s' ↔ Value.Spelled keys s := by
  obtain ⟨steps, rfl, hrun⟩ := hp.setting_outcome ambient
  rw [hp.evaluate_outcome] at hread
  rw [hrun] at hset
  obtain rfl : (v.assign steps s).2 = s' := congrArg Prod.snd hset
  exact Value.replaced_assign_iff (readAlong_eq_ok.mp hread) hu

/-- Setting `rows[1].name` in the second of two rows. -/
theorem setPathToValue_in_place_at_row :
    let p := accessor "name" (some (withEvaluator (Operator.element.evaluator .still)
      [accessor "rows" none, constant (.number 1)]))
    let keys := [Key.name "rows", .index 1, .name "name"]
    let rows := fun v => Value.map
      [("rows", .list [.null, .map [("id", .number 2), ("name", v)]]), ("total", .number 2)]
    let e := setting .still p (.text "y")
    e.evaluate.outcome (rows (.text "x")) = (.ok (.text "y"), rows (.text "y")) ∧
      Value.Spelled keys (rows (.text "x")) ∧
      Value.Replaced (.text "x") (.text "y") keys (rows (.text "x")) (rows (.text "y")) := by
  intro p keys rows e
  have hp : ConstantPath p keys := .property rfl (.element rfl (.root rfl))
  have hread : (p.evaluate.outcome (rows (.text "x"))).1 = .ok (.text "x") := rfl
  have hset : e.evaluate.outcome (rows (.text "x")) = (.ok (.text "y"), rows (.text "y")) := rfl
  have spelled : Value.Spelled keys (rows (.text "x")) := by
    refine ⟨_, _, rfl, rfl, ?_⟩
    intro row hrow
    obtain rfl := Except.ok.inj hrow
    exact ⟨_, _, rfl, rfl, trivial⟩
  exact ⟨hset, spelled, (setPathToValue_in_place_iff hp hread nofun hset).mpr spelled⟩

/-- A name that is found in another case is read, but setting makes an entry of its own. -/
theorem setPathToValue_beside_other_case :
    let p := accessor "name" none
    let s := Value.map [("Name", .text "x")]
    let s' := Value.map [("Name", .text "x"), ("name", .text "y")]
    let e := setting .still p (.text "y")
    p.evaluate.outcome s = (.ok (.text "x"), s) ∧
      e.evaluate.outcome s = (.ok (.text "y"), s') ∧
      ¬ Value.Replaced (.text "x") (.text "y") [.name "name"] s s' := by
  intro p s s' e
  have hp : ConstantPath p [.name "name"] := .root rfl
  have hset : e.evaluate.outcome s = (.ok (.text "y"), s') := rfl
  have hread : p.evaluate.outcome s = (.ok (.text "x"), s) := rfl
  refine ⟨hread, hset, ?_⟩
  intro h
  obtain ⟨entries, w, hs, hw, -⟩ :=
    h.spelled nofun (rfl : keysOf [⟨.name "name", ""⟩] = _) rfl
  obtain rfl : [("Name", .text "x")] = entries := Value.map.inj hs
  cases hw

end Expr

end StateExpr
