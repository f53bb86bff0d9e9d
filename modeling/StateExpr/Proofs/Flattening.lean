import StateExpr.Proofs.Counts
import StateExpr.Proofs.Value
/-!
# Flattening

Flattening takes levels of lists away and keeps what is no list, in its order.  The levels of one
flattening after another add up, and as many levels as lists stand inside each other are all of
them.

Main statements: `Value.flattenItems_flattenItems`, `Value.itemLeaves_flattenItems`,
`Value.itemsNesting_flattenItems` and `Expr.flatten_levels`.
-/

namespace StateExpr

namespace Value

mutual

/-- What is no list, in a value and in the lists in it at any depth, from left to right. -/
def leaves : Value → List Value
  | list items => itemLeaves items
  | v => [v]

def itemLeaves : List Value → List Value
  | [] => []
  | v :: rest => leaves v ++ itemLeaves rest

end

mutual

/-- How many lists stand inside each other. -/
def nesting : Value → ℕ
  | list items => itemsNesting items + 1
  | _ => 0

def itemsNesting : List Value → ℕ
  | [] => 0
  | v :: rest => max (nesting v) (itemsNesting rest)

end

/-- Induction over the items of a list: what is said of the items of a list in front and of the
rest, or of the rest behind what is no list. -/
@[elab_as_elim]
theorem itemsInduction {motive : List Value → Prop} (nil : motive [])
    (list : ∀ inner rest, motive inner → motive rest → motive (.list inner :: rest))
    (other : ∀ v rest, v.isList = false → motive rest → motive (v :: rest))
    (items : List Value) : motive items := by
  have hrow : ∀ items : List Value, (∀ v ∈ items, ∀ inner, v = .list inner → motive inner) →
      motive items := by
    intro items
    induction items with
    | nil => exact fun _ => nil
    | cons v rest ih =>
      intro h
      rw [List.forall_mem_cons] at h
      have hrest := ih h.2
      by_cases hv : v.isList = false
      · exact other v rest hv hrest
      · cases v with
        | list inner => exact list inner rest (h.1 inner rfl) hrest
        | _ => exact absurd rfl hv
  have hvalue : ∀ v : Value, ∀ inner, v = .list inner → motive inner := by
    intro v
    induction v using Value.induction with
    | list items ih =>
      rintro inner ⟨⟩
      exact hrow items ih
    | _ => nofun
  exact hvalue (.list items) items rfl

/-! ## Items one after the other -/

variable {v : Value} {items : List Value}

theorem flattenItem_of_not_list (h : v.isList = false) (d : Option ℕ) : flattenItem d v = [v] := by
  cases v with
  | list items => cases h
  | _ => simp [flattenItem]

theorem leaves_of_not_list (h : v.isList = false) : leaves v = [v] := by
  cases v with
  | list items => cases h
  | _ => simp [leaves]

theorem nesting_eq_zero_iff : nesting v = 0 ↔ v.isList = false := by
  cases v <;> simp [isList, nesting]

@[simp] theorem flattenItems_append (d : Option ℕ) (as bs : List Value) :
    flattenItems d (as ++ bs) = flattenItems d as ++ flattenItems d bs := by
  induction as with
  | nil => rfl
  | cons a as ih => simp [flattenItems, ih]

@[simp] theorem itemLeaves_append (as bs : List Value) :
    itemLeaves (as ++ bs) = itemLeaves as ++ itemLeaves bs := by
  induction as with
  | nil => rfl
  | cons a as ih => simp [itemLeaves, ih]

@[simp] theorem itemsNesting_append (as bs : List Value) :
    itemsNesting (as ++ bs) = max (itemsNesting as) (itemsNesting bs) := by
  induction as with
  | nil => simp [itemsNesting]
  | cons a as ih => simp [itemsNesting, ih, max_assoc]

theorem itemsNesting_eq_zero_iff : itemsNesting items = 0 ↔ ∀ v ∈ items, v.isList = false := by
  induction items with
  | nil => simp [itemsNesting]
  | cons v rest ih => simp [itemsNesting, nesting_eq_zero_iff, ih]

/-! ## Levels -/

@[simp] theorem flattenItems_zero (items : List Value) : flattenItems (some 0) items = items := by
  induction items with
  | nil => rfl
  | cons v rest ih => cases v <;> simp [flattenItems, flattenItem, ih]

/-- **Levels add up.**  No depth, which is all levels, stays so with any others. -/
theorem flattenItems_flattenItems (a b : Option ℕ) (items : List Value) :
    flattenItems b (flattenItems a items) = flattenItems (Option.map₂ (· + ·) a b) items := by
  induction items using itemsInduction generalizing a with
  | nil => rfl
  | list inner rest hinner hrest =>
    rw [flattenItems, flattenItems_append, hrest, flattenItems]
    congr 1
    match a, b with
    | none, _ => exact hinner none
    | some 0, b => cases b <;> simp [flattenItem, flattenItems]
    | some (n + 1), none => exact hinner (some n)
    | some (n + 1), some m =>
      rw [Option.map₂_some_some, Nat.add_right_comm]
      exact hinner (some n)
  | other v rest hv hrest =>
    rw [flattenItems, flattenItems_append, hrest, flattenItems]
    simp [flattenItem_of_not_list hv, flattenItems]

/-- **No leaf is lost, moved or made.** -/
theorem itemLeaves_flattenItems (d : Option ℕ) (items : List Value) :
    itemLeaves (flattenItems d items) = itemLeaves items := by
  induction items using itemsInduction generalizing d with
  | nil => rfl
  | list inner rest hinner hrest =>
    rw [flattenItems, itemLeaves_append, hrest, itemLeaves]
    congr 1
    match d with
    | none => exact hinner none
    | some 0 => simp [flattenItem, itemLeaves]
    | some (n + 1) => exact hinner (some n)
  | other v rest hv hrest =>
    rw [flattenItems, itemLeaves_append, hrest, itemLeaves]
    simp [flattenItem_of_not_list hv, itemLeaves]

theorem isList_of_mem_itemLeaves (h : v ∈ itemLeaves items) : v.isList = false := by
  induction items using itemsInduction with
  | nil => cases h
  | list inner rest hinner hrest => exact (List.mem_append.mp h).elim hinner hrest
  | other w rest hw hrest =>
    rw [itemLeaves, leaves_of_not_list hw, List.singleton_append, List.mem_cons] at h
    rcases h with rfl | h
    · exact hw
    · exact hrest h

/-- All levels away, the leaves are left. -/
theorem flattenItems_none (items : List Value) : flattenItems none items = itemLeaves items := by
  induction items using itemsInduction with
  | nil => rfl
  | list inner rest hinner hrest => rw [flattenItems, flattenItem, hinner, hrest, itemLeaves, leaves]
  | other v rest hv hrest =>
    rw [flattenItems, flattenItem_of_not_list hv, hrest, itemLeaves, leaves_of_not_list hv]

/-- **So many levels are gone.** -/
theorem itemsNesting_flattenItems (n : ℕ) (items : List Value) :
    itemsNesting (flattenItems (some n) items) = itemsNesting items - n := by
  induction items using itemsInduction generalizing n with
  | nil => simp [flattenItems, itemsNesting]
  | list inner rest hinner hrest =>
    rw [flattenItems, itemsNesting_append, hrest, itemsNesting, nesting]
    cases n with
    | zero => simp [flattenItem, itemsNesting, nesting]
    | succ n =>
      rw [flattenItem, hinner]
      omega
  | other v rest hv hrest =>
    rw [flattenItems, itemsNesting_append, hrest, itemsNesting, flattenItem_of_not_list hv,
      itemsNesting, nesting_eq_zero_iff.mpr hv]
    simp [itemsNesting]

theorem not_isList_iff (n : ℕ) (items : List Value) :
    (∀ v ∈ flattenItems (some n) items, v.isList = false) ↔ itemsNesting items ≤ n := by
  rw [← itemsNesting_eq_zero_iff, itemsNesting_flattenItems, Nat.sub_eq_zero_iff_le]

end Value

namespace Expr

theorem returns_flatten_usual {ambient : Ambient} (l : List Value) :
    Returns ambient .flatten [.list l]
      (.list (Value.flattenItems (some Collection.defaultDepth) l)) := by
  have hchecked : Checked (some .listThenIntegers) 0 [.list l] := ⟨⟨constant .null, rfl⟩, trivial⟩
  exact returns_of_apply rfl rfl hchecked rfl

/-- **Flattening by levels.**  Levels add up, for the operator as long as their number has 64 bits;
the leaves stay as they are; and no list is left when there are no limits, and otherwise exactly
when there are no more lists inside each other than levels.  The operator takes as many levels away
as its operand is taken for, and the usual ones without an operand. -/
theorem flatten_levels (ambient : Ambient) :
    (∀ (l : List Value) (a b : Option ℕ), Value.flattenItems b (Value.flattenItems a l) =
      Value.flattenItems (Option.map₂ (· + ·) a b) l) ∧
    (∀ (l : List Value) (d : Option ℕ),
      Value.itemLeaves (Value.flattenItems d l) = Value.itemLeaves l) ∧
    (∀ l : List Value, (∀ v ∈ Value.itemLeaves l, v.isList = false) ∧
      ∀ v ∈ Value.flattenItems none l, v.isList = false) ∧
    (∀ (l : List Value) (n : ℕ), (∀ v ∈ Value.flattenItems (some n) l, v.isList = false) ↔
      Value.itemsNesting l ≤ n) ∧
    (∀ l : List Value, Returns ambient .flatten [.list l]
      (.list (Value.flattenItems (some Collection.defaultDepth) l))) ∧
    (∀ (l : List Value) (v : Value) (k : ℤ), v.whole? = some k →
      Returns ambient .flatten [.list l, v]
        (.list (Value.flattenItems (some (takenFor k).toNat) l))) ∧
    ∀ (l : List Value) (u v w : Value) (a b : ℕ), u.whole? = some (a : ℤ) →
      v.whole? = some (b : ℤ) → w.whole? = some ((a + b : ℕ) : ℤ) → FitsInt64 (a + b : ℕ) → ∃ r,
        Returns ambient .flatten [.list l, w] (.list r) ∧
        ∀ cs c s t s', Operands cs s [.list l, u] t → c.evaluate.outcome t = (.ok v, s') →
          (operation ambient .flatten [operation ambient .flatten cs, c]).evaluate.outcome s =
            (.ok (.list r), s') := by
  refine ⟨fun l a b => Value.flattenItems_flattenItems a b l,
    fun l d => Value.itemLeaves_flattenItems d l, fun l => ⟨?_, ?_⟩,
    fun l n => Value.not_isList_iff n l, returns_flatten_usual, fun l v k h => returns_flatten h l,
    ?_⟩
  · exact fun v => Value.isList_of_mem_itemLeaves
  · rw [Value.flattenItems_none]
    exact fun v => Value.isList_of_mem_itemLeaves
  · intro l u v w a b hu hv hw hfits
    have hlevels : ∀ n : ℕ, n ≤ a + b → (takenFor n).toNat = n := by
      intro n hn
      have hn' : FitsInt64 n := by
        unfold FitsInt64 int64Min int64Max at *
        omega
      rw [takenFor_eq_self_iff.mpr hn', Int.toNat_natCast]
    have hsum : Returns ambient .flatten [.list l, w] _ := returns_flatten hw l
    rw [hlevels (a + b) le_rfl] at hsum
    refine ⟨_, hsum, fun cs c s t s' hcs hc => ?_⟩
    have hfirst : Returns ambient .flatten [.list l, u] _ := returns_flatten hu l
    rw [hlevels a (Nat.le_add_right a b)] at hfirst
    have hinner := hfirst cs s t hcs
    have houter : Returns ambient .flatten [.list (Value.flattenItems (some a) l), v] _ :=
      returns_flatten hv _
    rw [hlevels b (Nat.le_add_left b a), Value.flattenItems_flattenItems] at houter
    exact houter _ s s' (.cons hinner (.cons hc .nil))

/-- One level and one more are two levels of a ragged list. -/
theorem flatten_levels_ragged :
    let ambient : Ambient := .still
    let l : List Value := [.list [.number 1, .list [.null, .list [.text "a"]]], .number 2]
    (∃ r, Returns ambient .flatten [.list l, .number 2] (.list r) ∧
      (operation ambient .flatten
        [operation ambient .flatten [constant (.list l), constant (.number 1)],
          constant (.number 1)]).evaluate.outcome .null = (.ok (.list r), .null)) ∧
    Returns ambient .flatten [.list l, .number 3]
      (.list [.number 1, .null, .text "a", .number 2]) := by
  intro ambient l
  obtain ⟨-, -, -, -, -, hoperator, hnested⟩ := flatten_levels ambient
  have hone : (Value.number 1).whole? = some ((1 : ℕ) : ℤ) := by decide +kernel
  have htwo : (Value.number 2).whole? = some ((1 + 1 : ℕ) : ℤ) := by decide +kernel
  have hthree : (Value.number 3).whole? = some 3 := by decide +kernel
  constructor
  · obtain ⟨r, hr, hcall⟩ := hnested l _ _ _ 1 1 hone hone htwo (by decide)
    exact ⟨r, hr, hcall _ _ _ _ _ (.constant [.list l, .number 1] .null)
      (by rw [evaluate_constant]; rfl)⟩
  · exact hoperator l _ 3 hthree

/-- A number of levels that does not fit 64 bits takes no level away, although it is more than
enough. -/
theorem levels_beyond_int64 :
    let ambient : Ambient := .still
    let l : List Value := [.list [.number 1]]
    let v : Value := .number 1e19
    v.whole? = some (10 ^ 19) ∧ Value.itemsNesting l ≤ 10 ^ 19 ∧
      Value.flattenItems (some (10 ^ 19)) l = [.number 1] ∧
      (operation ambient .flatten [constant (.list l), constant v]).evaluate.outcome .null =
        (.ok (.list l), .null) ∧
      ∃ w ∈ l, w.isList = true := by
  intro ambient l v
  have hv : v.whole? = some (10 ^ 19) := by decide +kernel
  have hcall : Returns ambient .flatten [.list l, v] _ := returns_flatten hv l
  have hnone : (takenFor (10 ^ 19)).toNat = 0 := by decide
  rw [hnone, Value.flattenItems_zero] at hcall
  exact ⟨hv, by decide, rfl, hcall _ _ _ (.constant [.list l, v] .null), _,
    List.mem_singleton_self _, rfl⟩

end Expr

end StateExpr
