import StateExpr.Proofs.Equality
import StateExpr.Proofs.Outcome
import StateExpr.Proofs.Resolution
/-!
# Operands of comparisons

A comparison is false when its operands are of mixed kinds.  Which kind is expected is told by the
first operand, null or not, so a null in front expects that nothing else is a number.  Equality
does not notice it, because null equals no number; inequality does.

Main statements: `mixedKinds_iff` and `Expr.operands_swap`.
-/

namespace StateExpr

/-! ## Kinds of operands -/

/-- Among the operands that are not null there are numbers and others. -/
def Mixed (operands : List Value) : Prop :=
  (∃ v ∈ operands, v.isNumber = true) ∧ ∃ v ∈ operands, v.isNull = false ∧ v.isNumber = false

/-- The first operand is null. -/
def StartsWithNull (operands : List Value) : Prop := ∃ rest, operands = .null :: rest

theorem isNull_iff {v : Value} : v.isNull = true ↔ v = .null := by
  cases v <;> simp [Value.isNull]

theorem isNumber_iff {v : Value} : v.isNumber = true ↔ ∃ x, v = .number x := by
  cases v <;> simp [Value.isNumber]

theorem isNull_of_isNumber {v : Value} (h : v.isNumber = true) : v.isNull = false := by
  obtain ⟨x, rfl⟩ := isNumber_iff.mp h
  rfl

/-- **The kinds are mixed as the rule has it, or a null in front of a number makes them so.** -/
theorem mixedKinds_iff {operands : List Value} : mixedKinds operands = true ↔
    Mixed operands ∨ StartsWithNull operands ∧ ∃ v ∈ operands, v.isNumber = true := by
  cases operands with
  | nil => simp [mixedKinds, Mixed]
  | cons first rest =>
    simp only [mixedKinds, List.any_eq_true, Bool.and_eq_true, Bool.not_eq_true', bne_iff_ne, ne_eq]
    constructor
    · rintro ⟨v, hv, hnull, hkind⟩
      cases hfirst : first.isNumber with
      | true =>
        rw [hfirst, Bool.not_eq_true] at hkind
        exact .inl ⟨⟨first, List.mem_cons_self, hfirst⟩, v, hv, hnull, hkind⟩
      | false =>
        rw [hfirst, Bool.not_eq_false] at hkind
        cases hnone : first.isNull with
        | true => exact .inr ⟨⟨rest, by rw [isNull_iff.mp hnone]⟩, v, hv, hkind⟩
        | false => exact .inl ⟨⟨v, hv, hkind⟩, first, List.mem_cons_self, hnone, hfirst⟩
    · rintro (⟨⟨v, hv, hnumber⟩, w, hw, hnull, hother⟩ | ⟨⟨_, heq⟩, v, hv, hnumber⟩)
      · cases hfirst : first.isNumber with
        | true => exact ⟨w, hw, hnull, by simp [hother]⟩
        | false => exact ⟨v, hv, isNull_of_isNumber hnumber, by simp [hnumber]⟩
      · obtain ⟨rfl, -⟩ := List.cons.inj heq
        exact ⟨v, hv, isNull_of_isNumber hnumber, by rw [hnumber]; exact nofun⟩

theorem Mixed.perm {vs ws : List Value} (h : vs.Perm ws) (hmixed : Mixed vs) : Mixed ws := by
  obtain ⟨⟨v, hv, hnumber⟩, w, hw, hother⟩ := hmixed
  exact ⟨⟨v, h.mem_iff.mp hv, hnumber⟩, w, h.mem_iff.mp hw, hother⟩

/-- Apart from a null in front, the order of the operands does not matter. -/
theorem mixedKinds_perm {vs ws : List Value} (h : vs.Perm ws)
    (hfront : StartsWithNull vs ↔ StartsWithNull ws) : mixedKinds vs = mixedKinds ws := by
  have hmixed : Mixed vs ↔ Mixed ws := ⟨.perm h, .perm h.symm⟩
  have hnumber : (∃ v ∈ vs, v.isNumber = true) ↔ ∃ v ∈ ws, v.isNumber = true := by
    simp only [h.mem_iff]
  rw [Bool.eq_iff_iff, mixedKinds_iff, mixedKinds_iff, hmixed, hfront, hnumber]

/-! ## Two operands -/

/-- One of two operands is null and the other one is a number. -/
def NullBesideNumber (v w : Value) : Prop :=
  v = .null ∧ w.isNumber = true ∨ v.isNumber = true ∧ w = .null

theorem mixedKinds_swap_iff {v w : Value} :
    mixedKinds [v, w] = mixedKinds [w, v] ↔ ¬ NullBesideNumber v w := by
  unfold NullBesideNumber
  cases v <;> cases w <;> simp [mixedKinds, Value.isNull, Value.isNumber]

namespace Comparison

variable {shared : Value → Bool} {v w : Value}

/-- Whether a test holds of two operands: it does not when they are of mixed kinds. -/
def holds (test : List Value → Bool) (v w : Value) : Bool := !mixedKinds [v, w] && test [v, w]

theorem equal_swap (hv : v.Keyed) (hw : w.Keyed) : equal shared [v, w] = equal shared [w, v] := by
  rw [equal_eq, equal_eq]
  exact Value.beqIn_comm hv hw

/-- Null beside a number is not equal to it, mixed kinds or not. -/
theorem holds_equal_swap (hv : v.Keyed) (hw : w.Keyed) :
    holds (equal shared) v w = holds (equal shared) w v := by
  by_cases hnull : NullBesideNumber v w
  · have differ : ∀ a b : Value, NullBesideNumber a b → equal shared [a, b] = false := by
      rintro a b (⟨rfl, hb⟩ | ⟨ha, rfl⟩)
      · obtain ⟨x, rfl⟩ := isNumber_iff.mp hb
        rfl
      · obtain ⟨x, rfl⟩ := isNumber_iff.mp ha
        rfl
    have hnull' : NullBesideNumber w v := hnull.symm.imp And.symm And.symm
    simp only [holds, differ v w hnull, differ w v hnull', Bool.and_false]
  · simp only [holds, mixedKinds_swap_iff.mpr hnull, equal_swap hv hw]

/-- Null beside a number differs from it only when it is the second operand. -/
theorem holds_notEqual_swap_iff (hv : v.Keyed) (hw : w.Keyed) :
    holds (notEqual shared) v w = holds (notEqual shared) w v ↔ ¬ NullBesideNumber v w := by
  constructor
  · intro h
    rintro (⟨rfl, hnumber⟩ | ⟨hnumber, rfl⟩)
    all_goals
      obtain ⟨x, rfl⟩ := isNumber_iff.mp hnumber
      cases h
  · intro hnull
    simp only [holds, mixedKinds_swap_iff.mpr hnull, notEqual, equal_swap hv hw]

/-- A test of what two operands came to: it does not hold when one of them failed. -/
def holdsOf (test : List Value → Bool) : Except EvalError Value → Except EvalError Value → Bool
  | .ok v, .ok w => holds test v w
  | _, _ => false

section

variable {x y : Except EvalError Value} (hx : Yields Value.Keyed x) (hy : Yields Value.Keyed y)
include hx hy

theorem holdsOf_equal_swap : holdsOf (equal shared) x y = holdsOf (equal shared) y x := by
  cases x with
  | error e => cases y <;> rfl
  | ok v =>
    cases y with
    | error e => rfl
    | ok w => exact holds_equal_swap (hx v rfl) (hy w rfl)

theorem holdsOf_notEqual_swap_iff :
    holdsOf (notEqual shared) x y = holdsOf (notEqual shared) y x ↔
      ∀ v w, x = .ok v → y = .ok w → ¬ NullBesideNumber v w := by
  cases x with
  | error e => cases y <;> exact iff_of_true rfl nofun
  | ok v =>
    cases y with
    | error e => exact iff_of_true rfl nofun
    | ok w =>
      have hswap : holds (notEqual shared) v w = holds (notEqual shared) w v ↔ _ :=
        holds_notEqual_swap_iff (hx v rfl) (hy w rfl)
      constructor
      · rintro h _ _ ⟨⟩ ⟨⟩
        exact hswap.mp h
      · exact fun h => hswap.mpr (h v w rfl rfl)

end

end Comparison

namespace Expr

open Comparison

/-- A comparison of two operands. -/
def comparing (ambient : Ambient) (op : Operator) (a b : Expr) : Expr :=
  withEvaluator (op.evaluator ambient) [a, b]

variable (ambient : Ambient) {op : Operator} {test : List Value → Bool} {a b : Expr} {s : Value}

theorem arguments_of_two {m n : Meaning Value} {x y : Except EvalError Value}
    (hm : m.value s = (x, s)) (hn : n.value s = (y, s)) :
    Meaning.arguments none [m, n] s = (x.bind fun v => y.map fun w => [v, w], s) := by
  unfold Meaning.arguments Meaning.argumentsFrom Meaning.argumentsFrom
  rw [Action.bind_apply, hm]
  cases x with
  | error e => rfl
  | ok v =>
    dsimp only [Option.bind_none]
    rw [Action.bind_apply, Action.bind_apply, hn]
    cases y <;> rfl

/-- A comparison is false when an operand fails or the kinds are mixed, else it is its test. -/
theorem runNode_comparison {e : Expr} {ms : List (Meaning Value)}
    {x : Except EvalError (List Value)} {s' : Value}
    (he : e.evaluator.strategy = .comparison test none)
    (hargs : Meaning.arguments none ms s = (x, s')) :
    runNode .nested e ms s =
      (.ok (.bool (x.toOption.any fun args => !mixedKinds args && test args)), s') := by
  simp only [runNode, he]
  rw [Action.bind_apply, Action.attempt, hargs]
  cases x <;> rfl

/-- Operands that leave the state alone are both evaluated in it, whichever comes first. -/
theorem comparing_outcome (hop : (op.evaluator ambient).strategy = .comparison test none)
    (hplain : op.isComprehension = false) (ha : (a.evaluate.outcome s).2 = s)
    (hb : (b.evaluate.outcome s).2 = s) :
    (comparing ambient op a b).evaluate.outcome s =
      (.ok (.bool (holdsOf test (a.evaluate.outcome s).1 (b.evaluate.outcome s).1)), s) := by
  have hrun : (comparing ambient op a b).evaluate = runNode .nested (comparing ambient op a b)
      [a.meaning .nested resolvingAction?, b.meaning .nested resolvingAction?] :=
    evaluate_withEvaluator ambient hplain [a, b]
  have hargs := arguments_of_two (m := a.meaning .nested resolvingAction?)
    (n := b.meaning .nested resolvingAction?) (x := (a.evaluate.outcome s).1)
    (y := (b.evaluate.outcome s).1) (Prod.ext rfl ha) (Prod.ext rfl hb)
  rw [hrun, Action.outcome, runNode_comparison (e := comparing ambient op a b) hop hargs]
  cases (a.evaluate.outcome s).1 with
  | error e => rfl
  | ok v => cases (b.evaluate.outcome s).1 <;> rfl

/-- **What the order of operands does to a comparison.**  Kinds are mixed when the operands that are
not null include a number and something else, and also when there is a number behind a null in
front; their order does not matter otherwise.  Of two operands that change nothing, equality is the
same both ways; inequality is the same both ways unless one of them is null and the other one a
number. -/
theorem operands_swap :
    (∀ operands, mixedKinds operands = true ↔
      Mixed operands ∨ StartsWithNull operands ∧ ∃ v ∈ operands, v.isNumber = true) ∧
    (∀ vs ws : List Value, vs.Perm ws → (StartsWithNull vs ↔ StartsWithNull ws) →
      mixedKinds vs = mixedKinds ws) ∧
    ∀ (a b : Expr) (s : Value), (a.evaluate.outcome s).2 = s → (b.evaluate.outcome s).2 = s →
      Yields Value.Keyed (a.evaluate.outcome s).1 → Yields Value.Keyed (b.evaluate.outcome s).1 →
      (comparing ambient .equal a b).evaluate.outcome s
        = (comparing ambient .equal b a).evaluate.outcome s ∧
      ((comparing ambient .notEqual a b).evaluate.outcome s
          = (comparing ambient .notEqual b a).evaluate.outcome s ↔
        ∀ v w, (a.evaluate.outcome s).1 = .ok v → (b.evaluate.outcome s).1 = .ok w →
          ¬ NullBesideNumber v w) := by
  refine ⟨fun _ => mixedKinds_iff, fun _ _ => mixedKinds_perm, ?_⟩
  intro a b s ha hb hkeyed hkeyed'
  have run : ∀ {op : Operator} {test : List Value → Bool},
      (op.evaluator ambient).strategy = .comparison test none → op.isComprehension = false →
        ((comparing ambient op a b).evaluate.outcome s
            = (comparing ambient op b a).evaluate.outcome s ↔
          holdsOf test (a.evaluate.outcome s).1 (b.evaluate.outcome s).1
            = holdsOf test (b.evaluate.outcome s).1 (a.evaluate.outcome s).1) := by
    intro op test hop hplain
    rw [comparing_outcome ambient hop hplain ha hb, comparing_outcome ambient hop hplain hb ha]
    simp only [Prod.mk.injEq, Except.ok.injEq, Value.bool.injEq, and_true]
  constructor
  · exact (run rfl rfl).mpr (holdsOf_equal_swap hkeyed hkeyed')
  · exact (run rfl rfl).trans (holdsOf_notEqual_swap_iff hkeyed hkeyed')

/-- A text beside null and a number is mixed in any order, and null equals no number. -/
theorem operands_swap_null_and_number :
    let ambient : Ambient := .still
    mixedKinds [.text "a", .null, .number 1] = mixedKinds [.number 1, .null, .text "a"] ∧
      (comparing ambient .equal (accessor "n" none) (constant (.number 1))).evaluate.outcome .null =
        (comparing ambient .equal (constant (.number 1))
          (accessor "n" none)).evaluate.outcome .null := by
  intro ambient
  obtain ⟨-, hperm, hswap⟩ := operands_swap ambient
  constructor
  · refine hperm _ _ (List.reverse_perm _).symm (iff_of_false ?_ ?_)
    all_goals
      rintro ⟨rest, h⟩
      cases h
  · refine (hswap (accessor "n" none) (constant (.number 1)) .null rfl rfl ?_ ?_).1
    · exact .ok .null
    · exact .ok .number

/-- Null in front of a number: nothing else is there to mix with, and what differs is told equal. -/
theorem null_in_front_of_number :
    let ambient : Ambient := .still
    let unequal := fun a b => (comparing ambient .notEqual (constant a) (constant b)).evaluate
    ¬ Mixed [.null, .number 1] ∧ mixedKinds [.null, .number 1] = true ∧
      mixedKinds [.number 1, .null] = false ∧
      (unequal .null (.number 1)).outcome .null = (.ok (.bool false), .null) ∧
      (unequal (.number 1) .null).outcome .null = (.ok (.bool true), .null) := by
  refine ⟨?_, rfl, rfl, rfl, rfl⟩
  rintro ⟨-, v, hv, hnull, hnumber⟩
  rcases List.mem_pair.mp hv with rfl | rfl
  · cases hnull
  · cases hnumber

end Expr

end StateExpr
