import StateExpr.Proofs.Folding
/-!
# Calls of operators

An operator sees nothing of its operands but the values that they come to.  So what a call does can
be said of those values, whatever the operands are and however they change the state on the way.

Main statements: `Expr.returns_of_apply`, `Expr.callGives_of_applyWithError` and
`Expr.callGives_of_special`, one for each way in which operators use the values of their operands,
and `Expr.returns_iff_of_apply` and `Expr.returns_iff_of_applyWithError`, where the operands need
not have passed a check.
-/

namespace StateExpr

/-! ## Actions that change nothing -/

namespace Action

variable {σ α β : Type} {P : α → Prop} {Q : α → β → Prop}

/-- The action leaves the state as it is and gives exactly the results with a property: it fails
when nothing has it. -/
def GivesExactly (P : α → Prop) (a : Action σ α) : Prop :=
  ∀ s, ∃ x, a s = (x, s) ∧ ∀ r, x = .ok r ↔ P r

namespace GivesExactly

theorem pure (v : α) : GivesExactly (· = v) (pure v : Action σ α) :=
  fun _ => ⟨.ok v, rfl, fun _ => ⟨fun h => (Except.ok.inj h).symm, fun h => h ▸ rfl⟩⟩

theorem throw {e : EvalError} (h : ∀ r, ¬ P r) : GivesExactly P (throw e : Action σ α) :=
  fun _ => ⟨.error e, rfl, fun r => iff_of_false nofun (h r)⟩

theorem congr {P' : α → Prop} {a : Action σ α} (h : a.GivesExactly P) (hP : ∀ r, P r ↔ P' r) :
    a.GivesExactly P' := by
  intro s
  obtain ⟨x, hx, hr⟩ := h s
  exact ⟨x, hx, fun r => (hr r).trans (hP r)⟩

theorem bind {a : Action σ α} {f : α → Action σ β} (ha : a.GivesExactly P)
    (hf : ∀ x, P x → (f x).GivesExactly (Q x)) :
    (a >>= f).GivesExactly fun r => ∃ x, P x ∧ Q x r := by
  intro s
  obtain ⟨x, hx, hP⟩ := ha s
  cases x with
  | error e =>
    refine ⟨.error e, bind_of_error hx, fun r => iff_of_false nofun ?_⟩
    rintro ⟨v, hv, -⟩
    cases (hP v).mpr hv
  | ok v =>
    obtain ⟨y, hy, hQ⟩ := hf v ((hP v).mp rfl) s
    refine ⟨y, (bind_of_ok hx).trans hy, fun r => (hQ r).trans ?_⟩
    constructor
    · exact fun h => ⟨v, (hP v).mp rfl, h⟩
    · rintro ⟨w, hw, h⟩
      obtain rfl := Except.ok.inj ((hP w).mpr hw)
      exact h

end GivesExactly

end Action

/-! ## Values of operands -/

theorem checked_none (position : Nat) (vs : List Value) : Checked none position vs := by
  induction vs generalizing position with
  | nil => trivial
  | cons v vs ih => exact ⟨⟨.constant v, rfl⟩, ih (position + 1)⟩

/-- Texts pass every check that is about their kind alone. -/
theorem checked_texts {c : Check} (hc : ∀ t e position, c.fault? (.text t) e position = none)
    (position : ℕ) (ts : List String) : Checked (some c) position (ts.map .text) := by
  induction ts generalizing position with
  | nil => trivial
  | cons t ts ih => exact ⟨⟨.constant .null, hc t _ position⟩, ih (position + 1)⟩

/-- Values that pass their checks are the arguments. -/
theorem Meaning.argumentsFrom_of_values {σ : Type} {check : Option Check} {position : Nat}
    {ms : List (Meaning σ)} {vs : List Value} {s s' : σ}
    (h : (ms.mapM Meaning.value) s = (.ok vs, s')) (hchecked : Checked check position vs) :
    argumentsFrom check position ms s = (.ok vs, s') := by
  induction ms generalizing position vs s with
  | nil => exact h
  | cons m ms ih =>
    rw [List.mapM_cons] at h
    obtain ⟨v, after, hv, h⟩ := Action.bind_eq_ok h
    obtain ⟨ws, last, hws, h⟩ := Action.bind_eq_ok h
    cases h
    obtain ⟨⟨e, hfits⟩, hrest⟩ := hchecked
    have hnone : (check.bind fun c => c.fault? v m.expr position) = none := by
      cases check with
      | none => rfl
      | some c =>
        have hsame := c.fault?_isSome v m.expr e position
        rw [Option.bind_some] at hfits
        rw [hfits, Option.isSome_none, Option.isSome_eq_false_iff,
          Option.isNone_iff_eq_none] at hsame
        exact hsame
    rw [argumentsFrom, Action.bind_of_ok hv, hnone]
    exact Action.bind_of_ok (ih hws hrest)

namespace Expr

/-- The operands come to these values, one after the other, and lead from one state to another. -/
def Operands (cs : List Expr) (s : Value) (vs : List Value) (s' : Value) : Prop :=
  (cs.mapM evaluate).outcome s = (.ok vs, s')

theorem evaluate_constant (v : Value) : (constant v).evaluate = pure v := by
  have hliteral : resolvingAction? (constant v) = none := resolvingAction?_of_not_comprehension rfl
  exact congrArg Meaning.value (meaning_constant .nested hliteral)

namespace Operands

variable {c : Expr} {cs : List Expr} {v : Value} {vs : List Value} {s t s' : Value}

theorem nil : Operands [] s [] s := rfl

theorem cons (hc : c.evaluate.outcome s = (.ok v, t)) (h : Operands cs t vs s') :
    Operands (c :: cs) s (v :: vs) s' := by
  unfold Operands Action.outcome at *
  rw [List.mapM_cons, Action.bind_of_ok hc]
  exact Action.bind_of_ok h

/-- Literals are operands of any values. -/
theorem constant (vs : List Value) (s : Value) : Operands (vs.map .constant) s vs s := by
  induction vs with
  | nil => exact nil
  | cons v vs ih => exact cons (by rw [evaluate_constant]; rfl) ih

theorem uncons (h : Operands (c :: cs) s (v :: vs) s') :
    ∃ t, c.evaluate.outcome s = (.ok v, t) ∧ Operands cs t vs s' := by
  unfold Operands Action.outcome at h
  rw [List.mapM_cons] at h
  obtain ⟨u, t, hu, h⟩ := Action.bind_eq_ok h
  obtain ⟨us, last, hus, h⟩ := Action.bind_eq_ok h
  cases h
  exact ⟨t, hu, hus⟩

theorem append {ds : List Expr} {ws : List Value} (hcs : Operands cs s vs t)
    (hds : Operands ds t ws s') : Operands (cs ++ ds) s (vs ++ ws) s' := by
  unfold Operands Action.outcome at *
  rw [List.mapM_append, Action.bind_of_ok hcs, Action.bind_of_ok hds]
  rfl

theorem arguments {check : Option Check} (h : Operands cs s vs s') (hchecked : Checked check 0 vs) :
    Meaning.arguments check (cs.map (meaning .nested resolvingAction?)) s = (.ok vs, s') := by
  refine Meaning.argumentsFrom_of_values ?_ hchecked
  rw [List.mapM_map]
  exact h

/-- Arguments that pass their checks are the values of the operands. -/
theorem of_arguments {check : Option Check} {args : List Value} (h : Operands cs s vs s')
    (hargs : Meaning.arguments check (cs.map (meaning .nested resolvingAction?)) s =
      (.ok args, t)) : Checked check 0 vs := by
  have hvalues := Meaning.mapM_value_of_arguments hargs
  rw [List.mapM_map] at hvalues
  have hsame := hvalues.symm.trans h
  rw [Prod.mk.injEq, Except.ok.injEq] at hsame
  obtain rfl := hsame.1
  exact ((Meaning.argumentsFrom_gives check _ 0).of_ok hargs).2

end Operands

/-! ## Results of calls -/

variable (ambient : Ambient)

/-- Operands of these values make a call give exactly the results with a property, or fail when
nothing has it; the call itself leaves the state as it is. -/
def CallGives (op : Operator) (vs : List Value) (P : Value → Prop) : Prop :=
  ∀ cs s s', Operands cs s vs s' →
    ∃ x, (operation ambient op cs).evaluate.outcome s = (x, s') ∧ ∀ r, x = .ok r ↔ P r

/-- Operands of these values make a call give this result; the call itself leaves the state as it
is. -/
def Returns (op : Operator) (vs : List Value) (r : Value) : Prop :=
  ∀ cs s s', Operands cs s vs s' → (operation ambient op cs).evaluate.outcome s = (.ok r, s')

variable {ambient} {op : Operator} {vs : List Value} {P : Value → Prop}

theorem CallGives.returns (h : CallGives ambient op vs P) {r : Value} (hr : P r) :
    Returns ambient op vs r := by
  intro cs s s' hoperands
  obtain ⟨x, hx, hP⟩ := h cs s s' hoperands
  rw [hx, (hP r).mpr hr]

/-- Operands of some values make a call give at most one result. -/
theorem Returns.unique {r r' : Value} (h : Returns ambient op vs r)
    (h' : Returns ambient op vs r') : r = r' := by
  have hoperands := Operands.constant vs .null
  have hcall := (h _ _ _ hoperands).symm.trans (h' _ _ _ hoperands)
  rw [Prod.mk.injEq, Except.ok.injEq] at hcall
  exact hcall.1

theorem CallGives.returns_iff (h : CallGives ambient op vs P) {r : Value} :
    Returns ambient op vs r ↔ P r := by
  constructor
  · intro hr
    obtain ⟨x, hx, hP⟩ := h _ _ _ (Operands.constant vs .null)
    rw [hr _ _ _ (Operands.constant vs .null), Prod.mk.injEq] at hx
    exact (hP r).mp hx.1.symm
  · exact h.returns

theorem CallGives.congr {P' : Value → Prop} (h : CallGives ambient op vs P) (hP : ∀ r, P r ↔ P' r) :
    CallGives ambient op vs P' := by
  intro cs s s' hoperands
  obtain ⟨x, hx, hr⟩ := h cs s s' hoperands
  exact ⟨x, hx, fun r => (hr r).trans (hP r)⟩

section

variable (hplain : op.isComprehension = false)
include hplain

theorem returns_of_apply {f : List Value → Value} {check : Option Check}
    (hop : (op.evaluator ambient).strategy = .apply f check) (hchecked : Checked check 0 vs)
    {r : Value} (hr : f vs = r) : Returns ambient op vs r := by
  subst hr
  intro cs s s' hoperands
  unfold operation
  rw [evaluate_withEvaluator ambient hplain, Action.outcome, runNode, withEvaluator, evaluator, hop]
  exact Action.bind_of_ok (hoperands.arguments hchecked)

/-- A function that can fail decides what a call comes to, errors included. -/
theorem outcome_of_applyWithError {f : List Value → Except String Value} {check : Option Check}
    (hop : (op.evaluator ambient).strategy = .applyWithError f check)
    (hchecked : Checked check 0 vs) {cs : List Expr} {s s' : Value} (h : Operands cs s vs s') :
    (operation ambient op cs).evaluate.outcome s = ((f vs).mapError .failure, s') := by
  unfold operation
  rw [evaluate_withEvaluator ambient hplain, Action.outcome, runNode, withEvaluator, evaluator, hop]
  dsimp only
  rw [Action.bind_of_ok (h.arguments hchecked)]
  cases f vs <;> rfl

theorem callGives_of_applyWithError {f : List Value → Except String Value} {check : Option Check}
    (hop : (op.evaluator ambient).strategy = .applyWithError f check)
    (hchecked : Checked check 0 vs) : CallGives ambient op vs fun r => f vs = .ok r := by
  intro cs s s' hoperands
  refine ⟨_, outcome_of_applyWithError hplain hop hchecked hoperands, fun r => ?_⟩
  cases f vs with
  | ok v => simp only [Except.mapError, Except.ok.injEq]
  | error message => exact iff_of_false nofun nofun

/-- A call that gives something has checked its operands. -/
theorem checked_of_returns {check : Option Check} {body : List Value → Action Value Value}
    (hrun : ∀ cs ms, runNode .nested (operation ambient op cs) ms =
      Meaning.arguments check ms >>= body) {r : Value} (h : Returns ambient op vs r) :
    Checked check 0 vs := by
  have hoperands := Operands.constant vs .null
  have hcall := h _ _ _ hoperands
  rw [operation, evaluate_withEvaluator ambient hplain] at hcall
  obtain ⟨args, s, hargs, -⟩ := Action.bind_eq_ok ((congrFun (hrun _ _) .null).symm.trans hcall)
  exact hoperands.of_arguments hargs

theorem returns_iff_of_apply {f : List Value → Value} {check : Option Check}
    (hop : (op.evaluator ambient).strategy = .apply f check) {r : Value} :
    Returns ambient op vs r ↔ Checked check 0 vs ∧ f vs = r := by
  constructor
  · intro h
    have hrun : ∀ cs ms, runNode .nested (operation ambient op cs) ms =
        Meaning.arguments check ms >>= fun args => pure (f args) := by
      intro cs ms
      rw [runNode, operation, withEvaluator, evaluator, hop]
    have hchecked := checked_of_returns hplain hrun h
    exact ⟨hchecked, (returns_of_apply hplain hop hchecked rfl).unique h⟩
  · exact fun h => returns_of_apply hplain hop h.1 h.2

theorem returns_iff_of_applyWithError {f : List Value → Except String Value}
    {check : Option Check} (hop : (op.evaluator ambient).strategy = .applyWithError f check)
    {r : Value} : Returns ambient op vs r ↔ Checked check 0 vs ∧ f vs = .ok r := by
  constructor
  · intro h
    have hrun : ∀ cs ms, runNode .nested (operation ambient op cs) ms =
        Meaning.arguments check ms >>= fun args => .orFail (f args) := by
      intro cs ms
      rw [runNode, operation, withEvaluator, evaluator, hop]
    have hchecked := checked_of_returns hplain hrun h
    exact ⟨hchecked, (callGives_of_applyWithError hplain hop hchecked).returns_iff.mp h⟩
  · exact fun h => (callGives_of_applyWithError hplain hop h.1).returns h.2

theorem evaluate_of_special {form : Form} (hop : (op.evaluator ambient).strategy = .special form)
    (cs : List Expr) : (operation ambient op cs).evaluate = runForm .nested
      (operation ambient op cs) (cs.map (meaning .nested resolvingAction?)) form := by
  unfold operation
  rw [evaluate_withEvaluator ambient hplain, runNode, withEvaluator, evaluator, hop]

/-- A form gives what it gives for all operands of these values. -/
theorem returns_of_special {form : Form} {r : Value}
    (hop : (op.evaluator ambient).strategy = .special form)
    (hform : ∀ e ms s s', Meaning.arguments none ms s = (.ok vs, s') →
      runForm .nested e ms form s = (.ok r, s')) : Returns ambient op vs r := by
  intro cs s s' hoperands
  rw [evaluate_of_special hplain hop]
  exact hform _ _ s s' (hoperands.arguments (checked_none 0 vs))

/-- A form that starts with its arguments does what it does with their values. -/
theorem outcome_of_special {form : Form} {body : Expr → List Value → Action Value Value}
    (hop : (op.evaluator ambient).strategy = .special form)
    (hform : ∀ e ms, runForm .nested e ms form = Meaning.arguments none ms >>= body e)
    {cs : List Expr} {s s' : Value} (h : Operands cs s vs s') :
    (operation ambient op cs).evaluate.outcome s = body (operation ambient op cs) vs s' := by
  rw [evaluate_of_special hplain hop, hform]
  exact Action.bind_of_ok (h.arguments (checked_none 0 vs))

theorem callGives_of_special {form : Form} {body : Expr → List Value → Action Value Value}
    (hop : (op.evaluator ambient).strategy = .special form)
    (hform : ∀ e ms, runForm .nested e ms form = Meaning.arguments none ms >>= body e)
    (hbody : ∀ e, (body e vs).GivesExactly P) : CallGives ambient op vs P := by
  intro cs s s' hoperands
  rw [outcome_of_special hplain hop hform hoperands]
  exact hbody _ s'

end

end Expr

end StateExpr
