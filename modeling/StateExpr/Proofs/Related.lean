import StateExpr.Eval.Action
/-!
# Related actions

Two actions, perhaps over different kinds of state, are related when from related states they give
alike outcomes and end in related states.  Outcomes are alike when both are values that are
related, or both are errors of one kind; what the messages say is left out.

Main statements: `Action.Related.bind`, and one rule for every other way to make an action.
-/

namespace StateExpr

/-- What went wrong, without the message. -/
inductive ErrorKind where
  | argument | reference | failure
deriving Repr, DecidableEq

def EvalError.kind : EvalError → ErrorKind
  | .argument _ => .argument
  | .reference _ => .reference
  | .failure _ => .failure

/-- Related values, or errors of one kind. -/
inductive Alike {α β : Type} (P : α → β → Prop) : Except EvalError α → Except EvalError β → Prop
  | ok {a b} (h : P a b) : Alike P (.ok a) (.ok b)
  | error {e f : EvalError} (h : e.kind = f.kind) : Alike P (.error e) (.error f)

theorem Alike.mono {α β : Type} {P Q : α → β → Prop} {x : Except EvalError α}
    {y : Except EvalError β} (hpq : ∀ a b, P a b → Q a b) (h : Alike P x y) : Alike Q x y := by
  cases h with
  | ok h => exact .ok (hpq _ _ h)
  | error h => exact .error h

theorem Alike.refl {α : Type} (x : Except EvalError α) : Alike Eq x x := by
  cases x with
  | ok a => exact .ok rfl
  | error e => exact .error rfl

/-- The same value or errors of one kind, and the same state afterwards. -/
def SameOutcome {σ α : Type} (x y : Except EvalError α × σ) : Prop :=
  Alike Eq x.1 y.1 ∧ x.2 = y.2

namespace Action

variable {σ τ α β γ δ : Type} {R : σ → τ → Prop} {P : α → β → Prop}

theorem bind_apply (a : Action σ α) (f : α → Action σ β) (s : σ) :
    (a >>= f) s = match a s with
      | (.ok x, after) => f x after
      | (.error e, after) => (.error e, after) := by
  change (ExceptT.bindCont f (a s).1) (a s).2 = _
  cases h : a s with
  | mk result after => cases result <;> rfl

/-- From related states, alike outcomes and related states. -/
def Related (R : σ → τ → Prop) (P : α → β → Prop) (a : Action σ α) (b : Action τ β) : Prop :=
  ∀ s t, R s t → Alike P (a s).1 (b t).1 ∧ R (a s).2 (b t).2

namespace Related

theorem pure {a : α} {b : β} (h : P a b) : Related R P (pure a) (pure b) :=
  fun _ _ hr => ⟨.ok h, hr⟩

theorem throw {e f : EvalError} (h : e.kind = f.kind) :
    Related R P (throw e) (throw f) :=
  fun _ _ hr => ⟨.error h, hr⟩

theorem get : Related R R get get :=
  fun _ _ hr => ⟨.ok hr, hr⟩

theorem bind {Q : γ → δ → Prop} {a : Action σ α} {b : Action τ β} {f : α → Action σ γ}
    {g : β → Action τ δ} (h : Related R P a b) (hfg : ∀ x y, P x y → Related R Q (f x) (g y)) :
    Related R Q (a >>= f) (b >>= g) := by
  intro s t hr
  obtain ⟨alike, after⟩ := h s t hr
  rw [bind_apply, bind_apply]
  generalize a s = x at alike after
  generalize b t = y at alike after
  obtain ⟨x, s'⟩ := x
  obtain ⟨y, t'⟩ := y
  cases alike with
  | ok hp => exact hfg _ _ hp s' t' after
  | error he => exact ⟨.error he, after⟩

theorem refl (a : Action σ α) : Related Eq Eq a a := by
  rintro s _ rfl
  exact ⟨.refl _, rfl⟩

/-- Keeping the outcome as a value never fails. -/
theorem attempt {a : Action σ α} {b : Action τ β} (h : Related R P a b) :
    Related R (Alike P) a.attempt b.attempt := by
  intro s t hr
  obtain ⟨alike, after⟩ := h s t hr
  exact ⟨.ok alike, after⟩

theorem mono {Q : α → β → Prop} {a : Action σ α} {b : Action τ β} (hpq : ∀ x y, P x y → Q x y)
    (h : Related R P a b) : Related R Q a b :=
  fun s t hr => ⟨(h s t hr).1.mono hpq, (h s t hr).2⟩

theorem present (message : String) (x : Option α) :
    Related R Eq (.present message x : Action σ α) (.present message x : Action τ α) := by
  cases x with
  | none => exact throw rfl
  | some a => exact pure rfl

theorem orFail (x : Except String α) :
    Related R Eq (.orFail x : Action σ α) (.orFail x : Action τ α) := by
  cases x with
  | ok a => exact pure rfl
  | error message => exact throw rfl

end Related

end Action

end StateExpr
