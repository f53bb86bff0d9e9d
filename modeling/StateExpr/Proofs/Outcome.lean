import StateExpr.Proofs.Related
/-!
# Values and states afterwards

What can be said of one action by itself: `Action.Gives` of the value it gives when it does not
fail, `Action.Preserves` of the state it leads to whether it fails or not.
-/

namespace StateExpr

/-! ## What is got when nothing fails -/

/-- The result, if there is one, satisfies a predicate. -/
def Yields {ε α : Type} (P : α → Prop) (result : Except ε α) : Prop :=
  ∀ v, result = .ok v → P v

namespace Yields

variable {ε α β : Type} {P : α → Prop} {Q : β → Prop}

theorem ok {v : α} (h : P v) : Yields P (.ok v : Except ε α) := by
  intro w hw
  obtain rfl := Except.ok.inj hw
  exact h

theorem error {e : ε} : Yields P (.error e) := nofun

theorem map {f : α → β} (h : ∀ x, Q (f x)) (result : Except ε α) : Yields Q (result.map f) := by
  cases result with
  | ok x => exact ok (h x)
  | error e => exact error

theorem bind {f : α → Except ε β} (h : ∀ x, Yields Q (f x)) (result : Except ε α) :
    Yields Q (result >>= f) := by
  cases result with
  | ok x => exact h x
  | error e => exact error

end Yields

namespace Action

variable {σ α β : Type} {P : α → Prop} {Q : β → Prop}

section Bind

variable {a : Action σ α} {f : α → Action σ β} {s s' : σ}

theorem outcome_cases (a : Action σ α) (s : σ) :
    (∃ x s', a s = (.ok x, s')) ∨ ∃ e s', a s = (.error e, s') := by
  obtain ⟨result, s'⟩ := a s
  cases result with
  | ok x => exact .inl ⟨x, s', rfl⟩
  | error e => exact .inr ⟨e, s', rfl⟩

theorem bind_of_ok {x : α} (h : a s = (.ok x, s')) : (a >>= f) s = f x s' := by
  rw [bind_apply, h]

theorem bind_of_error {e : EvalError} (h : a s = (.error e, s')) :
    (a >>= f) s = (.error e, s') := by
  rw [bind_apply, h]

theorem bind_eq_ok {y : β} (h : (a >>= f) s = (.ok y, s')) :
    ∃ x after, a s = (.ok x, after) ∧ f x after = (.ok y, s') := by
  rcases outcome_cases a s with ⟨x, after, hx⟩ | ⟨e, after, he⟩
  · exact ⟨x, after, hx, (bind_of_ok hx).symm.trans h⟩
  · cases (bind_of_error he).symm.trans h

end Bind

/-- The outcome from any state, if it is no error, satisfies a predicate. -/
def Gives (P : α → Prop) (a : Action σ α) : Prop := ∀ s, Yields P (a s).1

namespace Gives

theorem pure {v : α} (h : P v) : Gives P (pure v : Action σ α) := fun _ => .ok h

theorem throw {e : EvalError} : Gives P (throw e : Action σ α) := fun _ => .error

theorem of_ok {a : Action σ α} {s s' : σ} {x : α} (h : a.Gives P) (hx : a s = (.ok x, s')) : P x :=
  h s x (congrArg Prod.fst hx)

theorem bind {a : Action σ α} {f : α → Action σ β} (ha : a.Gives P)
    (hf : ∀ x, P x → (f x).Gives Q) : (a >>= f).Gives Q := by
  intro s
  rcases outcome_cases a s with ⟨x, after, hx⟩ | ⟨e, after, he⟩
  · rw [bind_of_ok hx]
    exact hf x (ha.of_ok hx) after
  · rw [bind_of_error he]
    exact .error

/-- What follows need only agree on the values that can come before it. -/
theorem bind_congr {a : Action σ α} {f g : α → Action σ β} (ha : a.Gives P)
    (hfg : ∀ x, P x → f x = g x) : a >>= f = a >>= g := by
  funext s
  rcases outcome_cases a s with ⟨x, after, hx⟩ | ⟨e, after, he⟩
  · rw [bind_of_ok hx, bind_of_ok hx, hfg x (ha.of_ok hx)]
  · rw [bind_of_error he, bind_of_error he]

/-- What comes last decides. -/
theorem andThen {f : α → Action σ β} (hf : ∀ x, (f x).Gives Q) (a : Action σ α) :
    (a >>= f).Gives Q :=
  bind (P := fun _ => True) (fun _ _ _ => trivial) fun x _ => hf x

theorem orFail {result : Except String α} (h : Yields P result) :
    (Action.orFail result : Action σ α).Gives P := by
  cases result with
  | ok x => exact pure (h x rfl)
  | error message => exact throw

end Gives

/-! ## The state afterwards -/

variable {I : σ → Prop}

/-- From states with the property the action leads to states with it, whatever its outcome. -/
def Preserves (I : σ → Prop) (a : Action σ α) : Prop := ∀ s, I s → I (a s).2

/-- The same state on both sides, with the property. -/
def Same (I : σ → Prop) (s t : σ) : Prop := s = t ∧ I s

namespace Preserves

theorem related {a : Action σ α} {R : α → α → Prop} (hR : ∀ x, R x x) (h : a.Preserves I) :
    Related (Same I) R a a := by
  rintro s _ ⟨rfl, hs⟩
  refine ⟨?_, rfl, h s hs⟩
  cases (a s).1 with
  | ok x => exact .ok (hR x)
  | error e => exact .error rfl

theorem of_related {a : Action σ α} {R : α → α → Prop} (h : Related (Same I) R a a) :
    a.Preserves I :=
  fun s hs => (h s s ⟨rfl, hs⟩).2.2

theorem pure (x : α) : Preserves I (pure x : Action σ α) := fun _ hs => hs

/-- What follows has to preserve the property for the values that can come before it. -/
theorem bind {a : Action σ α} {f : α → Action σ β} (ha : a.Preserves I) (hgives : a.Gives P)
    (hf : ∀ x, P x → (f x).Preserves I) : (a >>= f).Preserves I := by
  intro s hs
  have after := ha s hs
  rcases outcome_cases a s with ⟨x, s', hx⟩ | ⟨e, s', he⟩
  · rw [bind_of_ok hx]
    rw [hx] at after
    exact hf x (hgives.of_ok hx) s' after
  · rw [bind_of_error he]
    rw [he] at after
    exact after

/-- What comes first must preserve the property too, whatever it gives. -/
theorem andThen {a : Action σ α} {f : α → Action σ β} (ha : a.Preserves I)
    (hf : ∀ x, (f x).Preserves I) : (a >>= f).Preserves I :=
  ha.bind (P := fun _ => True) (fun _ _ _ => trivial) fun x _ => hf x

end Preserves

end Action

end StateExpr
