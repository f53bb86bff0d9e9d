import StateExpr.Proofs.Resolution
/-!
# Truth of operands

And, or and not do not fail: an operand that fails counts as false in all three of them.  So each of
them is the Boolean operation of its name on the truths of its operands, which are asked for one
after the other, in a state that each of them may change, as long as the answer is open.

Main statements: `Expr.runAnd_eq`, `Expr.runOr_eq`, `Expr.runNot_eq` and `Expr.boolean_algebra`.
-/

namespace StateExpr

/-! ## Tests one after the other -/

section Tests

variable {m : Type → Type} [Monad m] [LawfulMonad m] {α : Type} {p : α → m Bool}

theorem not_anyM_not (p : α → m Bool) (as : List α) :
    (! ·) <$> as.anyM (fun a => (! ·) <$> p a) = as.allM p :=
  List.allM_eq_not_anyM_not.symm

theorem not_anyM (p : α → m Bool) (as : List α) :
    (! ·) <$> as.anyM p = as.allM fun a => (! ·) <$> p a := by
  rw [List.allM_eq_not_anyM_not]
  simp only [Functor.map_map, Bool.not_not, id_map']

theorem not_allM (p : α → m Bool) (as : List α) :
    (! ·) <$> as.allM p = as.anyM fun a => (! ·) <$> p a := by
  rw [List.allM_eq_not_anyM_not]
  simp only [Functor.map_map, Bool.not_not, id_map']

omit [LawfulMonad m] in
theorem anyM_map {β : Type} (f : β → α) (bs : List β) :
    (bs.map f).anyM p = bs.anyM fun b => p (f b) := by
  induction bs with
  | nil => rfl
  | cons b bs ih => rw [List.map_cons, List.anyM_cons, List.anyM_cons, ih]

theorem allM_map {β : Type} (f : β → α) (bs : List β) :
    (bs.map f).allM p = bs.allM fun b => p (f b) := by
  rw [← not_anyM_not, anyM_map, not_anyM_not]

theorem anyM_append (as bs : List α) :
    (as ++ bs).anyM p = as.anyM p >>= fun found => if found then pure true else bs.anyM p := by
  induction as with
  | nil => simp
  | cons a as ih =>
    rw [List.cons_append, List.anyM_cons, List.anyM_cons, bind_assoc]
    congr 1
    funext found
    cases found with
    | true => simp
    | false => exact ih

/-- A test that goes through a list of its own can be left for the tests of that list. -/
theorem anyM_nested {a : α} {inner : List α} (h : p a = inner.anyM p) (before after : List α) :
    (before ++ a :: after).anyM p = (before ++ inner ++ after).anyM p := by
  have htail : (a :: after).anyM p = (inner ++ after).anyM p := by
    rw [anyM_append, List.anyM_cons, h]
  rw [List.append_assoc, anyM_append before, anyM_append before, htail]

theorem allM_nested {a : α} {inner : List α} (h : p a = inner.allM p) (before after : List α) :
    (before ++ a :: after).allM p = (before ++ inner ++ after).allM p := by
  have hnot : (! ·) <$> p a = inner.anyM fun a => (! ·) <$> p a := by rw [h, not_allM]
  rw [← not_anyM_not, anyM_nested hnot, not_anyM_not]

end Tests

/-! ## Operands as tests -/

namespace Action

variable {σ : Type}

/-- What an action counts as where a truth is asked for: one that fails counts as false. -/
def truth (a : Action σ Value) : StateM σ Bool :=
  fun s => ((a s).1.toOption.any Value.isTrue, (a s).2)

/-- The answer of a test, which does not fail. -/
def answer (test : StateM σ Bool) : Action σ Value :=
  fun s => (.ok (.bool (test s).1), (test s).2)

theorem truth_answer (test : StateM σ Bool) : (answer test).truth = test := rfl

theorem answer_bind {α : Type} (t : StateM σ α) (f : α → StateM σ Bool) :
    answer (t >>= f) = ExceptT.lift t >>= fun x => answer (f x) := rfl

/-- What follows from an outcome by its truth alone. -/
theorem attempt_bind {α : Type} {a : Action σ Value} {f : Except EvalError Value → Action σ α}
    {g : Bool → Action σ α} (h : ∀ r, f r = g (r.toOption.any Value.isTrue)) :
    a.attempt >>= f = ExceptT.lift a.truth >>= g :=
  funext fun s => congrFun (h (a s).1) (a s).2

end Action

namespace Expr

open StateExpr.Action (answer answer_bind attempt_bind truth truth_answer)

variable {σ : Type}

/-- **And is true when all operands are.** -/
theorem runAnd_eq (ms : List (Meaning σ)) :
    runAnd ms = answer (ms.allM fun m => m.value.truth) := by
  induction ms with
  | nil => rfl
  | cons m rest ih =>
    rw [List.allM_cons, answer_bind, runAnd]
    refine attempt_bind ?_
    intro r
    rw [apply_ite answer, ← ih]
    cases r <;> rfl

/-- **Or is true when some operand is.** -/
theorem runOr_eq (ms : List (Meaning σ)) :
    runOr ms = answer (ms.anyM fun m => m.value.truth) := by
  induction ms with
  | nil => rfl
  | cons m rest ih =>
    rw [List.anyM_cons, answer_bind, runOr]
    refine attempt_bind ?_
    intro r
    rw [apply_ite answer, ← ih]
    cases r <;> rfl

/-- **Not is true when its operand is not.** -/
theorem runNot_eq (m : Meaning σ) (rest : List (Meaning σ)) :
    runNot (m :: rest) = answer ((! ·) <$> m.value.truth) := by
  rw [← bind_pure_comp, answer_bind, runNot]
  refine attempt_bind ?_
  intro r
  cases r <;> rfl

variable (ambient : Ambient)

theorem evaluate_and (cs : List Expr) : (operation ambient .and cs).evaluate =
    answer (cs.allM fun c => c.evaluate.truth) := by
  have hrun : (operation ambient .and cs).evaluate =
      runAnd (cs.map (meaning .nested resolvingAction?)) := evaluate_withEvaluator ambient rfl cs
  rw [hrun, runAnd_eq, allM_map]
  rfl

theorem evaluate_or (cs : List Expr) : (operation ambient .or cs).evaluate =
    answer (cs.anyM fun c => c.evaluate.truth) := by
  have hrun : (operation ambient .or cs).evaluate =
      runOr (cs.map (meaning .nested resolvingAction?)) := evaluate_withEvaluator ambient rfl cs
  rw [hrun, runOr_eq, anyM_map]
  rfl

theorem evaluate_not (c : Expr) : (operation ambient .not [c]).evaluate =
    answer ((! ·) <$> c.evaluate.truth) := by
  have hrun : (operation ambient .not [c]).evaluate =
      runNot [c.meaning .nested resolvingAction?] := evaluate_withEvaluator ambient rfl [c]
  rw [hrun, runNot_eq]
  rfl

/-- An expression whose evaluation always gives a truth value, and never an error. -/
def Answers (e : Expr) : Prop := ∀ s, ∃ b s', e.evaluate.outcome s = (.ok (.bool b), s')

theorem answers_of_eq {e : Expr} {test : StateM Value Bool} (h : e.evaluate = answer test) :
    e.Answers := by
  intro s
  rw [h]
  exact ⟨_, _, rfl⟩

/-- **Boolean algebra of operands that may fail and change the state.**  What is not true of all is
what is untrue of some, what is not true of any is what is untrue of all, and an and within an and,
or an or within an or, can be left for its operands, at any place among the others: the outcome and
the state are the same.  None of these expressions fails. -/
theorem boolean_algebra :
    let all := operation ambient .and
    let any := operation ambient .or
    let no := fun c => operation ambient .not [c]
    (∀ cs s, (no (all cs)).evaluate.outcome s = (any (cs.map no)).evaluate.outcome s) ∧
    (∀ cs s, (no (any cs)).evaluate.outcome s = (all (cs.map no)).evaluate.outcome s) ∧
    (∀ before cs after s, (all (before ++ all cs :: after)).evaluate.outcome s =
      (all (before ++ cs ++ after)).evaluate.outcome s) ∧
    (∀ before cs after s, (any (before ++ any cs :: after)).evaluate.outcome s =
      (any (before ++ cs ++ after)).evaluate.outcome s) ∧
    (∀ cs, (all cs).Answers ∧ (any cs).Answers) ∧ ∀ c, (no c).Answers := by
  intro all any no
  have hall : ∀ cs, (all cs).evaluate = answer (cs.allM fun c => c.evaluate.truth) :=
    evaluate_and ambient
  have hany : ∀ cs, (any cs).evaluate = answer (cs.anyM fun c => c.evaluate.truth) :=
    evaluate_or ambient
  have hno : ∀ c, (no c).evaluate = answer ((! ·) <$> c.evaluate.truth) := evaluate_not ambient
  refine ⟨?_, ?_, ?_, ?_, ?_, ?_⟩
  · intro cs s
    rw [hno, hall, hany, anyM_map, truth_answer, not_allM]
    simp only [hno, truth_answer]
  · intro cs s
    rw [hno, hany, hall, allM_map, truth_answer, not_anyM]
    simp only [hno, truth_answer]
  · intro before cs after s
    rw [hall, hall, allM_nested]
    rw [hall, truth_answer]
  · intro before cs after s
    rw [hany, hany, anyM_nested]
    rw [hany, truth_answer]
  · exact fun cs => ⟨answers_of_eq (hall cs), answers_of_eq (hany cs)⟩
  · exact fun c => answers_of_eq (hno c)

end Expr

end StateExpr
