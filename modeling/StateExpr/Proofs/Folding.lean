import StateExpr.Proofs.Resolution
import StateExpr.Proofs.ReturnType
/-!
# Folds of operands

Sums, differences, products, quotients and powers fold their operands from the left.  Each operand
is checked as soon as it has been evaluated, before the next one is, and what a fold gives passes
its own check of the first operand.  So a fold of the operands in front can stand in front of the
others, and no property of the numbers is needed for it.

A quotient checks the operands behind the first one for zero.  Those that pass are not zero, so what
the division would be by zero is never asked for.

Main statements: `Meaning.argumentsFrom_append`, `Expr.evaluate_nested`, `Expr.divide_by_zero`,
`Expr.divides_only_by_nonzero` and `Expr.arithmetic_nests`.
-/

namespace StateExpr

open ReturnType (Includes)

/-! ## Checks of a fold -/

/-- A check of the operands of a fold: only numbers pass, in front all of them do, and behind the
front every place is like any other. -/
structure Check.OfFold (c : Check) : Prop where
  front : ∀ v e, Includes .number v → c.fault? v e 0 = none
  number : ∀ {v e position}, c.fault? v e position = none → Includes .number v
  behind : ∀ v e p q, c.fault? v e (p + 1) = c.fault? v e (q + 1)

namespace Check

theorem ofFold_number : number.OfFold where
  front := by
    rintro _ e ⟨x, rfl⟩
    rfl
  number := includes_of_number
  behind := fun _ _ _ _ => rfl

theorem ofFold_divisor : divisor.OfFold where
  front := by
    rintro _ e ⟨x, rfl⟩
    rfl
  number := includes_of_divisor
  behind := by
    intro v e p q
    simp only [fault?, Nat.zero_lt_succ, decide_true, Bool.true_and]

theorem divisor_fault?_zero {x : Float} (hx : (x == 0) = true) (e : Expr) (position : Nat) :
    divisor.fault? (.number x) e (position + 1) =
      some ("Cannot divide by 0 from " ++ e.display) := by
  simp [fault?, expect, Value.isNumber, Value.numberOrZero, hx]

end Check

/-! ## Arguments in two parts -/

namespace Meaning

variable {σ : Type} {check : Option Check} {position : Nat}

theorem argumentsFrom_append (position : Nat) (ms ns : List (Meaning σ)) :
    argumentsFrom check position (ms ++ ns) = argumentsFrom check position ms >>= fun vs =>
      (vs ++ ·) <$> argumentsFrom check (position + ms.length) ns := by
  induction ms generalizing position with
  | nil => simp [argumentsFrom]
  | cons m ms ih =>
    rw [List.cons_append, argumentsFrom, argumentsFrom, bind_assoc]
    refine bind_congr fun v => ?_
    cases check.bind fun c => c.fault? v m.expr position with
    | some message => rfl
    | none =>
      have hplace : position + 1 + ms.length = position + (m :: ms).length := by
        rw [List.length_cons]
        omega
      simp only [ih, hplace, bind_pure_comp, map_bind, bind_map_left, Functor.map_map,
        List.cons_append]

/-- Behind the front it does not matter where the arguments stand. -/
theorem argumentsFrom_behind {c : Check} (hc : c.OfFold) (ms : List (Meaning σ)) (p q : Nat) :
    argumentsFrom (some c) (p + 1) ms = argumentsFrom (some c) (q + 1) ms := by
  induction ms generalizing p q with
  | nil => rfl
  | cons m ms ih =>
    simp only [argumentsFrom, Option.bind_some, hc.behind _ _ p q, ih (p + 1) (q + 1)]

/-- Arguments that pass their checks are what they are without them. -/
theorem mapM_value_of_arguments {ms : List (Meaning σ)} {vs : List Value} {s s' : σ}
    (h : argumentsFrom check position ms s = (.ok vs, s')) :
    (ms.mapM Meaning.value) s = (.ok vs, s') := by
  induction ms generalizing position s s' vs with
  | nil => exact h
  | cons m ms ih =>
    rw [argumentsFrom] at h
    obtain ⟨v, after, hv, h⟩ := Action.bind_eq_ok h
    generalize check.bind (fun c => c.fault? v m.expr position) = fault at h
    cases fault with
    | some message => cases h
    | none =>
      obtain ⟨ws, last, hws, h⟩ := Action.bind_eq_ok h
      rw [List.mapM_cons, Action.bind_of_ok hv, Action.bind_of_ok (ih hws)]
      exact h

/-- A zero behind the front ends the evaluation of the arguments. -/
theorem argumentsFrom_zero {m : Meaning σ} {s s' : σ} {x : Float}
    (hvalue : m.value s = (.ok (.number x), s')) (hx : (x == 0) = true) (position : Nat)
    (ms : List (Meaning σ)) : argumentsFrom (some .divisor) (position + 1) (m :: ms) s =
      (.error (.argument ("Cannot divide by 0 from " ++ m.expr.display)), s') := by
  rw [argumentsFrom, Action.bind_of_ok hvalue]
  simp only [Option.bind_some, Check.divisor_fault?_zero hx]
  rfl

end Meaning

/-- No divisor that has been checked is zero. -/
theorem Checked.exists_nonzero {position : Nat} {vs : List Value}
    (h : Checked (some .divisor) (position + 1) vs) :
    ∀ v ∈ vs, ∃ x, v = .number x ∧ (x == 0) = false := by
  induction vs generalizing position with
  | nil => exact nofun
  | cons v vs ih =>
    obtain ⟨⟨e, hfits⟩, hrest⟩ := h
    obtain ⟨x, rfl⟩ := Check.ofFold_divisor.number hfits
    refine List.forall_mem_cons.mpr ⟨⟨x, rfl, ?_⟩, ih hrest⟩
    cases hx : x == 0 with
    | false => rfl
    | true =>
      rw [Option.bind_some, Check.divisor_fault?_zero hx] at hfits
      cases hfits

namespace Expr

/-! ## A fold in front of a fold -/

/-- The fold of values from the left. -/
def folded (f : Value → Value → Value) : List Value → Value
  | [] => .null
  | first :: rest => rest.foldl f first

section Folds

variable {σ : Type} {scoping : Scoping σ} {e : Expr} {f : Value → Value → Value} {c : Check}

theorem runNode_sequence {ms : List (Meaning σ)} {check : Option Check}
    (h : e.evaluator.strategy = .sequence f check) :
    runNode scoping e ms = folded f <$> Meaning.arguments check ms := by
  rw [runNode, h, ← bind_pure_comp]
  refine bind_congr fun vs => ?_
  cases vs <;> rfl

theorem folded_includes_number (hf : ∀ a b, Includes .number (f a b)) (hc : c.OfFold)
    {v : Value} {vs : List Value} (h : Checked (some c) 0 (v :: vs)) :
    Includes .number (folded f (v :: vs)) := by
  obtain ⟨⟨e, hfits⟩, -⟩ := h
  exact foldl_includes_number hf vs (hc.number hfits)

/-- **A fold of some operands can stand in front of the others.** -/
theorem folded_nested (hf : ∀ a b, Includes .number (f a b)) (hc : c.OfFold)
    {front inner : Meaning σ} {between behind : List (Meaning σ)}
    (hinner : inner.value = folded f <$> Meaning.arguments (some c) (front :: between)) :
    folded f <$> Meaning.arguments (some c) (inner :: behind) =
      folded f <$> Meaning.arguments (some c) (front :: between ++ behind) := by
  unfold Meaning.arguments at hinner ⊢
  rw [Meaning.argumentsFrom_append, Meaning.argumentsFrom, hinner, bind_map_left, map_bind,
    map_bind]
  -- with the operands in front evaluated and checked on both sides, it is left to check their fold
  refine (Meaning.argumentsFrom_gives (some c) (front :: between) 0).bind_congr ?_
  rintro vs ⟨hlength, hchecked⟩
  obtain ⟨v, vs, rfl⟩ := List.exists_cons_of_length_eq_add_one hlength
  have hpasses := hc.front _ inner.expr (folded_includes_number hf hc hchecked)
  simp only [Option.bind_some, hpasses, bind_pure_comp, Functor.map_map]
  have hplace : 0 + (front :: between).length = between.length + 1 := by
    rw [List.length_cons, Nat.zero_add]
  rw [hplace, Meaning.argumentsFrom_behind hc behind 0 between.length]
  congr 1
  funext ws
  exact List.foldl_append.symm

end Folds

theorem evaluate_folding {op : Operator} (hop : op.isComprehension = false)
    (f : Value → Value → Value) (c : Check) (cs : List Expr) :
    (withEvaluator (op.folding f c) cs).evaluate = folded f <$>
      Meaning.arguments (some c) (cs.map (meaning .nested resolvingAction?)) := by
  have hname : (withEvaluator (op.folding f c) cs).isA op = true := beq_iff_eq.mpr rfl
  have hplain := (isComprehension_of_isA hname).trans hop
  have hrun : (withEvaluator (op.folding f c) cs).evaluate =
      runNode .nested (withEvaluator (op.folding f c) cs)
        (cs.map (meaning .nested resolvingAction?)) :=
    congrArg Meaning.value (meaning_node _ (resolvingAction?_of_not_comprehension hplain))
  exact hrun.trans (runNode_sequence rfl)

/-- The operators that fold numbers. -/
def arithmetic : List Operator := [.add, .subtract, .multiply, .divide, .power]

variable (ambient : Ambient)

theorem exists_folding {op : Operator} (hop : op ∈ arithmetic) :
    ∃ f c, op.evaluator ambient = op.folding f c ∧ (∀ a b, Includes .number (f a b)) ∧
      c.OfFold ∧ op.isComprehension = false := by
  unfold arithmetic at hop
  simp only [List.mem_cons, List.not_mem_nil, or_false] at hop
  rcases hop with rfl | rfl | rfl | rfl | rfl
  · exact ⟨_, _, rfl, fun _ _ => ⟨_, rfl⟩, Check.ofFold_number, rfl⟩
  · exact ⟨_, _, rfl, fun _ _ => ⟨_, rfl⟩, Check.ofFold_number, rfl⟩
  · exact ⟨_, _, rfl, fun _ _ => ⟨_, rfl⟩, Check.ofFold_number, rfl⟩
  · exact ⟨_, _, rfl, fun _ _ => ⟨_, rfl⟩, Check.ofFold_divisor, rfl⟩
  · exact ⟨_, _, rfl, fun _ _ => ⟨_, rfl⟩, Check.ofFold_number, rfl⟩

/-- **Operands in front can be folded by an operator of their own.** -/
theorem evaluate_nested {op : Operator} (hop : op ∈ arithmetic) (front : Expr)
    (between behind : List Expr) :
    (operation ambient op (operation ambient op (front :: between) :: behind)).evaluate =
      (operation ambient op (front :: between ++ behind)).evaluate := by
  obtain ⟨f, c, heq, hf, hc, hplain⟩ := exists_folding ambient hop
  unfold operation
  rw [heq, evaluate_folding hplain, evaluate_folding hplain, List.map_append, List.map_cons,
    List.map_cons]
  exact folded_nested hf hc (evaluate_folding hplain f c (front :: between))

/-! ## Zero as a divisor -/

theorem evaluate_divide (cs : List Expr) : (operation ambient .divide cs).evaluate =
    folded Arithmetic.divide <$>
      Meaning.arguments (some .divisor) (cs.map (meaning .nested resolvingAction?)) := by
  have hplain : Operator.divide.isComprehension = false := rfl
  exact evaluate_folding hplain Arithmetic.divide .divisor cs

section Divisions

variable {f : Value → Value → Value}
  (hf : ∀ v x, (x == 0) = false → f v (.number x) = Arithmetic.divide v (.number x))

include hf

/-- **The division is never applied to zero**: what it would give there does not matter. -/
theorem divides_only_by_nonzero (cs : List Expr) :
    (withEvaluator (Operator.divide.folding f .divisor) cs).evaluate =
      (operation ambient .divide cs).evaluate := by
  rw [evaluate_divide, evaluate_folding rfl, ← bind_pure_comp, ← bind_pure_comp]
  refine (Meaning.argumentsFrom_gives (some .divisor) _ 0).bind_congr ?_
  rintro vs ⟨-, hchecked⟩
  cases vs with
  | nil => rfl
  | cons v vs =>
    refine congrArg pure (List.foldl_ext _ _ _ ?_)
    intro w d hd
    obtain ⟨x, rfl, hx⟩ := Checked.exists_nonzero hchecked.2 d hd
    exact hf w x hx

theorem nested_divides_only_by_nonzero (front : Expr) (between behind : List Expr) :
    (withEvaluator (Operator.divide.folding f .divisor)
      (withEvaluator (Operator.divide.folding f .divisor) (front :: between) :: behind)).evaluate =
      (operation ambient .divide (front :: between ++ behind)).evaluate := by
  have hinner := (divides_only_by_nonzero ambient hf (front :: between)).trans
    (evaluate_divide ambient (front :: between))
  rw [divides_only_by_nonzero ambient hf, evaluate_divide, evaluate_divide, List.map_append,
    List.map_cons, List.map_cons]
  exact folded_nested (fun _ _ => ⟨_, rfl⟩) Check.ofFold_divisor hinner

end Divisions

/-- **A zero behind the front is an error**, or one in front of it is. -/
theorem divide_by_zero {first zero : Expr} {before : List Expr} {s : Value} {x : Float}
    (hx : (x == 0) = true) (hzero : (zero.evaluate.outcome
      (((first :: before).mapM evaluate).outcome s).2).1 = .ok (.number x)) (after : List Expr) :
    ∃ e, ((operation ambient .divide (first :: before ++ zero :: after)).evaluate.outcome s).1 =
      .error e := by
  rw [evaluate_divide, Meaning.arguments, List.map_append, List.map_cons (a := zero),
    Meaning.argumentsFrom_append, map_bind, Action.outcome]
  rcases Action.outcome_cases (Meaning.argumentsFrom (some .divisor) 0
    ((first :: before).map (meaning .nested resolvingAction?))) s with
    ⟨vs, s', hfront⟩ | ⟨e, s', hfront⟩
  · have hstate : ((first :: before).mapM evaluate).outcome s = (.ok vs, s') := by
      have hvalues := Meaning.mapM_value_of_arguments hfront
      rw [List.mapM_map] at hvalues
      exact hvalues
    rw [hstate] at hzero
    have hvalue : (zero.meaning .nested resolvingAction?).value s' = (.ok (.number x), _) :=
      Prod.ext hzero rfl
    have hplace : 0 + ((first :: before).map (meaning .nested resolvingAction?)).length =
        before.length + 1 := by
      rw [List.length_map, List.length_cons, Nat.zero_add]
    rw [Action.bind_of_ok hfront, hplace, ← bind_pure_comp, ← bind_pure_comp,
      Action.bind_of_error (Action.bind_of_error (Meaning.argumentsFrom_zero hvalue hx _ _))]
    exact ⟨_, rfl⟩
  · exact ⟨e, congrArg Prod.fst (Action.bind_of_error hfront)⟩

/-- **Arithmetic of many operands is arithmetic of two.**  The operands in front can be put
together by the operator itself, with the same outcome and the same state, whatever they are and
whether or not they fail.  Of division, an operand behind the first one that is zero, of either
sign, where it is evaluated makes an error of both; and the division is never applied to zero, as
what it would give there does not matter. -/
theorem arithmetic_nests :
    (∀ op ∈ arithmetic, ∀ front between behind s,
      (operation ambient op
        (operation ambient op (front :: between) :: behind)).evaluate.outcome s =
      (operation ambient op (front :: between ++ behind)).evaluate.outcome s) ∧
    (∀ first before zero after s x, (x == 0) = true →
      (zero.evaluate.outcome (((first :: before).mapM evaluate).outcome s).2).1 =
        .ok (.number x) →
      (∃ e, ((operation ambient .divide
          (first :: before ++ zero :: after)).evaluate.outcome s).1 = .error e) ∧
        ∀ front between behind, front :: between ++ behind = first :: before ++ zero :: after →
          ∃ e, ((operation ambient .divide (operation ambient .divide (front :: between) ::
            behind)).evaluate.outcome s).1 = .error e) ∧
    ∀ f : Value → Value → Value,
      (∀ v x, (x == 0) = false → f v (.number x) = Arithmetic.divide v (.number x)) →
      let quotient := withEvaluator (Operator.divide.folding f .divisor)
      (∀ cs, (quotient cs).evaluate = (operation ambient .divide cs).evaluate) ∧
        ∀ front between behind, (quotient (quotient (front :: between) :: behind)).evaluate =
          (operation ambient .divide (front :: between ++ behind)).evaluate := by
  refine ⟨?_, ?_, fun f hf => ⟨divides_only_by_nonzero ambient hf,
    nested_divides_only_by_nonzero ambient hf⟩⟩
  · intro op hop front between behind s
    rw [evaluate_nested ambient hop]
  · intro first before zero after s x hx hzero
    have hfails := divide_by_zero ambient hx hzero after
    refine ⟨hfails, ?_⟩
    intro front between behind hsplit
    rw [evaluate_nested ambient (by decide), hsplit]
    exact hfails

/-- A quotient by a negative zero, of what the state has under a name. -/
theorem arithmetic_nests_negative_zero :
    let ambient : Ambient := .still
    let quotient := operation ambient .divide
    let n := accessor "n" none
    let two := constant (.number 2)
    let zero := constant (.number (-0.0))
    let s : Value := .map [("n", .number 7)]
    let f := fun v w : Value => if w.numberOrZero == 0 then .null else Arithmetic.divide v w
    let quotient' := withEvaluator (Operator.divide.folding f .divisor)
    (quotient [quotient [n, two], n]).evaluate.outcome s =
        (quotient [n, two, n]).evaluate.outcome s ∧
      (∃ e, ((quotient [n, two, zero]).evaluate.outcome s).1 = .error e) ∧
      (∃ e, ((quotient [quotient [n, two], zero]).evaluate.outcome s).1 = .error e) ∧
      (quotient' [quotient' [n, two], zero]).evaluate = (quotient [n, two, zero]).evaluate := by
  intro ambient quotient n two zero s f quotient'
  obtain ⟨hnests, hzero, hdivides⟩ := arithmetic_nests ambient
  obtain ⟨hflat, hnested⟩ := hzero n [two] zero [] s (-0.0) rfl rfl
  refine ⟨hnests .divide (by decide) n [two] [n] s, hflat, hnested n [two] [zero] rfl, ?_⟩
  refine (hdivides f ?_).2 n [two] [zero]
  intro v x hx
  exact if_neg (Bool.eq_false_iff.mp hx)

end Expr

end StateExpr
