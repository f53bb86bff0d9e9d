import StateExpr.Proofs.Path
import StateExpr.Proofs.Resolution
/-!
# Setting and reading

Setting a constant path and reading constant paths go together like writing and reading a cell: what
was set is read back, a second set along the same path forgets the first, and a path that parts from
the one that was set reads what it read before.

Main statement: `Expr.setPathToValue_lens`.
-/

namespace StateExpr.Expr

variable {ambient : Ambient} {p : Expr} {keys : List Key}

/-- Put a literal at a path. -/
def setting (ambient : Ambient) (p : Expr) (v : Value) : Expr :=
  withEvaluator (Operator.setPathToValue.evaluator ambient) [p, constant v]

theorem ConstantPath.evaluate_outcome (h : ConstantPath p keys) (s : Value) :
    p.evaluate.outcome s = (readAlong keys s, s) :=
  h.value_apply (fun _ => resolvingAction?_of_not_comprehension) s

/-- Setting a constant path is assigning along its steps. -/
theorem ConstantPath.setting_outcome (ambient : Ambient) (h : ConstantPath p keys) :
    ∃ steps, keysOf steps = keys ∧ ∀ v s, (setting ambient p v).evaluate.outcome s =
      ((v.assign steps s).1.map fun _ => v, (v.assign steps s).2) := by
  obtain ⟨steps, hkeys, hpath⟩ :=
    h.path_eq .nested resolvingAction? (fun _ => resolvingAction?_of_not_comprehension)
  refine ⟨steps, hkeys, ?_⟩
  intro v s
  have run : (setting ambient p v).evaluate = (do Action.assign steps v; pure v) := by
    unfold evaluate setting withEvaluator constant withEvaluator
    rw [meaning_node _ (resolvingAction?_of_not_comprehension rfl), runNode_setPathToValue]
    simp only [List.map_cons, List.map_nil, runSetPath, hpath,
      meaning_constant _ (resolvingAction?_of_not_comprehension rfl), pure_bind]
    rfl
  rw [run, Action.outcome, Action.bind_apply]
  unfold Action.assign
  cases v.assign steps s with
  | mk result after => cases result <;> rfl

/-- **The laws of setting and reading.**  When a value can be set at a constant path,

* the path reads the value afterwards;
* another value can be set there, before as well as afterwards, and to the same effect;
* a path that parts from it, by a name that differs in more than case or by another index, reads
  afterwards what it read before, if that was not null and the names they share stand in the state
  exactly as they are spelled. -/
theorem setPathToValue_lens (hp : ConstantPath p keys) {v r s s' : Value}
    (hset : (setting ambient p v).evaluate.outcome s = (.ok r, s')) :
    p.evaluate.outcome s' = (.ok v, s') ∧
    (∀ w, ∃ t, (setting ambient p w).evaluate.outcome s = (.ok w, t) ∧
      (setting ambient p w).evaluate.outcome s' = (.ok w, t)) ∧
    ∀ q common a b after rest u, keys = common ++ a :: after →
      ConstantPath q (common ++ b :: rest) → a.Apart b → Value.Spelled common s → u ≠ .null →
      (q.evaluate.outcome s).1 = .ok u → q.evaluate.outcome s' = (.ok u, s') := by
  obtain ⟨steps, rfl, hrun⟩ := hp.setting_outcome ambient
  rw [hrun] at hset
  obtain ⟨hok, rfl⟩ := Prod.ext_iff.mp hset
  have succeeds : (v.assign steps s).1 = .ok () := by
    cases h : (v.assign steps s).1 with
    | ok _ => rfl
    | error e => rw [h] at hok; cases hok
  refine ⟨?_, ?_, ?_⟩
  · rw [hp.evaluate_outcome, readAlong_eq_ok.mpr (Value.follow_assign v succeeds)]
  · intro w
    have succeeds' : (w.assign steps s).1 = .ok () := (Value.assign_fst v w steps s).trans succeeds
    refine ⟨(w.assign steps s).2, ?_, ?_⟩
    · rw [hrun, succeeds']
      rfl
    · rw [hrun, Value.assign_assign v w succeeds, succeeds']
      rfl
  · intro q common a b after rest u hkeys hq apart spelled hu hread
    rw [hq.evaluate_outcome] at hread ⊢
    rw [readAlong_eq_ok.mpr (Value.follow_assign_of_apart v hkeys apart spelled
      (readAlong_eq_ok.mp hread) hu succeeds)]

/-- Setting `a.b` next to `a.c`. -/
theorem lens_of_siblings :
    let p := accessor "b" (some (accessor "a" none))
    let q := accessor "c" (some (accessor "a" none))
    let s := Value.map [("a", .map [("c", .text "z")])]
    let s' := Value.map [("a", .map [("c", .text "z"), ("b", .text "x")])]
    let e := setting .still p (.text "x")
    e.evaluate.outcome s = (.ok (.text "x"), s') ∧
      p.evaluate.outcome s' = (.ok (.text "x"), s') ∧
      q.evaluate.outcome s' = (.ok (.text "z"), s') := by
  intro p q s s' e
  have hp : ConstantPath p [.name "a", .name "b"] := .property rfl (.root rfl)
  have hq : ConstantPath q [.name "a", .name "c"] := .property rfl (.root rfl)
  have hset : e.evaluate.outcome s = (.ok (.text "x"), s') := rfl
  obtain ⟨read, -, other⟩ := setPathToValue_lens hp hset
  exact ⟨hset, read, other q [.name "a"] (.name "b") (.name "c") [] [] (.text "z") rfl hq rfl
    ⟨_, _, rfl, rfl, trivial⟩ nofun rfl⟩

end StateExpr.Expr
