import StateExpr.Proofs.Compilation
import StateExpr.Proofs.Logic
import StateExpr.Proofs.Outcome
/-!
# Comprehensions of one body

Each comprehension is a loop of its own, and two of them end early.  Where a body neither fails nor
changes the enclosing state, every loop sees the same state at every item, and the items that a loop
leaves out could not have changed what it gives.  What the loops give is then a matter of one
function of the items.

How a comprehension runs depends on where it stands: one whose name is read from its scope leaves
its parts as they are, and all others run with resolved parts (`Expr.Runs`).

Main statements: `Expr.outcome_forEach`, `Expr.outcome_keepIf` and `Expr.outcome_findTruth`, one for
each loop; `Expr.exists_runs_evaluate` and `Expr.Runs.eq_runForm`, that the loops are run on the two
parts in one of these ways; and `Expr.comprehensions_agree`.
-/

namespace StateExpr.Expr

open StateExpr.Action (answer truth)

/-! ## Loops that change nothing -/

section Loops

variable {σ : Type} {body : Value → Action σ Value} {f : Value → Value} {items : List Value} {s : σ}

/-- For each item the body gives the value of the function, and leaves the state as it is. -/
def Steady (body : Value → Action σ Value) (f : Value → Value) (items : List Value) (s : σ) : Prop :=
  ∀ item ∈ items, (body item).outcome s = (.ok (f item), s)

theorem outcome_forEach (h : Steady body f items s) :
    (forEach body items).outcome s = (.ok (items.map f), s) := by
  induction items with
  | nil => rfl
  | cons item rest ih =>
    obtain ⟨here, beneath⟩ := List.forall_mem_cons.mp h
    exact (Action.bind_of_ok here).trans (Action.bind_of_ok (ih beneath))

theorem outcome_keepIf (h : Steady body f items s) :
    (keepIf body items).outcome s = (.ok (items.filter fun v => (f v).isTrue), s) := by
  induction items with
  | nil => rfl
  | cons item rest ih =>
    obtain ⟨here, beneath⟩ := List.forall_mem_cons.mp h
    rw [List.filter_cons]
    exact (Action.bind_of_ok here).trans (Action.bind_of_ok (ih beneath))

/-- The loop ends at the first item with the truth, and those behind it would have changed
nothing. -/
theorem outcome_findTruth (truth : Bool) (h : Steady body f items s) :
    (findTruth truth body items).outcome s =
      (.ok (items.any fun v => (f v).isTrue == truth), s) := by
  induction items with
  | nil => rfl
  | cons item rest ih =>
    obtain ⟨here, beneath⟩ := List.forall_mem_cons.mp h
    refine (Action.bind_of_ok here).trans ?_
    rw [List.any_cons]
    cases (f item).isTrue == truth with
    | true => rfl
    | false => exact ih beneath

end Loops

/-! ## How comprehensions run -/

variable {l iterator c : Expr} {x : String} {tree collection body : Expr → Action Value Value}
  {s s' : Value} {items : List Value} {f : Value → Value}

/-- The ways in which comprehensions of a name run, with those in which their collections and their
bodies do. -/
inductive Runs (iterator : Expr) (x : String) : (tree collection body : Expr → Action Value Value) →
    Prop where
  /-- A name that is read from its scope leaves the parts as they are. -/
  | settled (two : iterator.children.length = 2) : Runs iterator x evaluate evaluate evaluate
  /-- With a bare name they are resolved on the way. -/
  | bare (one : iterator.children.length = 1) :
      Runs iterator x evaluate (fun e => (resolveIn [] e).evaluateResolved)
        (fun e => (resolveIn [x] e).evaluateResolved)
  /-- They were resolved beforehand, inside comprehensions that bind the names. -/
  | resolved (bound : List String) {run : Expr → Action Value Value}
      (hrun : run = evaluate ∨ run = evaluateResolved) :
      Runs iterator x (fun e => run (resolveIn bound e)) (fun e => run (resolveIn bound e))
        (fun e => run (resolveIn (x :: bound) e))

/-- **A comprehension of a name runs in one of these ways as it stands**, whether the name is bare or
read from its scope. -/
theorem exists_runs_evaluate (hx : iterator.iteratorName? = some x) :
    ∃ collection body, Runs iterator x evaluate collection body := by
  have hsome : iterator.iteratorName?.isSome = true := by rw [hx]; rfl
  rcases (isA_of_iteratorName? hsome).2 with one | two
  · exact ⟨_, _, .bare one⟩
  · exact ⟨_, _, .settled two⟩

variable (ambient : Ambient)

theorem resolveIn_comprehension {op : Operator} (hop : op.isComprehension = true)
    (hx : iterator.iteratorName? = some x) (bound : List String) :
    resolveIn bound (operation ambient op [l, iterator, c]) =
      operation ambient op [resolveIn bound l, boundName x, resolveIn (x :: bound) c] := by
  refine resolveIn_of_binding bound ?_
  have hcomprehension := (isComprehension_withEvaluator ambient op [l, iterator, c]).trans hop
  unfold withEvaluator at hcomprehension
  simp only [binding?, children_node, hcomprehension, if_true, hx]

theorem resolveIn_not (bound : List String) (c : Expr) :
    resolveIn bound (operation ambient .not [c]) = operation ambient .not [resolveIn bound c] :=
  resolveIn_of_no_binding bound rfl

theorem iteratorName?_boundName (x : String) : (boundName x).iteratorName? = some x := rfl

theorem meaning_operation {op : Operator} {form : Form} {enter : Expr → Option (Action Value Value)}
    (hform : (op.evaluator ambient).strategy = .special form) {cs : List Expr}
    (henter : enter (operation ambient op cs) = none) :
    ((operation ambient op cs).meaning .nested enter).value =
      runForm .nested (operation ambient op cs) (cs.map (meaning .nested enter)) form := by
  refine (congrArg Meaning.value (meaning_node _ henter)).trans ?_
  exact runNode_of_form .nested hform _

/-- A comprehension whose name is read from its scope is not resolved once more. -/
theorem resolvingAction?_of_two {op : Operator} (two : iterator.children.length = 2) :
    resolvingAction? (operation ambient op [l, iterator, c]) = none := by
  have settled : (operation ambient op [l, iterator, c]).needsResolution = false := by
    simp [needsResolution, operation, withEvaluator, two]
  simp [resolvingAction?, settled]

/-- **However it runs, a comprehension is the loop over its parts.** -/
theorem Runs.eq_runForm (h : Runs iterator x tree collection body)
    (hx : iterator.iteratorName? = some x) {op : Operator} (hop : op.isComprehension = true)
    {form : Form} (hform : (op.evaluator ambient).strategy = .special form) (l c : Expr) :
    ∃ e lm im cm, tree (operation ambient op [l, iterator, c]) = runForm .nested e [lm, im, cm] form ∧
      lm.value = collection l ∧ im.expr.iteratorName? = some x ∧ cm.value = body c := by
  have htwo : (boundName x).children.length = 2 := rfl
  have hname (enter) : ((boundName x).meaning .nested enter).expr.iteratorName? = some x := by
    rw [expr_meaning, iteratorName?_boundName]
  cases h with
  | settled two =>
    refine ⟨_, _, _, _, meaning_operation ambient hform (resolvingAction?_of_two ambient two), rfl,
      ?_, rfl⟩
    rw [expr_meaning, hx]
  | bare one =>
    have hresolving : resolvingAction? (operation ambient op [l, iterator, c]) =
        some (operation ambient op [l, iterator, c]).resolve.evaluateResolved := by
      refine resolvingAction?_of_binding ?_ hx ?_
      · exact (isComprehension_withEvaluator ambient op _).trans hop
      · simp [bindsResolved, one]
    have hevaluate : (operation ambient op [l, iterator, c]).evaluate =
        (operation ambient op [l, iterator, c]).resolve.evaluateResolved := by
      refine (congrArg Meaning.value (meaning_eq .nested _)).trans ?_
      exact congrArg (fun a => Option.getD a _) hresolving
    rw [hevaluate, resolve, resolveIn_comprehension ambient hop hx]
    exact ⟨_, _, _, _, meaning_operation ambient hform rfl, rfl, hname _, rfl⟩
  | resolved bound hrun =>
    dsimp only
    rw [resolveIn_comprehension ambient hop hx]
    rcases hrun with rfl | rfl
    · exact ⟨_, _, _, _, meaning_operation ambient hform (resolvingAction?_of_two ambient htwo), rfl,
        hname _, rfl⟩
    · exact ⟨_, _, _, _, meaning_operation ambient hform rfl, rfl, hname _, rfl⟩

/-- However a body runs, its negation is true when it is not. -/
theorem Runs.body_not (h : Runs iterator x tree collection body) (c : Expr) :
    body (operation ambient .not [c]) = answer ((! ·) <$> (body c).truth) := by
  have hform : (Operator.not.evaluator ambient).strategy = .special .not := rfl
  have hresolved (c : Expr) : (operation ambient .not [c]).evaluateResolved =
      answer ((! ·) <$> c.evaluateResolved.truth) :=
    (meaning_operation ambient hform rfl).trans (runNot_eq _ [])
  cases h with
  | settled => exact evaluate_not ambient c
  | bare => exact (congrArg evaluateResolved (resolveIn_not ambient [x] c)).trans (hresolved _)
  | resolved bound hrun =>
    dsimp only
    rw [resolveIn_not]
    rcases hrun with rfl | rfl
    · exact evaluate_not ambient _
    · exact hresolved _

/-! ## What they give -/

/-- The collection comes to items, and for each of them the body gives the value of the function and
leaves the enclosing state as it is. -/
structure Visits (collection body : Action Value Value) (x : String) (s s' : Value)
    (items : List Value) (f : Value → Value) : Prop where
  collected : collection.outcome s = (.ok (.list items), s')
  steady : Steady (Scoping.inScope x body) f items s'

theorem outcome_inScope_iff {run : Action Value Value} {item : Value}
    {result : Except EvalError Value} : (Scoping.inScope x run item).outcome s = (result, s') ↔
      ∃ scope, run (Scoping.scopeOf s x item) = (result, scope) ∧ Scoping.stateOf scope = s' := by
  unfold Action.outcome Scoping.inScope
  generalize run (Scoping.scopeOf s x item) = found
  obtain ⟨got, scope⟩ := found
  constructor
  · intro h
    obtain ⟨rfl, rfl⟩ := Prod.mk.inj h
    exact ⟨scope, rfl, rfl⟩
  · rintro ⟨_, h, rfl⟩
    obtain ⟨rfl, rfl⟩ := Prod.mk.inj h
    rfl

theorem answer_not_of_ok {run : Action Value Value} {v : Value} (h : run s = (.ok v, s')) :
    answer ((! ·) <$> run.truth) s = (.ok (.bool !v.isTrue), s') := by
  change (Except.ok (Value.bool !((run s).1.toOption.any Value.isTrue)), (run s).2) = _
  rw [h]
  rfl

/-- A negated body gives the opposite truths and changes as little. -/
theorem Steady.not {run : Action Value Value} (h : Steady (Scoping.inScope x run) f items s) :
    Steady (Scoping.inScope x (answer ((! ·) <$> run.truth)))
      (fun v => .bool !(f v).isTrue) items s := by
  intro item hitem
  obtain ⟨scope, hrun, hscope⟩ := outcome_inScope_iff.mp (h item hitem)
  exact outcome_inScope_iff.mpr ⟨scope, answer_not_of_ok hrun, hscope⟩

theorem outcome_runComprehension {e : Expr} {lm im cm : Meaning Value}
    (hx : im.expr.iteratorName? = some x) (hl : lm.value.outcome s = (.ok (.list items), s'))
    (visit : (Value → Action Value Value) → List Value → Action Value Value) :
    (runComprehension .nested e [lm, im, cm] visit).outcome s =
      (visit (Scoping.inScope x cm.value) items).outcome s' := by
  have hopen : openComprehension e [lm, im, cm] s = (.ok (items, x, cm.value), s') := by
    unfold openComprehension
    simp only [hx]
    exact Action.bind_of_ok hl
  unfold runComprehension
  exact Action.bind_of_ok hopen

section Results

variable {ambient} (hruns : Runs iterator x tree collection body)
  (hx : iterator.iteratorName? = some x) (hvisits : Visits (collection l) (body c) x s s' items f)
  {op : Operator} (hop : op.isComprehension = true)
include hruns hx hvisits hop

/-- What a loop gives for steady bodies is what the comprehension gives. -/
theorem Runs.outcome_of_loop {form : Form} {v : Value}
    (visit : (Value → Action Value Value) → List Value → Action Value Value)
    (hform : (op.evaluator ambient).strategy = .special form)
    (hvisit : ∀ e ms, runForm .nested e ms form = runComprehension .nested e ms visit)
    (hloop : ∀ run, Steady run f items s' → (visit run items).outcome s' = (.ok v, s')) :
    (tree (operation ambient op [l, iterator, c])).outcome s = (.ok v, s') := by
  obtain ⟨e, lm, im, cm, htree, hl, hname, hc⟩ := hruns.eq_runForm ambient hx hop hform l c
  rw [← hl, ← hc] at hvisits
  rw [htree, hvisit, outcome_runComprehension hname hvisits.collected]
  exact hloop _ hvisits.steady

theorem Runs.outcome_foreach (hform : (op.evaluator ambient).strategy = .special .foreach) :
    (tree (operation ambient op [l, iterator, c])).outcome s =
      (.ok (.list (items.map f)), s') :=
  hruns.outcome_of_loop hx hvisits hop (fun run items => do pure (.list (← forEach run items)))
    hform (fun _ _ => rfl) fun _ h => Action.bind_of_ok (outcome_forEach h)

theorem Runs.outcome_filter (hform : (op.evaluator ambient).strategy = .special .filter) :
    (tree (operation ambient op [l, iterator, c])).outcome s =
      (.ok (.list (items.filter fun v => (f v).isTrue)), s') :=
  hruns.outcome_of_loop hx hvisits hop (fun run items => do pure (.list (← keepIf run items)))
    hform (fun _ _ => rfl) fun _ h => Action.bind_of_ok (outcome_keepIf h)

theorem Runs.outcome_anyItem
    (hform : (op.evaluator ambient).strategy = .special (.quantified .anyItem)) :
    (tree (operation ambient op [l, iterator, c])).outcome s =
      (.ok (.bool (items.any fun v => (f v).isTrue)), s') := by
  refine hruns.outcome_of_loop hx hvisits hop
    (fun run items => do pure (.bool (← findTruth true run items))) hform (fun _ _ => rfl) ?_
  intro run h
  have hfound := outcome_findTruth true h
  simp only [beq_true] at hfound
  exact Action.bind_of_ok hfound

theorem Runs.outcome_allItems
    (hform : (op.evaluator ambient).strategy = .special (.quantified .allItems)) :
    (tree (operation ambient op [l, iterator, c])).outcome s =
      (.ok (.bool (items.all fun v => (f v).isTrue)), s') := by
  refine hruns.outcome_of_loop hx hvisits hop
    (fun run items => do pure (.bool !(← findTruth false run items))) hform (fun _ _ => rfl) ?_
  intro run h
  have hfound := outcome_findTruth false h
  simp only [beq_false] at hfound
  rw [List.all_eq_not_any_not]
  exact Action.bind_of_ok hfound

end Results

/-- **Comprehensions of one body agree.**  When the collection is a list, and the body neither fails
for any of its items nor changes the enclosing state, the values that `foreach` and `select` give
are those of the body, item by item; `where` keeps the items for which it is true; `any` is true
when it keeps some, `all` when it keeps all; and `all` of the negated body is the opposite of
`any`.  This is so however comprehensions run, and in every state, those with further scopes
around it included. -/
theorem comprehensions_agree (ambient : Ambient) (hx : iterator.iteratorName? = some x)
    (hruns : Runs iterator x tree collection body)
    (hvisits : Visits (collection l) (body c) x s s' items f) :
    let outcome op body := (tree (operation ambient op [l, iterator, body])).outcome s
    ∃ kept found every, kept = items.filter (fun v => (f v).isTrue) ∧
      outcome .foreach c = (.ok (.list (items.map f)), s') ∧
      outcome .select c = (.ok (.list (items.map f)), s') ∧
      outcome .filter c = (.ok (.list kept), s') ∧
      outcome .anyOf c = (.ok (.bool found), s') ∧ (found = true ↔ kept ≠ []) ∧
      outcome .allOf c = (.ok (.bool every), s') ∧ (every = true ↔ kept = items) ∧
      outcome .allOf (operation ambient .not [c]) = (.ok (.bool !found), s') := by
  intro outcome
  have hnot : Visits (collection l) (body (operation ambient .not [c])) x s s' items
      (fun v => .bool !(f v).isTrue) := by
    rw [hruns.body_not]
    exact ⟨hvisits.collected, hvisits.steady.not⟩
  refine ⟨_, items.any fun v => (f v).isTrue, items.all fun v => (f v).isTrue, rfl,
    hruns.outcome_foreach hx hvisits rfl rfl, hruns.outcome_foreach hx hvisits rfl rfl,
    hruns.outcome_filter hx hvisits rfl rfl, hruns.outcome_anyItem hx hvisits rfl rfl, ?_,
    hruns.outcome_allItems hx hvisits rfl rfl, ?_, ?_⟩
  · rw [List.any_eq_true, ne_eq, List.filter_eq_nil_iff]
    simp only [not_forall, not_not, exists_prop]
  · rw [List.filter_eq_self, List.all_eq_true]
  · rw [List.not_any_eq_all_not]
    exact hruns.outcome_allItems hx hnot rfl rfl

/-- Inside a comprehension that binds another name, the items that equal its item. -/
theorem comprehensions_agree_inside :
    let ambient : Ambient := .still
    let tree := fun e => (resolveIn ["y"] e).evaluateResolved
    let c := operation ambient .equal [accessor "x" none, accessor "y" none]
    let s := Scoping.scopeOf (.map [("xs", .list [.text "a", .text "b"])]) "y" (.text "b")
    let outcome := fun op c =>
      (tree (operation ambient op [accessor "xs" none, accessor "x" none, c])).outcome s
    outcome .foreach c = (.ok (.list [.bool false, .bool true]), s) ∧
      outcome .filter c = (.ok (.list [.text "b"]), s) ∧
      outcome .anyOf c = (.ok (.bool true), s) ∧ outcome .allOf c = (.ok (.bool false), s) ∧
      outcome .allOf (operation ambient .not [c]) = (.ok (.bool false), s) := by
  intro ambient tree c s outcome
  have hvisits : Visits (tree (accessor "xs" none)) ((resolveIn ["x", "y"] c).evaluateResolved) "x"
      s s [.text "a", .text "b"] fun v => .bool (v == .text "b") := by
    refine ⟨rfl, ?_⟩
    intro item hitem
    rcases List.mem_pair.mp hitem with rfl | rfl
    · rfl
    · rfl
  have hruns : Runs (accessor "x" none) "x" tree tree
      (fun e => (resolveIn ["x", "y"] e).evaluateResolved) := .resolved ["y"] (.inr rfl)
  obtain ⟨kept, found, every, hkept, hforeach, -, hfilter, hany, hfound, hall, hevery, hnot⟩ :=
    comprehensions_agree ambient rfl hruns hvisits
  obtain rfl : kept = [.text "b"] := hkept
  obtain rfl : found = true := hfound.mpr (List.cons_ne_nil _ _)
  obtain rfl : every = false := by
    rw [← Bool.not_eq_true, hevery]
    intro h
    cases congrArg List.length h
  exact ⟨hforeach, hfilter, hany, hall, hnot⟩

end StateExpr.Expr
