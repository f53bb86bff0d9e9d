import StateExpr.Proofs.Assignment
import StateExpr.Proofs.Preservation
import StateExpr.Proofs.Resolution
/-!
# Reading only

A tree in which nothing is set keeps the state, whatever it evaluates to; a node that sets a path,
and nothing else, keeps the state whenever it fails.

Main statements: `Expr.ReadOnly.evaluate_keeps`, from which `Expr.evaluate_outcome_snd`, and
`Expr.setPathToValue_error_snd`.
-/

namespace StateExpr

namespace Action

variable {σ α β : Type}

/-- The action leaves every state as it was. -/
def Keeps (a : Action σ α) : Prop := ∀ s, (a s).2 = s

/-- The action leaves every state as it was in which it fails. -/
def KeepsOnError (a : Action σ α) : Prop := ∀ s error, (a s).1 = .error error → (a s).2 = s

/-- To keep states is to preserve being any one of them. -/
theorem keeps_iff_preserves {a : Action σ α} : a.Keeps ↔ ∀ s₀, a.Preserves (· = s₀) := by
  constructor
  · rintro h _ s rfl
    exact h s
  · exact fun h s => h s s rfl

theorem Keeps.bind_keepsOnError {a : Action σ α} {f : α → Action σ β} (ha : a.Keeps)
    (hf : ∀ x, (f x).KeepsOnError) : (a >>= f).KeepsOnError := by
  intro s error
  have after := ha s
  rw [bind_apply]
  generalize a s = found at after ⊢
  obtain ⟨result, s'⟩ := found
  obtain rfl : s' = s := after
  cases result with
  | ok x => exact hf x s' error
  | error e => exact fun _ => rfl

theorem KeepsOnError.bind_pure {a : Action σ α} (ha : a.KeepsOnError) (y : β) :
    (a >>= fun _ => pure y).KeepsOnError := by
  intro s error
  have after := ha s
  rw [bind_apply]
  generalize a s = found at after ⊢
  obtain ⟨result, s'⟩ := found
  cases result with
  | ok x => exact nofun
  | error e => exact fun _ => after e rfl

end Action

open StateExpr.Action (Keeps keeps_iff_preserves)

namespace Scoping

/-- What keeps the scope keeps the enclosing state. -/
theorem inScope_keeps {body : Action Value Value} (h : body.Keeps) (name : String) (item : Value) :
    (inScope name body item).Keeps := by
  intro s
  change stateOf (body (scopeOf s name item)).2 = s
  rw [h, stateOf_scopeOf]

end Scoping

namespace Expr

/-- Nothing in the tree sets a path. -/
def ReadOnly (e : Expr) : Prop :=
  e.Everywhere fun n => n.evaluator.strategy ≠ .special .setPathToValue

theorem ReadOnly.resolve {e : Expr} (h : ReadOnly e) : ReadOnly e.resolve :=
  h.resolveIn (P := fun ev => ev.strategy ≠ .special .setPathToValue) nofun nofun []

variable {e : Expr} {ms : List (Meaning Value)}

/-- A node whose children keep the state keeps it, unless it sets a path. -/
theorem runNode_keeps (hset : e.evaluator.strategy ≠ .special .setPathToValue)
    (h : ∀ m ∈ ms, m.value.Keeps) : (runNode .nested e ms).Keeps := by
  refine keeps_iff_preserves.mpr ?_
  intro s₀
  have each : ∀ m ∈ ms, m.value.Preserves (· = s₀) :=
    fun m hm => keeps_iff_preserves.mp (h m hm) s₀
  by_cases hbinds : e.evaluator.strategy.form?.any Form.bindsName = true ∧ ms.length = 3
  · obtain ⟨hbinds, hcount⟩ := hbinds
    obtain ⟨c, i, b, rfl⟩ := List.length_eq_three.mp hcount
    refine runNode_preserves_of_bindsName hbinds (each c (by simp)) ?_
    intro name item
    exact keeps_iff_preserves.mp (Scoping.inScope_keeps (h b (by simp)) name item) s₀
  · exact runNode_preserves hset (not_and.mp hbinds) each

/-- The path of a node is found without a change when its children keep the state. -/
theorem pathOf_keeps (h : ∀ m ∈ ms, m.value.Keeps ∧ m.path.Keeps) : (pathOf e ms).Keeps := by
  simp only [keeps_iff_preserves] at h ⊢
  exact fun s₀ => pathOf_preserves fun m hm => ⟨(h m hm).1 s₀, (h m hm).2 s₀⟩

/-- **A tree in which nothing is set keeps the state**, as long as what it enters does. -/
theorem ReadOnly.meaning_keeps {enter : Expr → Option (Action Value Value)}
    (henter : ∀ n a, ReadOnly n → enter n = some a → a.Keeps) (h : ReadOnly e) :
    (e.meaning .nested enter).value.Keeps ∧ (e.meaning .nested enter).path.Keeps := by
  induction e using Expr.induction with
  | node name evaluator children ih =>
    obtain ⟨here, beneath⟩ := Everywhere.node_iff.mp h
    have each : ∀ m ∈ children.map (meaning .nested enter), m.value.Keeps ∧ m.path.Keeps :=
      List.forall_mem_map.mpr fun c hc => ih c hc (beneath c hc)
    rw [meaning_eq]
    refine ⟨?_, pathOf_keeps each⟩
    cases hen : enter (node name evaluator children) with
    | some a => exact henter _ a h hen
    | none => exact runNode_keeps here fun m hm => (each m hm).1

theorem ReadOnly.resolvingAction?_keeps {a : Action Value Value} (h : ReadOnly e)
    (ha : resolvingAction? e = some a) : a.Keeps := by
  unfold resolvingAction? at ha
  split at ha
  · obtain rfl := Option.some.inj ha
    refine (h.resolve.meaning_keeps ?_).1
    intro _ _ _ hn
    cases hn
  · cases ha

/-- Nothing is set while a tree in which nothing is set is evaluated. -/
theorem ReadOnly.evaluate_keeps (h : ReadOnly e) :
    (e.meaning .nested resolvingAction?).value.Keeps ∧
      (e.meaning .nested resolvingAction?).path.Keeps :=
  h.meaning_keeps fun _ _ hn ha => hn.resolvingAction?_keeps ha

/-- **A tree in which nothing is set leaves the state as it was**, with a value or with an error,
wherever in its comprehensions it was raised. -/
theorem evaluate_outcome_snd (h : ReadOnly e) (s : Value) : (e.evaluate.outcome s).2 = s :=
  h.evaluate_keeps.1 s

/-- Two texts cannot be added, two comprehensions deep. -/
theorem evaluate_outcome_of_nested_failure :
    let ambient : Ambient := .still
    let sum := withEvaluator (Operator.add.evaluator ambient) [accessor "x" none, accessor "y" none]
    let inner := withEvaluator (Operator.filter.evaluator ambient)
      [accessor "ys" none, accessor "y" none, sum]
    let e := withEvaluator (Operator.foreach.evaluator ambient)
      [accessor "xs" none, accessor "x" none, inner]
    let s := Value.map [("xs", .list [.text "a"]), ("ys", .list [.text "b"])]
    (e.evaluate.outcome s).1 = .error (.argument "$global.$local.x is not a number.") ∧
      (e.evaluate.outcome s).2 = s := by
  intro ambient sum inner e s
  have root : ∀ name, ReadOnly (accessor name none) := by
    intro name
    refine .node nofun ?_
    exact fun c hc => List.mem_singleton.mp hc ▸ .node nofun nofun
  have three : ∀ a b c : Expr, ReadOnly a → ReadOnly b → ReadOnly c →
      ∀ d ∈ [a, b, c], ReadOnly d := by
    intro a b c ha hb hc
    simp only [List.mem_cons, List.not_mem_nil, or_false, forall_eq_or_imp, forall_eq]
    exact ⟨ha, hb, hc⟩
  have hsum : ReadOnly sum := by
    refine .node nofun ?_
    intro c hc
    rcases List.mem_pair.mp hc with rfl | rfl <;> exact root _
  have hinner : ReadOnly inner := .node nofun (three _ _ _ (root _) (root _) hsum)
  have h : ReadOnly e := .node nofun (three _ _ _ (root _) (root _) hinner)
  exact ⟨rfl, evaluate_outcome_snd h s⟩

/-- Where the value and the path are found without a change, the assignment is the only one. -/
theorem runSetPath_keepsOnError {target source : Meaning Value} (htarget : target.path.Keeps)
    (hsource : source.value.Keeps) : (runSetPath .nested [target, source]).KeepsOnError := by
  refine hsource.bind_keepsOnError ?_
  intro v
  refine htarget.bind_keepsOnError ?_
  intro steps
  refine Action.KeepsOnError.bind_pure ?_ _
  exact fun _ _ => v.assign_error_snd

/-- **Setting a path is atomic.**  A node that sets a path to a value, where neither sets anything
itself, leaves the state as it was when it fails, whatever it was that failed. -/
theorem setPathToValue_error_snd {ambient : Ambient} {s : Value} {error : EvalError}
    (hev : e.evaluator = Operator.setPathToValue.evaluator ambient)
    (hchildren : ∀ c ∈ e.children, ReadOnly c) (h : (e.evaluate.outcome s).1 = .error error) :
    (e.evaluate.outcome s).2 = s := by
  obtain ⟨name, evaluator, children⟩ := e
  obtain rfl : evaluator = _ := hev
  unfold evaluate Action.outcome at *
  rw [meaning_node _ (resolvingAction?_of_not_comprehension rfl), runNode_setPathToValue] at h ⊢
  match children, hchildren, h with
  | [target, source], hchildren, h =>
    exact runSetPath_keepsOnError (hchildren target (by simp [Expr.children])).evaluate_keeps.2
      (hchildren source (by simp [Expr.children])).evaluate_keeps.1 _ _ h
  | [], _, h => cases h
  | [_], _, h => cases h
  | _ :: _ :: _ :: _, _, h => cases h

/-- A name beneath a literal is no path, and nothing is made of the map that is there. -/
theorem setPathToValue_beneath_literal :
    let ambient : Ambient := .still
    let e := withEvaluator (Operator.setPathToValue.evaluator ambient)
      [accessor "b" (some (constant (.text "a"))), constant (.text "x")]
    let s := Value.map [("a", .map [])]
    (∃ error, (e.evaluate.outcome s).1 = .error error) ∧ (e.evaluate.outcome s).2 = s := by
  intro ambient e s
  have literal : ∀ v, ReadOnly (constant v) := fun v => .node nofun nofun
  have hchildren : ∀ c ∈ e.children, ReadOnly c := by
    intro c hc
    rcases List.mem_pair.mp hc with rfl | rfl
    · refine .node nofun ?_
      intro c hc
      rcases List.mem_pair.mp hc with rfl | rfl <;> exact literal _
    · exact literal _
  have hev : e.evaluator = Operator.setPathToValue.evaluator ambient := rfl
  have fails : (e.evaluate.outcome s).1 = .error (notSettable (constant (.text "a"))) := rfl
  exact ⟨⟨_, fails⟩, setPathToValue_error_snd hev hchildren fails⟩

end Expr

end StateExpr
