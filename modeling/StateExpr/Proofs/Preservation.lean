import StateExpr.Proofs.Congruence
import StateExpr.Proofs.Outcome
/-!
# What a node preserves

A property of the state that is preserved by the children of a node is preserved by the node, in
success and in failure, as long as it assigns nothing.  The body of a comprehension runs in scopes
of its own, so there it is the body in its scope that has to preserve the property.

Main statements: `Expr.runNode_preserves`, `Expr.runNode_preserves_of_bindsName` and
`Expr.pathOf_preserves`.
-/

namespace StateExpr

open StateExpr.Action (Preserves Same)

namespace Expr

variable {e : Expr} {ms : List (Meaning Value)} {I : Value → Prop}

theorem valuesRelated_of_preserves (h : ∀ m ∈ ms, m.value.Preserves I) :
    ValuesRelated (Same I) ms ms :=
  List.forall₂_same.mpr fun m hm => (h m hm).related fun _ => rfl

/-- A comprehension preserves what its body preserves in every scope of its own. -/
theorem runForm_preserves_of_bindsName {form : Form} (hbinds : form.bindsName = true)
    {c i b : Meaning Value} (hc : c.value.Preserves I)
    (hbody : ∀ name item, (Scoping.inScope name b.value item).Preserves I) :
    (runForm .nested e [c, i, b] form).Preserves I := by
  refine .of_related (R := Eq) (runForm_related_of_bindsName hbinds rfl ?_ ?_)
  · exact hc.related fun _ => rfl
  · exact fun name _ item => (hbody name item).related fun _ => rfl

/-- Reading names preserves every property. -/
theorem runForm_preserves {form : Form} (hset : form ≠ .setPathToValue)
    (hnames : form.usesNames = true) (hbinds : form.bindsName = true → ms.length ≠ 3)
    (h : ∀ m ∈ ms, m.value.Preserves I) : (runForm .nested e ms form).Preserves I := by
  refine .of_related (R := Eq) ?_
  have values := valuesRelated_of_preserves h
  have same : ∀ (f : Value → Value) (s t : Value), Same I s t → f s = f t := by
    rintro f s _ ⟨rfl, -⟩
    rfl
  cases form with
  | getProperty => exact runGetProperty_related values fun _ => same Scoping.nested.whole
  | callstack => exact runCallstack_related values (same Scoping.nested.whole)
  | accessor => exact runAccessor_related values rfl fun _ name _ => same (Scoping.nested.read name)
  | setPathToValue => exact absurd rfl hset
  | foreach => exact runForm_related_of_miscounted rfl rfl (hbinds rfl)
  | filter => exact runForm_related_of_miscounted rfl rfl (hbinds rfl)
  | quantified q => exact runForm_related_of_miscounted rfl rfl (hbinds rfl)
  | _ => cases hnames

/-- **A node preserves what its children preserve**, unless it sets a path or binds a name. -/
theorem runNode_preserves (hset : e.evaluator.strategy ≠ .special .setPathToValue)
    (hbinds : e.evaluator.strategy.form?.any Form.bindsName = true → ms.length ≠ 3)
    (h : ∀ m ∈ ms, m.value.Preserves I) : (runNode .nested e ms).Preserves I := by
  refine .of_related (R := Eq) (runNode_related rfl (valuesRelated_of_preserves h) ?_ ?_)
  · rintro _ _ _ _ ⟨rfl, -⟩
    rfl
  · intro form hs hnames
    have hform : form ≠ .setPathToValue := by
      rintro rfl
      exact hset hs
    rw [hs] at hbinds
    exact (runForm_preserves hform hnames hbinds h).related fun _ => rfl

/-- **A node that binds a name preserves what its collection preserves**, and its body in every
scope of its own. -/
theorem runNode_preserves_of_bindsName
    (hbinds : e.evaluator.strategy.form?.any Form.bindsName = true) {c i b : Meaning Value}
    (hc : c.value.Preserves I)
    (hbody : ∀ name item, (Scoping.inScope name b.value item).Preserves I) :
    (runNode .nested e [c, i, b]).Preserves I := by
  obtain ⟨name, evaluator, children⟩ := e
  obtain ⟨form, hform, hbinds⟩ := (Option.any_eq_true _ _).mp hbinds
  have hs : evaluator.strategy = .special form := Strategy.form?_eq_some.mp hform
  rw [runNode_of_form _ hs]
  exact runForm_preserves_of_bindsName hbinds hc hbody

/-- **Finding the path of a node preserves what its children preserve.** -/
theorem pathOf_preserves (h : ∀ m ∈ ms, m.value.Preserves I ∧ m.path.Preserves I) :
    (pathOf e ms).Preserves I := by
  refine .of_related (R := fun _ _ => True) ?_
  refine pathOf_related rfl rfl (List.forall₂_same.mpr ?_) (fun _ _ _ _ _ _ => trivial)
    (fun _ _ _ _ => trivial)
  intro m hm
  exact ⟨(h m hm).1.related fun _ => rfl, (h m hm).2.related fun _ => trivial⟩

/-- An operator that binds a name denotes no path, whatever its children do. -/
theorem pathOf_preserves_of_comprehension (hc : e.isComprehension = true) :
    (pathOf e ms).Preserves I :=
  .of_related (R := fun _ _ => True) (pathOf_related_of_comprehension rfl hc)

end Expr

end StateExpr
