import StateExpr.Proofs.Resolution
/-!
# Settled trees

Resolving recognises what it has made, at every depth and inside any comprehensions, so a second
pass changes nothing.  A comprehension still asks for resolution afterwards when its bare name is no
text; all others are settled, and are resolved at most once when they are met.

Main statements: `Expr.resolve_resolve`, and `Expr.resolution_ends`, which comprehensions are
settled by resolution and how deep the resolutions on the way go.
-/

namespace StateExpr.Expr

/-! ## Resolving twice -/

section Twice

variable {bound : List String} {name property : String} {evaluator : Evaluator}
  {literal owner : Expr}

theorem resolveIn_scope (hb : bound ≠ [])
    (ha : (node name evaluator [literal]).isA .accessor = true)
    (hp : literal.literalText? = some property)
    (hscope : property = globalName ∨ property = localName) :
    resolveIn bound (node name evaluator [literal]) = node name evaluator [literal] := by
  rw [resolveIn_of_no_binding bound rfl, resolveNode_root hb _ ha hp]
  exact if_pos (by simpa using hscope)

theorem resolveIn_property (hb : bound ≠ [])
    (ha : (node name evaluator [literal, owner]).isA .accessor = true)
    (hp : literal.literalText? = some property) :
    resolveIn bound (node name evaluator [literal, owner])
      = node name evaluator [literal, resolveIn bound owner] := by
  rw [resolveIn_of_no_binding bound rfl]
  exact resolveNode_property hb ha hp

end Twice

/-- A name inside comprehensions is a chain of properties that starts at a scope. -/
theorem resolveName_of_scopes {P : Expr → Prop} (hglobal : P (accessor globalName none))
    (hlocal : P (accessor localName none))
    (hproperty : ∀ name owner, P owner → P (accessor name (some owner)))
    {bound : List String} (hb : bound ≠ []) (name : String) : P (resolveName bound name) := by
  have steps : ∀ n, P (accessor globalName (globalSteps n)) ∧
      P (accessor localName (globalSteps n)) := by
    intro n
    induction n with
    | zero => exact ⟨hglobal, hlocal⟩
    | succ n ih => exact ⟨hproperty _ _ ih.1, hproperty _ _ ih.1⟩
  unfold resolveName
  split
  · exact hproperty _ _ (steps _).2
  · obtain ⟨x, rest, rfl⟩ := List.exists_cons_of_ne_nil hb
    exact hproperty _ _ (steps rest.length).1

/-- A resolved name is not resolved once more. -/
theorem resolveIn_resolveName {bound : List String} (hb : bound ≠ []) (name : String) :
    resolveIn bound (resolveName bound name) = resolveName bound name := by
  refine resolveName_of_scopes (P := fun e => resolveIn bound e = e) ?_ ?_ ?_ hb name
  · exact resolveIn_scope hb rfl rfl (.inl rfl)
  · exact resolveIn_scope hb rfl rfl (.inr rfl)
  · intro name owner ih
    exact (resolveIn_property hb rfl rfl).trans (by rw [ih]; rfl)

/-- **Inside any comprehensions, resolving recognises what it has made.** -/
theorem resolveIn_resolveIn (bound : List String) (e : Expr) :
    resolveIn bound (resolveIn bound e) = resolveIn bound e := by
  induction bound, e using resolveIn_induction with
  | scope bound name evaluator literal p hb ha hp hscope => exact resolveIn_scope hb ha hp hscope
  | root bound name evaluator literal p hb ha hp hg hl => exact resolveIn_resolveName hb p
  | property bound name evaluator literal p owner hb ha hp ih =>
    have ha' : (node name evaluator [literal, resolveIn bound owner]).isA .accessor = true := ha
    rw [resolveIn_property hb ha' hp, ih]
  | comprehension bound name evaluator collection iterator body x hc hi ihc ihb =>
    -- the resolved name binds what the bare one did
    have hx : binding? (node name evaluator
        [resolveIn bound collection, boundName x, resolveIn (x :: bound) body]) = some x := by
      have hcomp : (node name evaluator
        [resolveIn bound collection, boundName x, resolveIn (x :: bound) body]).isComprehension
          = true := hc
      simp only [binding?, children_node, hcomp, if_true]
      rfl
    rw [resolveIn_of_binding bound hx, ihc, ihb]
  | other bound name evaluator children hb hkept ih =>
    have named :
        (node name evaluator (children.map (resolveIn bound))).propertyName?.isSome = true →
          (node name evaluator children).propertyName?.isSome = true := by
      intro hp
      obtain ⟨p, hp⟩ := Option.isSome_iff_exists.mp hp
      cases children with
      | nil => cases hp
      | cons literal rest => exact Option.isSome_iff_exists.mpr ⟨p, literalText?_of_resolveIn hp⟩
    rw [resolveIn_of_no_binding bound (binding?_map_resolveIn bound hb),
      resolveNode_other (List.length_map _) fun ha hp => ?_]
    · rw [List.map_map]
      exact congrArg _ (List.map_congr_left ih)
    · rw [List.length_map]
      exact hkept ha (named hp)

/-- **Resolving twice is resolving once**, whatever the tree. -/
theorem resolve_resolve (e : Expr) : e.resolve.resolve = e.resolve :=
  resolveIn_resolveIn [] e

/-! ## What resolution leaves -/

/-- The bare name that a node binds, if it binds one, is a text. -/
def NamesItsItem (e : Expr) : Prop := e.needsResolution = true → e.binding?.isSome = true

theorem needsResolution_of_length {e : Expr} (h : e.children.length ≠ 3) :
    e.needsResolution = false := by
  unfold needsResolution
  split
  · rename_i hc
    rw [hc] at h
    exact absurd rfl h
  · rfl

/-- What holds of a name that is bound, and everywhere in its literals, holds everywhere in it. -/
theorem everywhere_of_iteratorName? {P Q : Expr → Prop} {e : Expr} (h : e.Everywhere Q)
    (hliteral : ∀ n, Q n → n.literalText?.isSome = true → n.Everywhere P)
    (hname : ∀ n, n.Everywhere Q → n.iteratorName?.isSome = true → P n)
    (hi : e.iteratorName?.isSome = true) : e.Everywhere P := by
  have literals : ∀ {literal : Expr} {x : String}, literal.Everywhere Q →
      literal.literalText? = some x → literal.Everywhere P :=
    fun hq hx => hliteral _ hq.here (by rw [hx]; rfl)
  obtain ⟨x, hx⟩ := Option.isSome_iff_exists.mp hi
  have here := hname e h hi
  obtain ⟨name, evaluator, children⟩ := e
  rcases iteratorName?_cases hx with ⟨literal, hchildren, hp⟩ | ⟨literal, scope, hchildren, hp, hs⟩
  · obtain rfl : children = [literal] := hchildren
    exact .node here (List.forall_mem_singleton.mpr (literals (h.child (by simp)) hp))
  · obtain rfl : children = [literal, scope] := hchildren
    have hscope : scope.Everywhere Q := h.child (by simp)
    obtain ⟨hsa, hsl, hsp⟩ := hs
    obtain ⟨name', evaluator', children'⟩ := scope
    obtain ⟨literal', rfl⟩ := List.length_eq_one_iff.mp hsl
    have bare := iteratorName?_bare hsa hsp
    refine .node here (forall_mem_two.mpr ⟨literals (h.child (by simp)) hp, ?_⟩)
    refine .node (hname _ hscope (by rw [bare]; rfl)) (List.forall_mem_singleton.mpr ?_)
    exact literals (hscope.child (by simp)) hsp

/-- A node that binds no name keeps the number of its children. -/
theorem length_children_resolveIn {bound : List String} {e : Expr} (h : e.iteratorName? = none) :
    (resolveIn bound e).children.length = e.children.length := by
  induction bound, e using resolveIn_induction with
  | scope => rfl
  | root bound name evaluator literal p hb ha hp =>
    rw [iteratorName?_bare ha hp] at h
    cases h
  | property => rfl
  | comprehension => rfl
  | other => exact List.length_map _

/-- A comprehension that binds no name asks for resolution after it as before. -/
theorem needsResolution_map_resolveIn (bound : List String) {name : String} {evaluator : Evaluator}
    {children : List Expr} (hb : binding? (node name evaluator children) = none) :
    (node name evaluator (children.map (resolveIn bound))).needsResolution
      = (node name evaluator children).needsResolution := by
  by_cases hthree : children.length = 3
  · obtain ⟨collection, iterator, body, rfl⟩ := List.length_eq_three.mp hthree
    have hcomp : (node name evaluator ([collection, iterator, body].map
        (resolveIn bound))).isComprehension
          = (node name evaluator [collection, iterator, body]).isComprehension := rfl
    simp only [needsResolution, children_node, List.map_cons, List.map_nil, isA_resolveIn]
      at hcomp ⊢
    rw [hcomp]
    cases hc : (node name evaluator [collection, iterator, body]).isComprehension with
    | false => rfl
    | true =>
      simp only [binding?, children_node, hc, if_true] at hb
      rw [length_children_resolveIn hb]
  · have kept : (node name evaluator (children.map (resolveIn bound))).children.length ≠ 3 := by
      rwa [children_node, List.length_map]
    have before : (node name evaluator children).children.length ≠ 3 := hthree
    rw [needsResolution_of_length kept, needsResolution_of_length before]

theorem settled_of_iteratorName? {e : Expr} (h : e.iteratorName?.isSome = true) :
    e.needsResolution = false := by
  refine needsResolution_of_length ?_
  rcases (isA_of_iteratorName? h).2 with hl | hl <;> simp [hl]

theorem settled_of_leaf {e : Expr} (h : e.children = []) : e.needsResolution = false :=
  needsResolution_of_length (by simp [h])

theorem NamesItsItem.of_settled {e : Expr} (h : e.needsResolution = false) : e.NamesItsItem := by
  intro hneeds
  rw [h] at hneeds
  cases hneeds

/-- What a comprehension binds is settled, and so is everything beneath it. -/
theorem everywhere_settled_of_iteratorName? {e : Expr} (hl : e.Everywhere LeafLiteral)
    (hi : e.iteratorName?.isSome = true) : e.Everywhere fun n => n.needsResolution = false :=
  everywhere_of_iteratorName? hl (fun _ hn hs => .of_leaf (settled_of_leaf (hn hs)) (hn hs))
    (fun _ _ hn => settled_of_iteratorName? hn) hi

/-- **Resolution settles the comprehensions whose bare names are texts, and no others.** -/
theorem everywhere_settled_iff (bound : List String) {e : Expr} (hl : e.Everywhere LeafLiteral) :
    ((resolveIn bound e).Everywhere fun n => n.needsResolution = false) ↔
      e.Everywhere NamesItsItem := by
  have made : ∀ name owner,
      (∀ o ∈ owner, Everywhere (fun n => n.needsResolution = false) o) →
      Everywhere (fun n => n.needsResolution = false) (accessor name owner) := by
    intro name owner ho
    refine .of_accessor (needsResolution_of_length ?_) rfl ho
    cases owner <;> simp [accessor, withEvaluator]
  have literals : ∀ {literal : Expr} {p : String}, literal.Everywhere LeafLiteral →
      literal.literalText? = some p → literal.Everywhere fun n => n.needsResolution = false := by
    intro literal p hleaf hp
    have none_beneath := hleaf.here (by rw [hp]; rfl)
    exact .of_leaf (settled_of_leaf none_beneath) none_beneath
  have named : ∀ {n : Expr}, (n.Everywhere fun n => n.needsResolution = false) →
      n.Everywhere NamesItsItem := fun h => h.mono fun _ => .of_settled
  induction bound, e using resolveIn_induction with
  | scope bound name evaluator literal p hb ha hp hscope =>
    have settled := everywhere_settled_of_iteratorName? hl (by rw [iteratorName?_bare ha hp]; rfl)
    exact iff_of_true settled (named settled)
  | root bound name evaluator literal p hb ha hp hg hlo =>
    have settled := everywhere_settled_of_iteratorName? hl (by rw [iteratorName?_bare ha hp]; rfl)
    exact iff_of_true (resolveName_of_accessor made _ _) (named settled)
  | property bound name evaluator literal p owner hb ha hp ih =>
    have hliteral := literals (hl.child (c := literal) (by simp)) hp
    have two : ∀ o, (node name evaluator [literal, o]).needsResolution = false :=
      fun o => needsResolution_of_length (by simp)
    simp only [Everywhere.node_iff, forall_mem_two, two, hliteral, named hliteral,
      NamesItsItem.of_settled (two owner), true_and]
    exact ih (hl.child (by simp))
  | comprehension bound name evaluator collection iterator body x hc hi ihc ihb =>
    have hiterator := everywhere_settled_of_iteratorName? (hl.child (c := iterator) (by simp))
      (by rw [hi]; rfl)
    have hbound : (boundName x).Everywhere fun n => n.needsResolution = false := by
      rw [boundName_eq]
      exact resolveName_of_accessor made _ _
    have settled : needsResolution (node name evaluator
        [resolveIn bound collection, boundName x, resolveIn (x :: bound) body]) = false := by
      simp [needsResolution, boundName, accessor, withEvaluator]
    have binds : NamesItsItem (node name evaluator [collection, iterator, body]) := by
      intro _
      simp only [binding?, children_node, hc, if_true, hi, Option.isSome_some]
    simp only [Everywhere.node_iff, forall_mem_three, settled, hbound, binds, named hiterator,
      true_and]
    exact and_congr (ihc (hl.child (by simp))) (ihb (hl.child (by simp)))
  | other bound name evaluator children hb hkept ih =>
    have here : (node name evaluator (children.map (resolveIn bound))).needsResolution = false ↔
        NamesItsItem (node name evaluator children) := by
      simp [needsResolution_map_resolveIn bound hb, NamesItsItem, hb]
    rw [Everywhere.node_iff, Everywhere.node_iff, here, List.forall_mem_map]
    exact and_congr_right fun _ => forall₂_congr fun c hc => ih c hc (hl.child hc)

/-! ## Resolving on the way -/

/-- A comprehension whose name is bare, as the evaluation of its resolved copy, in which the same is
done with what still asks for it.  At most so many resolutions follow one another; where one more is
asked for, something else is done instead. -/
def resolvingWithin (stop : Action Value Value) : Nat → Expr → Option (Action Value Value)
  | 0, e => if e.needsResolution then some stop else none
  | bound + 1, e =>
    if e.needsResolution then some (e.resolve.meaning .nested (resolvingWithin stop bound)).value
    else none

/-- Evaluate an expression with a bound on the resolutions that follow one another. -/
def evaluateWithin (stop : Action Value Value) (bound : Nat) (e : Expr) : Action Value Value :=
  (e.meaning .nested (resolvingWithin stop bound)).value

variable {stop : Action Value Value} {bound : Nat} {e : Expr}

theorem resolvingWithin_of_settled (h : e.needsResolution = false) :
    resolvingWithin stop bound e = none := by
  cases bound <;> simp [resolvingWithin, h]

/-- Ways to enter nodes that do the same everywhere in a tree give it the same meaning. -/
theorem meaning_eq_of_everywhere {enter enter' : Expr → Option (Action Value Value)}
    (h : e.Everywhere fun n => enter n = enter' n) :
    e.meaning .nested enter = e.meaning .nested enter' := by
  induction h with
  | node here _ ih => exact meaning_congr _ here ih

/-- A settled tree asks for no resolution at all. -/
theorem meaning_of_settled (h : e.Everywhere fun n => n.needsResolution = false) :
    e.meaning .nested (resolvingWithin stop bound) = e.meaning .nested fun _ => none :=
  meaning_eq_of_everywhere (h.mono fun _ => resolvingWithin_of_settled)

/-- Where bare names are texts, one resolution is all that a comprehension asks for. -/
theorem resolvingWithin_succ (hl : e.Everywhere LeafLiteral) (hn : e.Everywhere NamesItsItem) :
    resolvingWithin stop (bound + 1) e = resolvingAction? e := by
  unfold resolvingWithin resolvingAction?
  cases hneeds : e.needsResolution with
  | false => rfl
  | true =>
    have settled := (everywhere_settled_iff [] hl).mpr hn
    simp only [hn.here hneeds, Bool.and_self, if_true, evaluateResolved]
    rw [resolve, meaning_of_settled settled]

/-- **Where bare names are texts, no resolution follows another.** -/
theorem evaluateWithin_succ (hl : e.Everywhere LeafLiteral) (hn : e.Everywhere NamesItsItem) :
    e.evaluateWithin stop (bound + 1) = e.evaluate := by
  refine congrArg Meaning.value (meaning_eq_of_everywhere ?_)
  induction e using Expr.induction with
  | node name evaluator children ih =>
    exact .node (resolvingWithin_succ hl hn) fun c hc => ih c hc (hl.child hc) (hn.child hc)

/-- **A bare name that is no text is resolved over and over**, up to any bound. -/
theorem evaluateWithin_unnamed (hneeds : e.needsResolution = true) (hb : e.binding? = none) :
    e.evaluateWithin stop bound = stop := by
  induction bound generalizing e with
  | zero =>
    obtain ⟨name, evaluator, children⟩ := e
    simp only [evaluateWithin, meaning, resolvingWithin, hneeds, if_true, Option.getD_some]
  | succ bound ih =>
    obtain ⟨name, evaluator, children⟩ := e
    have kept : (node name evaluator children).resolve
        = node name evaluator (children.map (resolveIn [])) := by
      rw [resolve, resolveIn_of_no_binding [] hb]
      exact resolveNode_other (List.length_map _) fun _ _ => .inl rfl
    have again : (node name evaluator children).resolve.evaluateWithin stop bound = stop := by
      rw [kept]
      exact ih ((needsResolution_map_resolveIn [] hb).trans hneeds) (binding?_map_resolveIn [] hb)
    simpa only [evaluateWithin, meaning, resolvingWithin, hneeds, if_true, Option.getD_some]
      using again

/-- **When resolving on the way ends**, in a tree whose literal texts are leaves.  Resolution settles
every comprehension of it exactly when the bare names in it are texts; then a comprehension that is
met is resolved once and no more, whatever the state and whatever would stop further resolutions.  A
comprehension over a bare name that is no text is resolved over and over. -/
theorem resolution_ends (hl : e.Everywhere LeafLiteral) :
    ((e.resolve.Everywhere fun n => n.needsResolution = false) ↔ e.Everywhere NamesItsItem) ∧
      (e.Everywhere NamesItsItem →
        ∀ stop bound, e.evaluateWithin stop (bound + 1) = e.evaluate) ∧
      (e.needsResolution = true → e.binding? = none →
        ∀ stop bound, e.evaluateWithin stop bound = stop) :=
  ⟨everywhere_settled_iff [] hl, fun hn _ _ => evaluateWithin_succ hl hn,
    fun hneeds hb _ _ => evaluateWithin_unnamed hneeds hb⟩

/-- Two comprehensions, one inside the other, are settled by one resolution. -/
theorem resolution_ends_nested :
    let ambient : Ambient := .still
    let inner := withEvaluator (Operator.filter.evaluator ambient)
      [accessor "ys" none, accessor "y" none, accessor "x" (some (accessor "y" none))]
    let e := withEvaluator (Operator.foreach.evaluator ambient)
      [accessor "xs" none, accessor "x" none, inner]
    e.Everywhere LeafLiteral ∧ (e.resolve.Everywhere fun n => n.needsResolution = false) ∧
      ∀ stop bound, e.evaluateWithin stop (bound + 1) = e.evaluate := by
  intro ambient inner e
  have everywhere : ∀ P : Expr → Prop, (∀ s, P (constant (.text s))) →
      (∀ s owner, P (accessor s owner)) → P inner → P e → e.Everywhere P := by
    intro P hliteral haccessor hinner here
    have root : ∀ s, (accessor s none).Everywhere P :=
      fun s => .of_accessor (haccessor s none) (hliteral s) nofun
    have property : ∀ s t, (accessor s (some (accessor t none))).Everywhere P := by
      intro s t
      refine .of_accessor (haccessor s _) (hliteral s) ?_
      exact fun o ho => Option.some.inj ho ▸ root t
    have beneath := forall_mem_three.mpr ⟨root "ys", root "y", property "x" "y"⟩
    exact .node here (forall_mem_three.mpr ⟨root _, root _, .node hinner beneath⟩)
  have hl : e.Everywhere LeafLiteral := everywhere _ (fun _ _ => rfl) (fun _ _ => nofun) nofun nofun
  have hn : e.Everywhere NamesItsItem := by
    refine everywhere _ (fun _ => nofun) ?_ (fun _ => rfl) (fun _ => rfl)
    intro s owner hneeds
    cases owner <;> cases hneeds
  obtain ⟨settles, once, -⟩ := resolution_ends hl
  exact ⟨hl, settles.mpr hn, once hn⟩

/-- A number in the place of the name is resolved without end. -/
theorem foreach_over_number :
    let ambient : Ambient := .still
    let e := withEvaluator (Operator.foreach.evaluator ambient)
      [accessor "items" none, withEvaluator .accessor [constant (.number 1)], accessor "x" none]
    e.isComprehension = true ∧ e.resolve.needsResolution = true ∧
      ∀ stop bound, e.evaluateWithin stop bound = stop :=
  ⟨rfl, rfl, fun _ _ => evaluateWithin_unnamed rfl rfl⟩

end StateExpr.Expr
