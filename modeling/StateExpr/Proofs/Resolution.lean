import Mathlib.Data.List.Basic
import StateExpr.Proofs.Congruence
/-!
# What resolution keeps

Resolving replaces the accessors that start at a name and the names that comprehensions bind; every
other node keeps its name and its evaluator.

Main statements: `Expr.evaluator_resolveIn`, `Expr.Everywhere.resolveIn` for predicates on
evaluators, and `Expr.meaning_resolveIn`, that in a resolved tree nothing is left to resolve.
-/

namespace StateExpr.Expr

theorem resolveAll_eq_map (bound : List String) (es : List Expr) :
    resolveAll bound es = es.map (resolveIn bound) := by
  induction es with
  | nil => rfl
  | cons e rest ih => simp only [resolveAll, List.map_cons, ih]

/-! ## The cases of resolution -/

theorem binding?_eq_some {name : String} {evaluator : Evaluator} {children : List Expr} {x : String}
    (h : binding? (node name evaluator children) = some x) :
    ∃ collection iterator body, children = [collection, iterator, body] ∧
      (node name evaluator children).isComprehension = true ∧ iterator.iteratorName? = some x := by
  unfold binding? at h
  split at h
  · rename_i hc
    split at h
    · exact ⟨_, _, _, hc, ‹_›, h⟩
    · cases h
  · cases h

/-- Where a comprehension would bind a name and none is bound, there is no comprehension. -/
theorem isComprehension_eq_false {e : Expr}
    (h : e.isComprehension = true → e.binding?.isSome = true) (hb : e.binding? = none) :
    e.isComprehension = false := by
  refine Bool.eq_false_iff.mpr fun hc => ?_
  have hnamed := h hc
  rw [hb] at hnamed
  cases hnamed

theorem resolveIn_of_binding (bound : List String) {name : String} {evaluator : Evaluator}
    {collection iterator body : Expr} {x : String}
    (h : binding? (node name evaluator [collection, iterator, body]) = some x) :
    resolveIn bound (node name evaluator [collection, iterator, body]) =
      node name evaluator
        [resolveIn bound collection, boundName x, resolveIn (x :: bound) body] := by
  simp only [resolveIn, h, withChildren, Expr.name, Expr.evaluator]

theorem resolveIn_of_no_binding (bound : List String) {name : String} {evaluator : Evaluator}
    {children : List Expr} (h : binding? (node name evaluator children) = none) :
    resolveIn bound (node name evaluator children) =
      resolveNode bound (node name evaluator children) (children.map (resolveIn bound)) := by
  match children with
  | [_, _, _] => simp only [resolveIn, h, List.map_cons, List.map_nil]
  | [] | [_] | [_, _] | _ :: _ :: _ :: _ :: _ =>
    simp only [resolveIn, resolveAll_eq_map, List.map_cons, List.map_nil]

/-- What resolution makes of an accessor with a literal name, inside comprehensions. -/
theorem resolveNode_root {bound : List String} (hb : bound ≠ []) {name property : String}
    {evaluator : Evaluator} {literal : Expr} (children : List Expr)
    (ha : (node name evaluator [literal]).isA .accessor = true)
    (hp : literal.literalText? = some property) :
    resolveNode bound (node name evaluator [literal]) children =
      if property == globalName || property == localName then node name evaluator [literal]
      else resolveName bound property := by
  have hname : (node name evaluator [literal]).propertyName? = some property := hp
  have hempty : bound.isEmpty = false := List.isEmpty_eq_false_iff.mpr hb
  unfold resolveNode
  simp only [ha, hempty, hname, Bool.not_false, Bool.and_self, if_true, Expr.children]

/-- The property of an instance keeps its name as it stands. -/
theorem resolveNode_property {bound : List String} (hb : bound ≠ []) {name property : String}
    {evaluator : Evaluator} {literal owner literal' owner' : Expr}
    (ha : (node name evaluator [literal, owner]).isA .accessor = true)
    (hp : literal.literalText? = some property) :
    resolveNode bound (node name evaluator [literal, owner]) [literal', owner'] =
      node name evaluator [literal, owner'] := by
  have hname : (node name evaluator [literal, owner]).propertyName? = some property := hp
  have hempty : bound.isEmpty = false := List.isEmpty_eq_false_iff.mpr hb
  unfold resolveNode
  simp only [ha, hempty, hname, Bool.not_false, Bool.and_self, if_true, Expr.children, withChildren,
    Expr.name, Expr.evaluator]

/-- Any other node keeps everything but its children. -/
theorem resolveNode_other {bound : List String} {name : String} {evaluator : Evaluator}
    {children children' : List Expr} (hl : children'.length = children.length)
    (h : (node name evaluator children).isA .accessor = true →
      (node name evaluator children).propertyName?.isSome = true →
        bound = [] ∨ 2 < children.length) :
    resolveNode bound (node name evaluator children) children' = node name evaluator children' := by
  unfold resolveNode
  split
  · rename_i hacc
    simp only [Bool.and_eq_true, Bool.not_eq_true', List.isEmpty_eq_false_iff] at hacc
    cases hn : (node name evaluator children).propertyName? with
    | none => rfl
    | some property =>
      have hlong := (h hacc.1 (by rw [hn]; rfl)).resolve_left hacc.2
      match children, children', hl, hlong with
      | _ :: _ :: _ :: _, _ :: _ :: _ :: _, _, _ => rfl
  · rfl

/-- **Induction over resolution**, one case for every way to resolve a node.  A name that starts at
a scope stays, a name that does not is replaced, a comprehension binds a name, and every other node
keeps everything but its children. -/
@[elab_as_elim]
theorem resolveIn_induction {motive : List String → Expr → Expr → Prop}
    (scope : ∀ bound name evaluator literal property, bound ≠ [] →
      (node name evaluator [literal]).isA .accessor = true → literal.literalText? = some property →
      (property = globalName ∨ property = localName) →
      motive bound (node name evaluator [literal]) (node name evaluator [literal]))
    (root : ∀ bound name evaluator literal property, bound ≠ [] →
      (node name evaluator [literal]).isA .accessor = true → literal.literalText? = some property →
      property ≠ globalName → property ≠ localName →
      motive bound (node name evaluator [literal]) (resolveName bound property))
    (property : ∀ bound name evaluator literal property owner, bound ≠ [] →
      (node name evaluator [literal, owner]).isA .accessor = true →
      literal.literalText? = some property → motive bound owner (resolveIn bound owner) →
      motive bound (node name evaluator [literal, owner])
        (node name evaluator [literal, resolveIn bound owner]))
    (comprehension : ∀ bound name evaluator collection iterator body x,
      (node name evaluator [collection, iterator, body]).isComprehension = true →
      iterator.iteratorName? = some x →
      motive bound collection (resolveIn bound collection) →
      motive (x :: bound) body (resolveIn (x :: bound) body) →
      motive bound (node name evaluator [collection, iterator, body])
        (node name evaluator
          [resolveIn bound collection, boundName x, resolveIn (x :: bound) body]))
    (other : ∀ bound name evaluator children, binding? (node name evaluator children) = none →
      ((node name evaluator children).isA .accessor = true →
        (node name evaluator children).propertyName?.isSome = true →
          bound = [] ∨ 2 < children.length) →
      (∀ c ∈ children, motive bound c (resolveIn bound c)) →
      motive bound (node name evaluator children)
        (node name evaluator (children.map (resolveIn bound))))
    (bound : List String) (e : Expr) : motive bound e (resolveIn bound e) := by
  induction e using Expr.induction generalizing bound with
  | node name evaluator children ih =>
  cases hbind : binding? (node name evaluator children) with
  | some x =>
    obtain ⟨collection, iterator, body, rfl, hc, hi⟩ := binding?_eq_some hbind
    rw [resolveIn_of_binding bound hbind]
    exact comprehension _ _ _ _ _ _ _ hc hi (ih _ (by simp) _) (ih _ (by simp) _)
  | none =>
    rw [resolveIn_of_no_binding bound hbind]
    by_cases hkept : (node name evaluator children).isA .accessor = true →
        (node name evaluator children).propertyName?.isSome = true →
          bound = [] ∨ 2 < children.length
    · rw [resolveNode_other (List.length_map _) hkept]
      exact other _ _ _ _ hbind hkept fun c hc => ih c hc bound
    · simp only [Classical.not_imp, not_or, Nat.not_lt] at hkept
      obtain ⟨ha, hnamed, hb, hshort⟩ := hkept
      obtain ⟨p, hp⟩ := Option.isSome_iff_exists.mp hnamed
      rcases children with _ | ⟨literal, _ | ⟨owner, _ | ⟨_, _⟩⟩⟩
      · cases hp
      · replace hp : literal.literalText? = some p := hp
        rw [resolveNode_root hb _ ha hp]
        split
        · rename_i hscope
          simp only [Bool.or_eq_true, beq_iff_eq] at hscope
          exact scope _ _ _ _ _ hb ha hp hscope
        · rename_i hscope
          simp only [Bool.or_eq_true, beq_iff_eq, not_or] at hscope
          exact root _ _ _ _ _ hb ha hp hscope.1 hscope.2
      · replace hp : literal.literalText? = some p := hp
        rw [List.map_cons, List.map_cons, List.map_nil, resolveNode_property hb ha hp]
        exact property _ _ _ _ _ _ hb ha hp (ih owner (by simp) bound)
      · exact absurd hshort (by simp)

/-! ## Names made by resolution -/

/-- What holds of accessors with what it holds of as instance holds of a resolved name. -/
theorem resolveName_of_accessor {P : Expr → Prop}
    (h : ∀ name owner, (∀ o ∈ owner, P o) → P (accessor name owner))
    (bound : List String) (name : String) : P (resolveName bound name) := by
  have steps : ∀ n, ∀ o ∈ globalSteps n, P o := by
    intro n
    induction n with
    | zero => exact fun _ ho => nomatch ho
    | succ n ih =>
      intro o ho
      obtain rfl : accessor globalName (globalSteps n) = o := Option.some.inj ho
      exact h _ _ ih
  unfold resolveName
  split
  · refine h _ _ ?_
    intro o ho
    obtain rfl := Option.some.inj ho
    exact h _ _ (steps _)
  · exact h _ _ (steps _)

theorem boundName_eq (name : String) : boundName name = resolveName [name] name := by
  simp [boundName, resolveName, globalSteps]

/-- Inside comprehensions a name is a property of a scope. -/
theorem resolveName_eq_accessor {bound : List String} (hb : bound ≠ []) (name : String) :
    ∃ owner, resolveName bound name = accessor name (some owner) := by
  unfold resolveName
  split
  · exact ⟨_, rfl⟩
  · obtain ⟨x, rest, rfl⟩ := List.exists_cons_of_ne_nil hb
    exact ⟨_, rfl⟩

theorem evaluator_resolveName (bound : List String) (name : String) :
    (resolveName bound name).evaluator = .accessor :=
  resolveName_of_accessor (P := fun e => e.evaluator = .accessor) (fun _ _ _ => rfl) bound name

/-! ## Evaluators -/

/-- A node keeps the name of its evaluator. -/
theorem evaluator_name_resolveIn (bound : List String) (e : Expr) :
    (resolveIn bound e).evaluator.name = e.evaluator.name := by
  induction bound, e using resolveIn_induction with
  | scope => rfl
  | root bound name evaluator literal p hb ha hp hg hl =>
    rw [evaluator_resolveName]
    exact (beq_iff_eq.mp ha).symm
  | property => rfl
  | comprehension => rfl
  | other => rfl

theorem isA_resolveIn (bound : List String) (e : Expr) (op : Operator) :
    (resolveIn bound e).isA op = e.isA op := by
  rw [isA, isA, evaluator_name_resolveIn]

/-- A node with a built-in evaluator keeps it. -/
theorem evaluator_resolveIn {ambient : Ambient} {e : Expr} (h : e.evaluator.Builtin ambient)
    (bound : List String) : (resolveIn bound e).evaluator = e.evaluator := by
  induction bound, e using resolveIn_induction with
  | scope => rfl
  | root bound name evaluator literal p hb ha hp hg hl =>
    rw [evaluator_resolveName]
    exact (h.eq_accessor (beq_iff_eq.mp ha)).symm
  | property => rfl
  | comprehension => rfl
  | other => rfl

/-- What resolution makes of the literal that names a property keeps the name. -/
theorem propertyName?_map_resolveIn {ambient : Ambient} {bound : List String} {name : String}
    {evaluator : Evaluator} {children : List Expr}
    (h : ∀ c ∈ children, c.evaluator.Builtin ambient) :
    (node name evaluator (children.map (resolveIn bound))).propertyName?
      = (node name evaluator children).propertyName? := by
  cases children with
  | nil => rfl
  | cons literal rest =>
    change (resolveIn bound literal).literalText? = literal.literalText?
    rw [literalText?, literalText?, constant?, constant?, evaluator_resolveIn (h literal (by simp))]

/-- A literal comes from the same literal. -/
theorem literalText?_of_resolveIn {bound : List String} {e : Expr} {s : String}
    (h : (resolveIn bound e).literalText? = some s) : e.literalText? = some s := by
  induction bound, e using resolveIn_induction with
  | scope => exact h
  | root bound name evaluator literal p hb ha hp hg hl =>
    rw [literalText?, constant?, evaluator_resolveName] at h
    cases h
  | property => exact h
  | comprehension => exact h
  | other => exact h

/-- A predicate on evaluators stays true when it is true of what accessors are made of. -/
theorem Everywhere.resolveIn {P : Evaluator → Prop} {e : Expr}
    (h : e.Everywhere fun n => P n.evaluator) (haccessor : P .accessor)
    (hliteral : ∀ s, P (.constant (.text s))) (bound : List String) :
    (resolveIn bound e).Everywhere fun n => P n.evaluator := by
  have made : ∀ name owner, (∀ o ∈ owner, Everywhere (fun n => P n.evaluator) o) →
      Everywhere (fun n => P n.evaluator) (accessor name owner) :=
    fun name _ ho => .of_accessor haccessor (hliteral name) ho
  induction bound, e using resolveIn_induction with
  | scope => exact h
  | root => exact resolveName_of_accessor made _ _
  | property bound name evaluator literal p owner hb ha hp ih =>
    obtain ⟨here, beneath⟩ := node_iff.mp h
    exact .node here (forall_mem_two.mpr ⟨beneath _ (by simp), ih (beneath _ (by simp))⟩)
  | comprehension bound name evaluator collection iterator body x hc hi ihc ihb =>
    obtain ⟨here, beneath⟩ := node_iff.mp h
    refine .node here (forall_mem_three.mpr ?_)
    refine ⟨ihc (beneath _ (by simp)), ?_, ihb (beneath _ (by simp))⟩
    rw [boundName_eq]
    exact resolveName_of_accessor made _ _
  | other bound name evaluator children hb ha ih =>
    obtain ⟨here, beneath⟩ := node_iff.mp h
    refine .node here ?_
    intro c hc
    obtain ⟨d, hd, rfl⟩ := List.mem_map.mp hc
    exact ih d hd (beneath d hd)

/-! ## What binds a name -/

/-- What binds a name is an accessor, bare or of one instance. -/
theorem isA_of_iteratorName? {e : Expr} (h : e.iteratorName?.isSome = true) :
    e.isA .accessor = true ∧ (e.children.length = 1 ∨ e.children.length = 2) := by
  unfold iteratorName? at h
  split at h
  · rename_i ha
    refine ⟨ha, ?_⟩
    split at h
    · rename_i hc
      exact .inl (by rw [hc]; rfl)
    · rename_i hc
      exact .inr (by rw [hc]; rfl)
    · cases h
  · cases h

/-- The bare name of a local scope. -/
def IsLocalScope (e : Expr) : Prop :=
  e.isA .accessor = true ∧ e.children.length = 1 ∧ e.propertyName? = some localName

theorem iteratorName?_bare {name x : String} {evaluator : Evaluator} {literal : Expr}
    (ha : (node name evaluator [literal]).isA .accessor = true)
    (hp : literal.literalText? = some x) :
    (node name evaluator [literal]).iteratorName? = some x := by
  unfold iteratorName?
  rw [if_pos ha]
  exact hp

theorem iteratorName?_local {name x : String} {evaluator : Evaluator} {literal scope : Expr}
    (ha : (node name evaluator [literal, scope]).isA .accessor = true)
    (hp : literal.literalText? = some x) (hs : scope.IsLocalScope) :
    (node name evaluator [literal, scope]).iteratorName? = some x := by
  obtain ⟨hsa, hsl, hsp⟩ := hs
  have hlocal : scope.propertyName? = some "$local" := hsp
  unfold iteratorName?
  rw [if_pos ha]
  simp only [children_node, hsa, hsl, hlocal, BEq.rfl, Bool.and_self, if_true]
  exact hp

/-- What binds a name is the name alone, or its resolved form that reads it from the local scope. -/
theorem iteratorName?_cases {e : Expr} {x : String} (h : e.iteratorName? = some x) :
    (∃ literal, e.children = [literal] ∧ literal.literalText? = some x) ∨
      ∃ literal scope, e.children = [literal, scope] ∧ literal.literalText? = some x ∧
        scope.IsLocalScope := by
  obtain ⟨name, evaluator, children⟩ := e
  unfold iteratorName? at h
  split at h
  · split at h
    · rename_i hc
      obtain rfl : children = [_] := hc
      exact .inl ⟨_, rfl, h⟩
    · rename_i hc
      obtain rfl : children = [_, _] := hc
      split at h
      · rename_i hscope
        simp only [Bool.and_eq_true, beq_iff_eq] at hscope
        exact .inr ⟨_, _, rfl, h, hscope.1.1, hscope.1.2, hscope.2⟩
      · cases h
    · cases h
  · cases h

/-- A node that has one child after resolution is kept, and so is the literal beneath it. -/
theorem exists_child_of_resolveIn {bound : List String} {e : Expr}
    (hl : (resolveIn bound e).children.length = 1) :
    ∃ name evaluator child child', e = node name evaluator [child] ∧
      resolveIn bound e = node name evaluator [child'] ∧
      ∀ s, child'.literalText? = some s → child.literalText? = some s := by
  induction bound, e using resolveIn_induction with
  | scope => exact ⟨_, _, _, _, rfl, rfl, fun _ hs => hs⟩
  | root bound name evaluator literal p hb ha hp hg hlo =>
    obtain ⟨owner, h⟩ := resolveName_eq_accessor hb p
    rw [h] at hl
    cases hl
  | property => cases hl
  | comprehension => cases hl
  | other bound name evaluator children hb ha ih =>
    obtain ⟨child, rfl⟩ := List.length_eq_one_iff.mp ((List.length_map _).symm.trans hl)
    exact ⟨_, _, _, _, rfl, rfl, fun _ => literalText?_of_resolveIn⟩

/-- Resolution makes no local scope out of what was none. -/
theorem IsLocalScope.of_resolveIn {bound : List String} {e : Expr}
    (h : (resolveIn bound e).IsLocalScope) : e.IsLocalScope := by
  obtain ⟨ha, hl, hp⟩ := h
  rw [isA_resolveIn] at ha
  obtain ⟨name, evaluator, child, child', rfl, hresolved, literal⟩ := exists_child_of_resolveIn hl
  rw [hresolved] at hp
  exact ⟨ha, rfl, literal _ hp⟩

/-- What binds a name after resolution did so before. -/
theorem iteratorName?_isSome_of_resolveIn {bound : List String} {e : Expr}
    (h : (resolveIn bound e).iteratorName?.isSome = true) : e.iteratorName?.isSome = true := by
  obtain ⟨x, hx⟩ := Option.isSome_iff_exists.mp h
  have ha : e.isA .accessor = true := by
    rw [← isA_resolveIn bound]
    exact (isA_of_iteratorName? h).1
  rcases iteratorName?_cases hx with
    ⟨literal', hchildren, hp⟩ | ⟨literal', scope', hchildren, hp, hs⟩
  · obtain ⟨name, evaluator, child, child', rfl, hresolved, literal⟩ :=
      exists_child_of_resolveIn (by rw [hchildren]; rfl)
    rw [hresolved] at hchildren
    obtain rfl : child' = literal' := by simpa using hchildren
    exact Option.isSome_iff_exists.mpr ⟨x, iteratorName?_bare ha (literal x hp)⟩
  · induction bound, e using resolveIn_induction with
    | scope => exact h
    | root bound name evaluator literal p hb _ hp =>
      exact Option.isSome_iff_exists.mpr ⟨p, iteratorName?_bare ha hp⟩
    | property bound name evaluator literal p owner hb _ hp =>
      obtain ⟨-, rfl⟩ : literal = literal' ∧ resolveIn bound owner = scope' := by
        simpa using hchildren
      exact Option.isSome_iff_exists.mpr
        ⟨p, iteratorName?_local ha hp (IsLocalScope.of_resolveIn hs)⟩
    | comprehension => cases hchildren
    | other bound name evaluator children =>
      have two : children.length = 2 := by simpa using congrArg List.length hchildren
      obtain ⟨literal, scope, rfl⟩ := List.length_eq_two.mp two
      obtain ⟨rfl, rfl⟩ : resolveIn bound literal = literal' ∧ resolveIn bound scope = scope' := by
        simpa using hchildren
      exact Option.isSome_iff_exists.mpr
        ⟨x, iteratorName?_local ha (literalText?_of_resolveIn hp) (IsLocalScope.of_resolveIn hs)⟩

/-- **No name is bound after resolution where none was before.** -/
theorem binding?_map_resolveIn (bound : List String) {name : String} {evaluator : Evaluator}
    {children : List Expr} (h : binding? (node name evaluator children) = none) :
    binding? (node name evaluator (children.map (resolveIn bound))) = none := by
  refine Option.not_isSome_iff_eq_none.mp ?_
  intro hsome
  obtain ⟨x, hx⟩ := Option.isSome_iff_exists.mp hsome
  obtain ⟨c, i, b, heq, hcomp, hi⟩ := binding?_eq_some hx
  have three : children.length = 3 := by simpa using congrArg List.length heq
  obtain ⟨collection, iterator, body, rfl⟩ := List.length_eq_three.mp three
  obtain ⟨-, rfl, -⟩ : resolveIn bound collection = c ∧ resolveIn bound iterator = i ∧
    resolveIn bound body = b := by simpa using heq
  have before := iteratorName?_isSome_of_resolveIn (Option.isSome_iff_exists.mpr ⟨x, hi⟩)
  have hcomp' : (node name evaluator [collection, iterator, body]).isComprehension = true := hcomp
  simp only [binding?, children_node, hcomp', if_true] at h
  rw [h] at before
  cases before

/-! ## Nothing is left to resolve -/

theorem resolvingAction?_of_not_comprehension {e : Expr} (h : e.isComprehension = false) :
    resolvingAction? e = none := by
  have hn : e.needsResolution = false := by
    unfold needsResolution
    split
    · simp [h]
    · rfl
  simp [resolvingAction?, hn]

theorem resolvingAction?_of_accessor {e : Expr} (h : e.isA .accessor = true) :
    resolvingAction? e = none :=
  resolvingAction?_of_not_comprehension (isComprehension_of_isA h)

/-- An operator that binds no name is run on what its children mean. -/
theorem evaluate_withEvaluator (ambient : Ambient) {op : Operator}
    (hop : op.isComprehension = false) (children : List Expr) :
    (withEvaluator (op.evaluator ambient) children).evaluate =
      runNode .nested (withEvaluator (op.evaluator ambient) children)
        (children.map (meaning .nested resolvingAction?)) := by
  have plain := (isComprehension_withEvaluator ambient op children).trans hop
  exact congrArg Meaning.value (meaning_node _ (resolvingAction?_of_not_comprehension plain))

/-- A resolved node is evaluated as it stands. -/
theorem resolvingAction?_resolveIn (bound : List String) (e : Expr) :
    resolvingAction? (resolveIn bound e) = none := by
  induction bound, e using resolveIn_induction with
  | scope bound name evaluator literal p hb ha hp hn => exact resolvingAction?_of_accessor ha
  | root => exact resolvingAction?_of_accessor (by rw [isA, evaluator_resolveName]; rfl)
  | property bound name evaluator literal p owner hb ha hp ih =>
    exact resolvingAction?_of_accessor ha
  | comprehension bound name evaluator collection iterator body x hc hi ihc ihb =>
    have settled : needsResolution (node name evaluator
        [resolveIn bound collection, boundName x, resolveIn (x :: bound) body]) = false := by
      simp [needsResolution, Expr.children, boundName, accessor, withEvaluator]
    simp [resolvingAction?, settled]
  | other bound name evaluator children hb ha ih =>
    simp [resolvingAction?, binding?_map_resolveIn bound hb]

/-- **In a resolved tree nothing is left to resolve.** -/
theorem meaning_resolveIn {ambient : Ambient} (bound : List String) {e : Expr}
    (h : e.Everywhere fun n => n.evaluator.Builtin ambient) :
    (resolveIn bound e).meaning .nested resolvingAction?
      = (resolveIn bound e).meaning .nested fun _ => none := by
  -- a literal stays as it is, and so does whatever is beneath it
  have literals : ∀ {literal : Expr} {s : String}, literal.evaluator.Builtin ambient →
      literal.literalText? = some s → literal.meaning .nested resolvingAction?
        = literal.meaning .nested fun _ => none := by
    rintro ⟨name, evaluator, children⟩ s hev hs
    obtain rfl : evaluator = .constant (.text s) := evaluator_of_literalText? hev hs
    rw [meaning_constant _ (resolvingAction?_of_not_comprehension rfl), meaning_constant _ rfl]
  have made : ∀ name owner,
      (∀ o ∈ owner, o.meaning .nested resolvingAction? = o.meaning .nested fun _ => none) →
      (accessor name owner).meaning .nested resolvingAction?
        = (accessor name owner).meaning .nested fun _ => none := by
    intro name owner ho
    refine meaning_congr _ (resolvingAction?_of_accessor rfl) ?_
    intro c hc
    rcases List.mem_cons.mp hc with rfl | hc
    · exact literals (.constant (.text name)) rfl
    · exact ho c (Option.mem_toList.mp hc)
  induction bound, e using resolveIn_induction with
  | scope bound name evaluator literal p hb ha hp hn =>
    refine meaning_congr _ (resolvingAction?_of_accessor ha) (List.forall_mem_singleton.mpr ?_)
    exact literals (h.child (c := literal) (by simp [Expr.children])).here hp
  | root => exact resolveName_of_accessor made _ _
  | property bound name evaluator literal p owner hb ha hp ih =>
    obtain ⟨-, beneath⟩ := Everywhere.node_iff.mp h
    refine meaning_congr _ (resolvingAction?_of_accessor ha) (forall_mem_two.mpr ?_)
    exact ⟨literals (beneath _ (by simp)).here hp, ih (beneath _ (by simp))⟩
  | comprehension bound name evaluator collection iterator body x hc hi ihc ihb =>
    obtain ⟨-, beneath⟩ := Everywhere.node_iff.mp h
    have bare : needsResolution (node name evaluator
        [resolveIn bound collection, boundName x, resolveIn (x :: bound) body]) = false := by
      simp [needsResolution, Expr.children, boundName, accessor, withEvaluator]
    refine meaning_congr _ (by simp [resolvingAction?, bare]) (forall_mem_three.mpr ?_)
    refine ⟨ihc (beneath _ (by simp)), ?_, ihb (beneath _ (by simp))⟩
    rw [boundName_eq]
    exact resolveName_of_accessor made _ _
  | other bound name evaluator children hb ha ih =>
    obtain ⟨-, beneath⟩ := Everywhere.node_iff.mp h
    have here := resolvingAction?_resolveIn bound (node name evaluator children)
    rw [resolveIn_of_no_binding bound hb, resolveNode_other (List.length_map _) ha] at here
    refine meaning_congr _ here ?_
    intro c hc
    obtain ⟨d, hd, rfl⟩ := List.mem_map.mp hc
    exact ih d hd (beneath d hd)

end StateExpr.Expr
