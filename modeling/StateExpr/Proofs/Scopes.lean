import StateExpr.Proofs.Path
import StateExpr.Proofs.Preservation
import StateExpr.Proofs.Resolution
/-!
# Scopes

The body of a comprehension runs in a map that holds the enclosing state.  When the body has ended
the state is taken back from there, and a state that is no longer held by a map is lost: null takes
its place.

A body can reach the scopes around it by the name of the enclosing state.  What it assigns further
out, or beneath any other name, leaves the scopes standing; an assignment to a scope replaces it,
together with all states that it holds.  So a body gives the enclosing state back when no path that
it sets ends at one of the scopes around it.

Main statements: `Scoped.assign`, which assignments leave the scopes standing,
`Expr.SparesScopes.meaning_preserves`, and from both `Expr.scope_given_back`.
-/

namespace StateExpr

open StateExpr.Action (Gives Preserves)

/-- A state inside so many comprehensions: a map that holds the enclosing state, and so on. -/
inductive Scoped : Nat → Value → Prop where
  | outermost (s : Value) : Scoped 0 s
  | within {depth : Nat} {entries : Entries} {enclosing : Value}
      (held : Entries.get? globalName entries = some enclosing)
      (henclosing : Scoped depth enclosing) : Scoped (depth + 1) (.map entries)

/-- The path steps from scope to scope and nowhere else. -/
def AlongScopes (steps : List PathStep) : Prop := ∀ step ∈ steps, step.key = .name globalName

theorem alongScopes_concat {steps : List PathStep} {step : PathStep} :
    AlongScopes (steps ++ [step]) ↔ AlongScopes steps ∧ step.key = .name globalName := by
  simp only [AlongScopes, List.forall_mem_append, List.forall_mem_singleton]

namespace Scoped

variable {depth : Nat} {s : Value}

theorem scopeOf (h : Scoped depth s) (name : String) (item : Value) :
    Scoped (depth + 1) (Scoping.scopeOf s name item) :=
  .within rfl h

theorem stateOf (h : Scoped (depth + 1) s) : Scoped depth (Scoping.stateOf s) := by
  cases h with
  | within held henclosing =>
    simpa only [Scoping.stateOf, held, Option.getD_some] using henclosing

/-- A map that is there is not made anew. -/
theorem preparedFor (h : Scoped depth s) (rest : List PathStep) :
    Scoped depth (StateExpr.preparedFor rest s) := by
  cases h with
  | outermost => exact .outermost _
  | within held henclosing =>
    rcases rest with _ | ⟨⟨_ | _, _⟩, _⟩ <;> exact .within held henclosing

/-- **An assignment leaves the scopes standing**, unless it ends at one of them. -/
theorem assign (new : Value) {steps : List PathStep} (h : Scoped depth s)
    (hsteps : AlongScopes steps → depth ≤ steps.length) :
    Scoped depth (new.assign steps s).2 := by
  -- a step to the enclosing state leaves one scope behind, any other step ends in this one
  induction steps generalizing depth s with
  | nil =>
    obtain rfl : depth = 0 := Nat.le_zero.mp (hsteps nofun)
    exact .outermost _
  | cons step rest ih =>
    obtain ⟨key, owner⟩ := step
    cases h with
    | outermost => exact .outermost _
    | @within depth entries enclosing held henclosing =>
      cases key with
      | index i => exact .within held henclosing
      | name n =>
        rw [Value.assign_name, Value.asMap?_map, Option.getD_some]
        by_cases hn : n = globalName
        · subst hn
          rw [held, Option.getD_some]
          refine .within (Entries.get?_insert_self ..) (ih (henclosing.preparedFor rest) ?_)
          intro along
          exact Nat.le_of_succ_le_succ (hsteps (List.forall_mem_cons.mpr ⟨rfl, along⟩))
        · exact .within ((Entries.get?_insert_of_ne (Ne.symm hn) ..).trans held) henclosing

theorem le_length_of_assign {new : Value} (hnew : new.asMap? = none) {steps : List PathStep}
    (h : Scoped depth s) (hafter : Scoped depth (new.assign steps s).2)
    (along : AlongScopes steps) : depth ≤ steps.length := by
  induction steps generalizing depth s with
  | nil =>
    change Scoped depth new at hafter
    cases hafter with
    | outermost => exact Nat.le_refl 0
    | within => cases hnew
  | cons step rest ih =>
    obtain ⟨key, owner⟩ := step
    obtain ⟨rfl, beneath⟩ : key = .name globalName ∧ AlongScopes rest :=
      List.forall_mem_cons.mp along
    cases h with
    | outermost => exact Nat.zero_le _
    | within held henclosing =>
      rw [Value.assign_name, Value.asMap?_map, Option.getD_some, held, Option.getD_some] at hafter
      cases hafter with
      | within held' hafter =>
        obtain rfl := Option.some.inj ((Entries.get?_insert_self ..).symm.trans held')
        exact Nat.succ_le_succ (ih (henclosing.preparedFor rest) hafter beneath)

/-- **A value that is no map breaks the scopes exactly where it is put in the place of one.** -/
theorem assign_iff {new : Value} (hnew : new.asMap? = none) (steps : List PathStep)
    (h : Scoped depth s) :
    Scoped depth (new.assign steps s).2 ↔ (AlongScopes steps → depth ≤ steps.length) :=
  ⟨h.le_length_of_assign hnew, h.assign new⟩

/-- A body that leaves the scopes standing gives the enclosing one back. -/
theorem inScope_preserves {body : Action Value Value} (h : body.Preserves (Scoped (depth + 1)))
    (name : String) (item : Value) :
    (Scoping.inScope name body item).Preserves (Scoped depth) :=
  fun _ hs => (h _ (hs.scopeOf name item)).stateOf

end Scoped

namespace Expr

variable {ambient : Ambient} {e : Expr}

/-! ## Paths that may lead to a scope -/

/-- As an index, the expression may be the name of the enclosing state. -/
def mayBeGlobal (index : Expr) : Bool := index.constant?.all fun v => v.asText? == some globalName

/-- How many scopes further out the path of an expression leads, if it may lead to a scope at
all. -/
def scopeSteps? : Expr → Option Nat
  | node _ _ [] => none
  | node name evaluator [literal] =>
    if (node name evaluator [literal]).isA .accessor && literal.literalText? == some globalName then
      some 1
    else none
  | node name evaluator (first :: second :: rest) =>
    let e := node name evaluator (first :: second :: rest)
    if e.isA .accessor then
      if first.literalText? == some globalName then (scopeSteps? second).map (· + 1) else none
    else if e.isA .element && rest.isEmpty && second.mayBeGlobal then
      (scopeSteps? first).map (· + 1)
    else none

section Equations

variable {name property : String} {evaluator : Evaluator} {literal owner index : Expr}
  {children rest : List Expr}

theorem scopeSteps?_root (ha : (node name evaluator [literal]).isA .accessor = true)
    (hp : literal.literalText? = some property) :
    (node name evaluator [literal]).scopeSteps?
      = if property = globalName then some 1 else none := by
  simp [scopeSteps?, ha, hp]

theorem scopeSteps?_property
    (ha : (node name evaluator (literal :: owner :: rest)).isA .accessor = true)
    (hp : literal.literalText? = some property) :
    (node name evaluator (literal :: owner :: rest)).scopeSteps?
      = if property = globalName then owner.scopeSteps?.map (· + 1) else none := by
  simp [scopeSteps?, ha, hp]

theorem scopeSteps?_element (ha : (node name evaluator [owner, index]).isA .accessor = false)
    (he : (node name evaluator [owner, index]).isA .element = true) :
    (node name evaluator [owner, index]).scopeSteps?
      = if index.mayBeGlobal then owner.scopeSteps?.map (· + 1) else none := by
  simp [scopeSteps?, ha, he]

/-- Neither a property by a literal name nor an item. -/
theorem scopeSteps?_of_no_path
    (ha : (node name evaluator children).isA .accessor = true →
      (node name evaluator children).propertyName? = none)
    (he : (node name evaluator children).isA .element = true → children.length ≠ 2) :
    (node name evaluator children).scopeSteps? = none := by
  match children with
  | [] => rfl
  | [literal] =>
    cases h : (node name evaluator [literal]).isA .accessor with
    | false => simp [scopeSteps?, h]
    | true =>
      have hp : literal.literalText? = none := ha h
      simp [scopeSteps?, h, hp]
  | first :: second :: rest =>
    cases h : (node name evaluator (first :: second :: rest)).isA .accessor with
    | false =>
      cases rest with
      | cons _ _ => simp [scopeSteps?, h]
      | nil =>
        have hne : (node name evaluator [first, second]).isA .element = false :=
          Bool.eq_false_iff.mpr fun h => he h rfl
        simp [scopeSteps?, h, hne]
    | true =>
      have hp : first.literalText? = none := ha h
      simp [scopeSteps?, h, hp]

/-- Only the name, the index and the owner matter. -/
theorem scopeSteps?_map {f : Expr → Expr}
    (hname : (node name evaluator (children.map f)).propertyName?
      = (node name evaluator children).propertyName?)
    (hindex : ∀ c ∈ children, (f c).mayBeGlobal = c.mayBeGlobal)
    (hsteps : ∀ c ∈ children, (f c).scopeSteps? = c.scopeSteps?) :
    (node name evaluator (children.map f)).scopeSteps?
      = (node name evaluator children).scopeSteps? := by
  match children with
  | [] => rfl
  | [literal] =>
    replace hname : (f literal).literalText? = literal.literalText? := hname
    simp only [List.map_cons, List.map_nil, scopeSteps?, hname]
    rfl
  | first :: second :: rest =>
    replace hname : (f first).literalText? = first.literalText? := hname
    simp only [List.map_cons, scopeSteps?, hname, hindex second (by simp),
      hsteps first (by simp), hsteps second (by simp), List.isEmpty_map]
    rfl

end Equations

theorem keyOf?_eq_global {v : Value} (h : keyOf? v = some (.name globalName)) :
    v = .text globalName := by
  rcases keyOf?_cases h with ⟨n, rfl, hn⟩ | ⟨i, -, hi⟩
  · rw [Key.name.inj hn]
  · cases hi

section Paths

variable {σ : Type} {scoping : Scoping σ} {enter : Expr → Option (Action σ Value)}

theorem index_gives (henter : ∀ n, n.isComprehension = false → enter n = none)
    (h : e.evaluator.Builtin ambient) : (e.meaning scoping enter).value.Gives fun v =>
      keyOf? v = some (.name globalName) → e.mayBeGlobal = true := by
  cases hc : e.constant? with
  | none =>
    intro _ _ _ _
    simp [mayBeGlobal, hc]
  | some w =>
    obtain ⟨name, evaluator, children⟩ := e
    obtain rfl : evaluator = .constant w := h.eq_constant hc
    rw [meaning_constant scoping (henter _ rfl)]
    refine .pure ?_
    intro hkey
    obtain rfl := keyOf?_eq_global hkey
    rfl

/-- **The path of an expression leads to a scope only where it may.** -/
theorem path_gives (henter : ∀ n, n.isComprehension = false → enter n = none)
    (hb : e.Everywhere fun n => n.evaluator.Builtin ambient) :
    (e.meaning scoping enter).path.Gives fun steps =>
      AlongScopes steps → e.scopeSteps? = some steps.length := by
  induction e using Expr.induction with
  | node name evaluator children ih =>
    obtain ⟨-, beneath⟩ := Everywhere.node_iff.mp hb
    rw [meaning_eq]
    unfold pathOf
    cases ha : (node name evaluator children).isA .accessor with
    | true =>
      simp only [if_true]
      cases hp : (node name evaluator children).propertyName? with
      | none => exact .throw
      | some p =>
        match children with
        | [] => cases hp
        | [literal] =>
          replace hp : literal.literalText? = some p := hp
          refine .pure ?_
          intro along
          have hname : p = globalName := Key.name.inj (along _ (List.mem_singleton_self _))
          rw [scopeSteps?_root ha hp, if_pos hname]
          rfl
        | literal :: owner :: rest =>
          replace hp : literal.literalText? = some p := hp
          refine .bind (ih owner (by simp) (beneath owner (by simp))) ?_
          intro steps hsteps
          refine .pure ?_
          intro along
          obtain ⟨before, hkey⟩ := alongScopes_concat.mp along
          rw [scopeSteps?_property ha hp, if_pos (Key.name.inj hkey), hsteps before]
          simp
    | false =>
      simp only [Bool.false_eq_true, if_false]
      cases he : (node name evaluator children).isA .element with
      | false => exact .throw
      | true =>
        match children with
        | [owner, index] =>
          refine .bind (index_gives henter (beneath index (by simp)).here) ?_
          intro v hv
          cases hk : keyOf? v with
          | none => exact .throw
          | some key =>
            refine .bind (ih owner (by simp) (beneath owner (by simp))) ?_
            intro steps hsteps
            refine .pure ?_
            intro along
            obtain ⟨before, hkey⟩ := alongScopes_concat.mp along
            obtain rfl : key = .name globalName := hkey
            rw [scopeSteps?_element ha he, if_pos (hv hk), hsteps before]
            simp
        | [] => exact .throw
        | [_] => exact .throw
        | _ :: _ :: _ :: _ => exact .throw

end Paths

/-- **Resolution changes no path that may lead to a scope, and makes none.** -/
theorem scopeSteps?_resolveIn (hb : e.Everywhere fun n => n.evaluator.Builtin ambient)
    (bound : List String) : (resolveIn bound e).scopeSteps? = e.scopeSteps? := by
  induction bound, e using resolveIn_induction with
  | scope => rfl
  | root bound name evaluator literal p hne ha hp hg hl =>
    obtain ⟨owner, made⟩ := resolveName_eq_accessor hne p
    rw [scopeSteps?_root ha hp, if_neg hg, made]
    exact (scopeSteps?_property rfl rfl).trans (if_neg hg)
  | property bound name evaluator literal p owner hne ha hp ih =>
    have ha' : (node name evaluator [literal, resolveIn bound owner]).isA .accessor = true := ha
    rw [scopeSteps?_property ha hp, scopeSteps?_property ha' hp, ih (hb.child (by simp))]
  | comprehension bound name evaluator collection iterator body x hc hi ihc ihb =>
    have none_of : ∀ children, (node name evaluator children).scopeSteps? = none := by
      intro children
      have hc' : (node name evaluator children).isComprehension = true := hc
      refine scopeSteps?_of_no_path ?_ ?_ <;>
      · rw [isA_of_isComprehension hc' rfl]
        exact nofun
    rw [none_of, none_of]
  | other bound name evaluator children hn hkept ih =>
    obtain ⟨-, builtins⟩ := Everywhere.node_iff.mp hb
    refine scopeSteps?_map (propertyName?_map_resolveIn fun c hc => (builtins c hc).here) ?_ ?_
    · intro c hc
      rw [mayBeGlobal, mayBeGlobal, constant?, constant?, evaluator_resolveIn (builtins c hc).here]
    · exact fun c hc => ih c hc (builtins c hc)

/-! ## Trees that spare the scopes around them -/

/-- Inside so many comprehensions, nothing in the tree sets a path that may end at the scope of one
of them.  The body of a comprehension is inside one more. -/
inductive SparesScopes : Nat → Expr → Prop where
  | comprehension {depth : Nat} {name : String} {evaluator : Evaluator}
      {collection iterator body : Expr}
      (hbinds : evaluator.strategy.form?.any Form.bindsName = true)
      (hcollection : SparesScopes depth collection) (hbody : SparesScopes (depth + 1) body) :
      SparesScopes depth (node name evaluator [collection, iterator, body])
  | other {depth : Nat} {name : String} {evaluator : Evaluator} {children : List Expr}
      (hbinds : evaluator.strategy.form?.any Form.bindsName = true → children.length ≠ 3)
      (htarget : evaluator.strategy = .special .setPathToValue → ∀ target source,
        children = [target, source] → ∀ steps ∈ target.scopeSteps?, depth ≤ steps)
      (beneath : ∀ c ∈ children, SparesScopes depth c) :
      SparesScopes depth (node name evaluator children)

namespace SparesScopes

variable {depth : Nat}

theorem of_accessor {name : String} {owner : Option Expr}
    (h : ∀ o ∈ owner, SparesScopes depth o) : SparesScopes depth (accessor name owner) := by
  refine .other nofun nofun ?_
  intro c hc
  rcases List.mem_cons.mp hc with rfl | hc
  · exact .other nofun nofun nofun
  · exact h c (Option.mem_toList.mp hc)

/-- **A resolved copy spares the scopes that the tree spares.** -/
theorem resolveIn (hb : e.Everywhere fun n => n.evaluator.Builtin ambient)
    (h : e.SparesScopes depth) (bound : List String) :
    (resolveIn bound e).SparesScopes depth := by
  induction bound, e using resolveIn_induction generalizing depth with
  | scope => exact h
  | root => exact resolveName_of_accessor (fun _ _ => of_accessor) _ _
  | property bound name evaluator literal p owner hne ha hp ih =>
    obtain rfl : evaluator = .accessor := hb.here.eq_accessor (beq_iff_eq.mp ha)
    cases h with
    | other hbinds htarget beneath =>
      refine .other nofun nofun (forall_mem_two.mpr ?_)
      exact ⟨beneath _ (by simp), ih (hb.child (by simp)) (beneath _ (by simp))⟩
  | comprehension bound name evaluator collection iterator body x hc hi ihc ihb =>
    cases h with
    | comprehension hbinds hcollection hbody =>
      exact .comprehension hbinds (ihc (hb.child (by simp)) hcollection)
        (ihb (hb.child (by simp)) hbody)
    | other hbinds => exact absurd rfl (hbinds (hb.here.bindsName_eq.trans hc))
  | other bound name evaluator children hn hkept ih =>
    cases h with
    | comprehension hbinds hcollection hbody =>
      exact .comprehension hbinds (ih _ (by simp) (hb.child (by simp)) hcollection)
        (ih _ (by simp) (hb.child (by simp)) hbody)
    | other hbinds htarget beneath =>
      refine .other (by simpa using hbinds) ?_ ?_
      · intro hs target source hchildren
        have two : children.length = 2 := by simpa using congrArg List.length hchildren
        obtain ⟨target', source', rfl⟩ := List.length_eq_two.mp two
        obtain ⟨rfl, -⟩ : Expr.resolveIn bound target' = target ∧
          Expr.resolveIn bound source' = source := by simpa using hchildren
        rw [scopeSteps?_resolveIn (hb.child (by simp))]
        exact htarget hs _ _ rfl
      · intro c hc
        obtain ⟨d, hd, rfl⟩ := List.mem_map.mp hc
        exact ih d hd (hb.child hd) (beneath d hd)

end SparesScopes

/-! ## What the trees preserve -/

variable {depth : Nat}

/-- A value is set after it and its path have been found. -/
theorem runSetPath_preserves {target source : Meaning Value}
    (hsource : source.value.Preserves (Scoped depth))
    (htarget : target.path.Preserves (Scoped depth))
    (hsteps : target.path.Gives fun steps => AlongScopes steps → depth ≤ steps.length) :
    (runSetPath .nested [target, source]).Preserves (Scoped depth) := by
  refine hsource.andThen ?_
  intro v
  refine htarget.bind hsteps ?_
  intro steps spared
  have assigned : (Scoping.nested.assign steps v).Preserves (Scoped depth) :=
    fun _ hs => hs.assign v spared
  exact assigned.andThen fun _ => .pure v

/-- **A tree that spares the scopes leaves them standing**, as long as what it enters does. -/
theorem SparesScopes.meaning_preserves {enter : Expr → Option (Action Value Value)}
    (henter : ∀ n, n.isComprehension = false → enter n = none)
    (hentered : ∀ n depth a, (n.Everywhere fun n => n.evaluator.Builtin ambient) →
      n.SparesScopes depth → enter n = some a → a.Preserves (Scoped depth))
    (hb : e.Everywhere fun n => n.evaluator.Builtin ambient) (h : e.SparesScopes depth) :
    (e.meaning .nested enter).value.Preserves (Scoped depth) ∧
      (e.meaning .nested enter).path.Preserves (Scoped depth) := by
  have entered : ∀ {n : Expr} {depth : Nat} {run : Action Value Value},
      (n.Everywhere fun n => n.evaluator.Builtin ambient) → n.SparesScopes depth →
      run.Preserves (Scoped depth) → ((enter n).getD run).Preserves (Scoped depth) := by
    intro n depth run hn hspares hrun
    cases hen : enter n with
    | none => exact hrun
    | some a => exact hentered n depth a hn hspares hen
  -- over the predicate and not the tree, which would leave the depth of a body where it was
  induction h with
  | @comprehension depth name evaluator collection iterator body hbinds hcollection hbody ihc ihb =>
    have spares : (node name evaluator [collection, iterator, body]).SparesScopes depth :=
      .comprehension hbinds hcollection hbody
    rw [meaning_eq]
    refine ⟨entered hb spares ?_, ?_⟩
    · have hbody := (ihb (hb.child (by simp))).1
      exact runNode_preserves_of_bindsName (e := node name evaluator [collection, iterator, body])
        hbinds (ihc (hb.child (by simp))).1 (Scoped.inScope_preserves hbody)
    · exact pathOf_preserves_of_comprehension (hb.here.bindsName_eq.symm.trans hbinds)
  | @other depth name evaluator children hbinds htarget beneath ih =>
    have spares : (node name evaluator children).SparesScopes depth :=
      .other hbinds htarget beneath
    have each : ∀ m ∈ children.map (meaning .nested enter),
        m.value.Preserves (Scoped depth) ∧ m.path.Preserves (Scoped depth) :=
      List.forall_mem_map.mpr fun c hc => ih c hc (hb.child hc)
    rw [meaning_eq]
    refine ⟨entered hb spares ?_, pathOf_preserves each⟩
    by_cases hs : evaluator.strategy = .special .setPathToValue
    · rw [runNode_of_form _ hs]
      match children with
      | [target, source] =>
        refine runSetPath_preserves (each _ (by simp)).1 (each _ (by simp)).2 ?_
        intro s steps hsteps along
        have hscope := path_gives henter (hb.child (c := target) (by simp)) s steps hsteps along
        exact htarget hs target source rfl _ hscope
      | [] => exact .pure _
      | [_] => exact .pure _
      | _ :: _ :: _ :: _ => exact .pure _
    · refine runNode_preserves hs ?_ fun m hm => (each m hm).1
      rw [List.length_map]
      exact hbinds

/-- A resolved tree leaves standing the scopes that the tree spares. -/
theorem SparesScopes.evaluateResolved_preserves
    (hb : e.Everywhere fun n => n.evaluator.Builtin ambient) (h : e.SparesScopes depth)
    (bound : List String) : (Expr.resolveIn bound e).evaluateResolved.Preserves (Scoped depth) := by
  have hb' : (Expr.resolveIn bound e).Everywhere fun n => n.evaluator.Builtin ambient :=
    hb.resolveIn (P := fun ev => ev.Builtin ambient) (.operator .accessor)
      (fun _ => .constant _) bound
  exact ((h.resolveIn hb bound).meaning_preserves (fun _ _ => rfl) nofun hb').1

/-- So does the tree, which resolves its comprehensions on the way. -/
theorem SparesScopes.evaluate_preserves
    (hb : e.Everywhere fun n => n.evaluator.Builtin ambient) (h : e.SparesScopes depth) :
    e.evaluate.Preserves (Scoped depth) := by
  refine (h.meaning_preserves (fun _ => resolvingAction?_of_not_comprehension) ?_ hb).1
  intro n depth a hn hspares ha
  unfold resolvingAction? at ha
  split at ha
  · obtain rfl := Option.some.inj ha
    exact hspares.evaluateResolved_preserves hn []
  · cases ha

/-! ## The enclosing state -/

/-- **A body gives the enclosing state back**, when no path that it sets may end at a scope around
it.  Evaluated as it stands or resolved, with a value or with an error, it ends in a map that holds
the enclosing state, which is the state afterwards. -/
theorem scope_given_back {body : Expr} {s : Value}
    (hb : body.Everywhere fun n => n.evaluator.Builtin ambient) (h : body.SparesScopes (depth + 1))
    (hs : Scoped depth s) (bound : List String) (name : String) (item : Value) :
    ∀ run ∈ [body.evaluate, (resolveIn bound body).evaluateResolved],
      ∃ entries enclosing, (run.outcome (Scoping.scopeOf s name item)).2 = .map entries ∧
        Entries.get? globalName entries = some enclosing ∧ Scoped depth enclosing ∧
        (Scoping.inScope name run item).outcome s
          = ((run.outcome (Scoping.scopeOf s name item)).1, enclosing) := by
  intro run hrun
  have preserves : run.Preserves (Scoped (depth + 1)) := by
    rcases List.mem_pair.mp hrun with rfl | rfl
    · exact h.evaluate_preserves hb
    · exact h.evaluateResolved_preserves hb bound
  have after := preserves _ (hs.scopeOf name item)
  change Scoped _ (run.outcome (Scoping.scopeOf s name item)).2 at after
  generalize hfound : run.outcome (Scoping.scopeOf s name item) = found at after
  obtain ⟨result, scope⟩ := found
  cases after with
  | @within _ entries enclosing held henclosing =>
    refine ⟨entries, enclosing, rfl, held, henclosing, ?_⟩
    change run (Scoping.scopeOf s name item) = _ at hfound
    simp only [Action.outcome, Scoping.inScope, hfound, Scoping.stateOf, held, Option.getD_some]

/-- Two steps out of two comprehensions, the outermost state is replaced and no scope is. -/
theorem scope_given_back_two_levels :
    let ambient : Ambient := .still
    let body := withEvaluator (Operator.foreach.evaluator ambient)
      [accessor "ys" none, accessor "y" none,
        withEvaluator (Operator.setPathToValue.evaluator ambient)
          [accessor globalName (some (accessor globalName none)), constant (.text "z")]]
    let run := (resolveIn ["x"] body).evaluateResolved
    let s := Value.map [("ys", .list [.text "b"])]
    body.SparesScopes 1 ∧ ∃ entries enclosing,
      (run.outcome (Scoping.scopeOf s "x" (.text "a"))).2 = .map entries ∧
        Entries.get? globalName entries = some enclosing ∧
        (Scoping.inScope "x" run (.text "a")).outcome s
          = (.ok (.list [.text "z"]), enclosing) := by
  intro ambient body run s
  have root : ∀ depth name, SparesScopes depth (accessor name none) := fun _ _ => .of_accessor nofun
  have spares : body.SparesScopes 1 := by
    refine .comprehension rfl (root 1 _) (.other nofun ?_ (forall_mem_two.mpr ?_))
    · intro _ target source hchildren steps hsteps
      obtain ⟨rfl, -⟩ := List.cons.inj hchildren
      obtain rfl : 2 = steps := Option.some.inj hsteps
      exact Nat.le_refl 2
    · exact ⟨.of_accessor fun o ho => Option.some.inj ho ▸ root 2 _, .other nofun nofun nofun⟩
  have builtin : body.Everywhere fun n => n.evaluator.Builtin ambient := by
    have names : ∀ (name : String) (owner : Option Expr),
        (∀ o ∈ owner, o.Everywhere fun n => n.evaluator.Builtin ambient) →
        (accessor name owner).Everywhere fun n => n.evaluator.Builtin ambient :=
      fun _ _ => .of_accessor (.operator .accessor) (.constant _)
    have scope := names globalName none nofun
    refine .node (.operator .foreach) (forall_mem_three.mpr ⟨names _ _ nofun, names _ _ nofun, ?_⟩)
    refine .node (.operator .setPathToValue) (forall_mem_two.mpr ⟨names _ _ ?_, ?_⟩)
    · exact fun o ho => Option.some.inj ho ▸ scope
    · exact .of_leaf (.constant _) rfl
  refine ⟨spares, ?_⟩
  obtain ⟨entries, enclosing, ends, held, -, gives⟩ :=
    scope_given_back builtin spares (.outermost s) ["x"] "x" (.text "a") run (by simp [run])
  exact ⟨entries, enclosing, ends, held, gives⟩

/-- One step out of two comprehensions, the scope of the first is replaced and the state lost. -/
theorem enclosing_state_lost :
    let ambient : Ambient := .still
    let inner := withEvaluator (Operator.foreach.evaluator ambient)
      [accessor "ys" none, accessor "y" none,
        withEvaluator (Operator.setPathToValue.evaluator ambient)
          [accessor globalName none, constant (.number 5)]]
    let e := withEvaluator (Operator.foreach.evaluator ambient)
      [accessor "xs" none, accessor "x" none, inner]
    let s := Value.map [("xs", .list [.number 1]), ("ys", .list [.number 2])]
    ((resolveIn ["x"] inner).evaluateResolved.outcome (Scoping.scopeOf s "x" (.number 1))).2
        = .number 5 ∧
      e.evaluate.outcome s = (.ok (.list [.list [.number 5]]), .null) :=
  ⟨rfl, rfl⟩

end Expr

end StateExpr
