import StateExpr.Proofs.Path
import StateExpr.Proofs.Resolution
/-!
# Lexical scope

What scope resolution is for: names are bound by the comprehensions around them, the innermost
first, and every other name is a property of one state.  `Expr.evaluateLexically` evaluates a tree
in that sense, with a stack of bindings beside the state and nothing nested.  The scopes that run,
each a value that holds the enclosing state, hold exactly the bindings and the state, one inside the
other.

Main statements: `follow_rootKeys` and `assign_scopesOf`, that reading and assigning through the
scopes is reading and assigning the innermost binding, and `Expr.resolve_evaluate_sameOutcome`, that
a resolved tree evaluates as the tree does lexically.
-/

namespace StateExpr

open StateExpr.Action (Related)

/-! ## Lexical evaluation -/

/-- The names that comprehensions bind, the innermost first, and the state around all of them. -/
structure Environment where
  bindings : List (String × Value)
  state : Value

namespace Environment

/-- The value of a name: the innermost binding, or else a property of the state. -/
def read (name : String) (env : Environment) : Value :=
  match Entries.get? name env.bindings with
  | some v => v
  | none => env.state.property name

/-- Put a value at the end of a path: in the innermost binding of the name that it starts at, or
else in the state. -/
def assignAt (new : Value) (steps : List PathStep) : Action Environment Unit := fun env =>
  match steps with
  | ⟨.name name, _⟩ :: rest =>
    match Entries.get? name env.bindings with
    | some v =>
      let (result, after) := new.assign rest (preparedFor rest v)
      (result, ⟨Entries.insert name after env.bindings, env.state⟩)
    | none =>
      let (result, after) := new.assign steps env.state
      (result, ⟨env.bindings, after⟩)
  | _ =>
    let (result, after) := new.assign steps env.state
    (result, ⟨env.bindings, after⟩)

/-- Run a body with one more binding, which is dropped afterwards. -/
def within (name : String) (body : Action Environment Value) (item : Value) :
    Action Environment Value := fun env =>
  match body ⟨(name, item) :: env.bindings, env.state⟩ with
  | (result, after) => (result, ⟨after.bindings.tail, after.state⟩)

end Environment

/-- Names are bindings or properties of the one state. -/
def Scoping.lexical : Scoping Environment :=
  ⟨Environment.state, Environment.read, fun steps new => Environment.assignAt new steps,
    Environment.within⟩

/-- Evaluate an expression with every name bound by the comprehensions around it. -/
def Expr.evaluateLexically (e : Expr) (state : Value) : Except EvalError Value × Value :=
  match (e.meaning .lexical fun _ => none).value ⟨[], state⟩ with
  | (result, env) => (result, env.state)

/-! ## Scopes and bindings -/

open Scoping (scopeOf stateOf)

/-- The scope that holds bindings, one inside the other, and the state around all of them. -/
def scopesOf (state : Value) : List (String × Value) → Value
  | [] => state
  | (name, v) :: rest => scopeOf (scopesOf state rest) name v

/-- The keys by which a name is reached inside comprehensions that bind the given names. -/
def rootKeys : List String → String → List Key
  | [], name => [.name name]
  | x :: bound, name =>
    if x = name then [.name localName, .name name] else .name globalName :: rootKeys bound name

/-- The scope holds the bindings of the given names, and the state. -/
def Holds (bound : List String) (scope : Value) (env : Environment) : Prop :=
  scope = scopesOf env.state env.bindings ∧ env.bindings.map Prod.fst = bound

/-- A path from the scope, and the same path from the name that it starts at. -/
def SamePath (bound : List String) (p q : List PathStep) : Prop :=
  ∃ name rest, keysOf q = .name name :: rest ∧ keysOf p = rootKeys bound name ++ rest

theorem SamePath.concat {bound : List String} {p q : List PathStep} (h : SamePath bound p q)
    (key : Key) (owner owner' : String) :
    SamePath bound (p ++ [⟨key, owner⟩]) (q ++ [⟨key, owner'⟩]) := by
  obtain ⟨name, rest, hq, hp⟩ := h
  refine ⟨name, rest ++ [key], ?_, ?_⟩
  · rw [keysOf_concat, hq, List.cons_append]
  · rw [keysOf_concat, hp, List.append_assoc]

/-! ### Reading -/

theorem property_global (state : Value) (name : String) (item : Value) :
    (scopeOf state name item).property globalName = state := rfl

theorem property_local (state : Value) (name : String) (item : Value) :
    (scopeOf state name item).property localName = .map [(name, item)] := rfl

theorem property_singleton (name : String) (v : Value) :
    (Value.map [(name, v)]).property name = v := by
  simp only [Value.property, Entries.property, Entries.get?, if_true]

/-- The keys of a name lead to its innermost binding, or to the property of the state. -/
theorem follow_rootKeys (name : String) (state : Value) (bindings : List (String × Value)) :
    (scopesOf state bindings).follow (rootKeys (bindings.map Prod.fst) name)
      = .ok (Environment.read name ⟨bindings, state⟩) := by
  induction bindings with
  | nil => rfl
  | cons binding rest ih =>
    obtain ⟨x, v⟩ := binding
    by_cases hx : x = name
    · subst hx
      simp only [List.map_cons, rootKeys, if_true, scopesOf, Value.follow, Value.under,
        property_local, property_singleton, Environment.read, Entries.get?]
    · simp only [List.map_cons, rootKeys, hx, if_false, scopesOf, Value.follow, Value.under,
        property_global, ih, Environment.read, Entries.get?]

/-- A bound name is as many scopes away as there are comprehensions between. -/
theorem rootKeys_of_findIdx?_eq_some {bound : List String} {name : String} {n : Nat}
    (h : bound.findIdx? (· == name) = some n) :
    rootKeys bound name
      = List.replicate n (.name globalName) ++ [.name localName, .name name] := by
  induction bound generalizing n with
  | nil => cases h
  | cons x bound ih =>
    by_cases hx : x = name
    · obtain rfl : n = 0 := by simpa [List.findIdx?_cons, hx, eq_comm] using h
      simp [rootKeys, hx]
    · obtain ⟨m, hm, rfl⟩ : ∃ m, bound.findIdx? (· == name) = some m ∧ m + 1 = n := by
        simpa [List.findIdx?_cons, hx] using h
      simp only [rootKeys, hx, if_false, ih hm, List.replicate_succ, List.cons_append]

theorem rootKeys_of_findIdx?_eq_none {bound : List String} {name : String}
    (h : bound.findIdx? (· == name) = none) :
    rootKeys bound name
      = List.replicate bound.length (.name globalName) ++ [.name name] := by
  induction bound with
  | nil => rfl
  | cons x bound ih =>
    by_cases hx : x = name
    · simp [List.findIdx?_cons, hx] at h
    · have hbound : bound.findIdx? (· == name) = none := by
        simpa [List.findIdx?_cons, hx] using h
      simp only [rootKeys, hx, if_false, ih hbound, List.length_cons, List.replicate_succ,
        List.cons_append]

/-- Inside comprehensions a name is read as its keys say. -/
theorem Expr.constantPath_resolveName (bound : List String) (name : String) :
    ConstantPath (resolveName bound name) (rootKeys bound name) := by
  have steps : ∀ n name, ConstantPath (accessor name (globalSteps n))
      (List.replicate n (.name globalName) ++ [.name name]) := by
    intro n
    induction n with
    | zero => exact fun name => .root rfl
    | succ n ih =>
      intro name
      rw [List.replicate_succ']
      exact .property rfl (ih globalName)
  unfold resolveName
  cases h : bound.findIdx? (· == name) with
  | some n =>
    rw [rootKeys_of_findIdx?_eq_some h, List.append_cons]
    exact .property rfl (steps n localName)
  | none =>
    rw [rootKeys_of_findIdx?_eq_none h]
    exact steps _ _

/-! ### Assigning -/

/-- What is missing for a step by name would be made anyway. -/
theorem assign_prepared (new : Value) {steps : List PathStep} {name : String} {rest : List Key}
    (h : keysOf steps = .name name :: rest) (v : Value) :
    new.assign steps (preparedFor steps v) = new.assign steps v := by
  obtain ⟨owner, steps, rfl, -⟩ := keysOf_eq_cons h
  cases v <;> rfl

theorem rootKeys_eq_cons (bound : List String) (name : String) :
    ∃ first rest, rootKeys bound name = .name first :: rest := by
  cases bound with
  | nil => exact ⟨_, _, rfl⟩
  | cons x bound =>
    unfold rootKeys
    split
    · exact ⟨_, _, rfl⟩
    · exact ⟨_, _, rfl⟩

theorem assign_local (new : Value) (owner owner' : String) (rest : List PathStep) (state : Value)
    (name : String) (v : Value) :
    new.assign (⟨.name localName, owner⟩ :: ⟨.name name, owner'⟩ :: rest) (scopeOf state name v) =
      ((new.assign rest (preparedFor rest v)).1,
        scopeOf state name (new.assign rest (preparedFor rest v)).2) := by
  have hname : new.assign (⟨.name name, owner'⟩ :: rest) (.map [(name, v)]) =
      ((new.assign rest (preparedFor rest v)).1,
        .map [(name, (new.assign rest (preparedFor rest v)).2)]) := by
    simp only [Value.assign_name, Value.asMap?_map, Option.getD_some, Entries.get?, Entries.insert,
      if_true]
  change ((new.assign (⟨.name name, owner'⟩ :: rest) (.map [(name, v)])).1,
    Value.map [(globalName, state),
      (localName, (new.assign (⟨.name name, owner'⟩ :: rest) (.map [(name, v)])).2)]) = _
  rw [hname]
  rfl

theorem assign_global (new : Value) (owner : String) (rest : List PathStep) (state : Value)
    (name : String) (v : Value) :
    new.assign (⟨.name globalName, owner⟩ :: rest) (scopeOf state name v) =
      ((new.assign rest (preparedFor rest state)).1,
        scopeOf (new.assign rest (preparedFor rest state)).2 name v) :=
  rfl

namespace Environment

variable (new : Value) {name x : String} {steps : List PathStep} {rest : List Key}

theorem assignAt_of_binding (env : Environment) {v : Value} (owner : String)
    (steps : List PathStep) (h : Entries.get? name env.bindings = some v) :
    assignAt new (⟨.name name, owner⟩ :: steps) env =
      ((new.assign steps (preparedFor steps v)).1,
        ⟨Entries.insert name (new.assign steps (preparedFor steps v)).2 env.bindings,
          env.state⟩) := by
  simp only [assignAt, h]

theorem assignAt_of_no_binding (env : Environment) (hsteps : keysOf steps = .name name :: rest)
    (h : Entries.get? name env.bindings = none) :
    assignAt new steps env =
      ((new.assign steps env.state).1, ⟨env.bindings, (new.assign steps env.state).2⟩) := by
  obtain ⟨owner, steps, rfl, -⟩ := keysOf_eq_cons hsteps
  simp only [assignAt, h]

/-- A binding of another name does not matter. -/
theorem assignAt_cons (hsteps : keysOf steps = .name name :: rest) (hx : x ≠ name) (v : Value)
    (bindings : List (String × Value)) (state : Value) :
    assignAt new steps ⟨(x, v) :: bindings, state⟩ =
      ((assignAt new steps ⟨bindings, state⟩).1,
        ⟨(x, v) :: (assignAt new steps ⟨bindings, state⟩).2.bindings,
          (assignAt new steps ⟨bindings, state⟩).2.state⟩) := by
  have hget : Entries.get? name ((x, v) :: bindings) = Entries.get? name bindings := by
    simp only [Entries.get?, hx, if_false]
  cases h : Entries.get? name bindings with
  | none =>
    rw [assignAt_of_no_binding new ⟨bindings, state⟩ hsteps h,
      assignAt_of_no_binding new ⟨(x, v) :: bindings, state⟩ hsteps (hget.trans h)]
  | some w =>
    obtain ⟨owner, steps, rfl, -⟩ := keysOf_eq_cons hsteps
    rw [assignAt_of_binding new ⟨bindings, state⟩ _ _ h,
      assignAt_of_binding new ⟨(x, v) :: bindings, state⟩ _ _ (hget.trans h)]
    simp only [Entries.insert, hx, if_false]

end Environment

/-- Assigning along the keys of a name goes through the scopes to its innermost binding, or to the
state. -/
theorem assign_scopesOf (new : Value) {name : String} {rest : List Key} {p q : List PathStep}
    (hq : keysOf q = .name name :: rest) (state : Value) (bindings : List (String × Value))
    (hp : keysOf p = rootKeys (bindings.map Prod.fst) name ++ rest) :
    Alike Eq (new.assign p (scopesOf state bindings)).1
        (Environment.assignAt new q ⟨bindings, state⟩).1 ∧
      Holds (bindings.map Prod.fst) (new.assign p (scopesOf state bindings)).2
        (Environment.assignAt new q ⟨bindings, state⟩).2 := by
  induction bindings generalizing p with
  | nil =>
    rw [Environment.assignAt_of_no_binding new _ hq rfl]
    obtain ⟨alike, same⟩ := new.assign_congr (hp.trans hq.symm) state
    exact ⟨alike, same, rfl⟩
  | cons binding bindings ih =>
    obtain ⟨x, v⟩ := binding
    by_cases hx : x = name
    · subst hx
      simp only [List.map_cons, rootKeys, if_true] at hp
      obtain ⟨_, p', rfl, hp'⟩ := keysOf_eq_cons hp
      obtain ⟨_, p, rfl, hrest⟩ := keysOf_eq_cons hp'
      obtain ⟨_, q, rfl, hrest'⟩ := keysOf_eq_cons hq
      have keys_eq : keysOf p = keysOf q := hrest.trans hrest'.symm
      have hget : Entries.get? x ((x, v) :: bindings) = some v := by
        simp only [Entries.get?, if_true]
      obtain ⟨alike, same⟩ := new.assign_congr keys_eq (preparedFor p v)
      rw [Environment.assignAt_of_binding new _ _ _ hget, scopesOf, assign_local,
        ← preparedFor_congr keys_eq, same]
      refine ⟨alike, ?_, ?_⟩
      · simp only [Entries.insert, if_true, scopesOf]
      · simp only [Entries.insert, if_true, List.map_cons]
    · simp only [List.map_cons, rootKeys, hx, if_false] at hp
      obtain ⟨_, p, rfl, hrest⟩ := keysOf_eq_cons hp
      have hp : keysOf p = rootKeys (bindings.map Prod.fst) name ++ rest := hrest
      obtain ⟨first, keys, hfirst⟩ := rootKeys_eq_cons (bindings.map Prod.fst) name
      obtain ⟨alike, same, names⟩ := ih hp
      rw [Environment.assignAt_cons new hq hx]
      simp only [scopesOf, assign_global]
      rw [assign_prepared new (hp.trans (by rw [hfirst]; rfl)), same]
      exact ⟨alike, rfl, by rw [List.map_cons, names]; rfl⟩

theorem assign_related {bound : List String} {p q : List PathStep} (h : SamePath bound p q)
    (v : Value) :
    Related (Holds bound) Eq (Scoping.nested.assign p v) (Scoping.lexical.assign q v) := by
  rintro _ env ⟨rfl, rfl⟩
  obtain ⟨name, rest, hq, hp⟩ := h
  exact assign_scopesOf v hq env.state env.bindings hp

/-! ### Binding -/

/-- A body in the scope of an item and the body under the binding of the item. -/
theorem within_related {bound : List String} {x : String} {body : Action Value Value}
    {body' : Action Environment Value} (h : Related (Holds (x :: bound)) Eq body body')
    (item : Value) :
    Related (Holds bound) Eq (Scoping.nested.within x body item)
      (Scoping.lexical.within x body' item) := by
  rintro _ env ⟨rfl, rfl⟩
  obtain ⟨alike, after⟩ := h (scopeOf (scopesOf env.state env.bindings) x item)
    ⟨(x, item) :: env.bindings, env.state⟩ ⟨rfl, rfl⟩
  refine ⟨alike, ?_⟩
  change Holds _ (stateOf (body _).2) ⟨(body' _).2.bindings.tail, (body' _).2.state⟩
  generalize (body' _).2 = env' at after ⊢
  obtain ⟨hscope, hnames⟩ := after
  obtain ⟨bindings, state⟩ := env'
  cases bindings with
  | nil => cases hnames
  | cons binding rest =>
    rw [hscope]
    exact ⟨Scoping.stateOf_scopeOf _ _ _, (List.cons.inj hnames).2⟩

/-! ## Resolved trees -/

namespace Expr

/-- A node as it stands in a source tree: comprehensions bind a name, which is bare, names do not
start at scopes, and nothing reads the state as a whole. -/
structure SourceNode (ambient : Ambient) (n : Expr) : Prop where
  builtin : n.evaluator.Builtin ambient
  binds_bare : n.isComprehension = true → n.binding?.isSome = true ∧ n.needsResolution = true
  not_scope : n.isA .accessor = true →
    n.propertyName? ≠ some globalName ∧ n.propertyName? ≠ some localName
  not_lambda : ∀ f, n.evaluator.strategy ≠ .lambda f
  not_callstack : n.evaluator.strategy ≠ .special .callstack
  owned : n.evaluator.strategy = .special .getProperty → n.children.length ≠ 1

variable {ambient : Ambient}

/-- What resolution makes of a node does what the node does lexically. -/
abbrev Simulates (bound : List String) (resolved source : Expr) : Prop :=
  MeaningsRelated (Holds bound) (SamePath bound) (resolved.meaning .nested fun _ => none)
    (source.meaning .lexical fun _ => none)

/-- A literal is the same everywhere. -/
theorem simulates_literal (bound : List String) {literal : Expr} {s : String}
    (hev : literal.evaluator.Builtin ambient) (hs : literal.literalText? = some s) :
    Simulates bound literal literal := by
  obtain ⟨name, evaluator, children⟩ := literal
  obtain rfl : evaluator = .constant (.text s) := evaluator_of_literalText? hev hs
  unfold Simulates
  rw [meaning_constant _ rfl, meaning_constant _ rfl]
  exact ⟨.pure rfl, .throw rfl⟩

/-- A resolved name reads and denotes what the name does. -/
theorem simulates_root (bound : List String) {name p : String} {literal : Expr}
    (hp : literal.literalText? = some p) :
    Simulates bound (resolveName bound p) (node name .accessor [literal]) := by
  have path := constantPath_resolveName bound p
  obtain ⟨steps, hsteps, hpath⟩ := path.path_eq .nested (fun _ => none) fun _ _ => rfl
  unfold Simulates
  rw [meaning_root _ hp rfl]
  constructor
  · rintro _ env ⟨rfl, rfl⟩
    rw [path.value_apply fun _ _ => rfl]
    rw [readAlong_eq_ok.mpr (follow_rootKeys p env.state env.bindings)]
    exact ⟨.ok rfl, rfl, rfl⟩
  · rw [hpath]
    exact .pure ⟨p, [], rfl, by rw [hsteps, List.append_nil]⟩

/-- The forms that read or assign names, where no name is bound on the way. -/
theorem simulates_form {bound : List String} {e f : Expr} {ms : List (Meaning Value)}
    {ns : List (Meaning Environment)} {form : Form} (hsource : SourceNode ambient f)
    (hs : f.evaluator.strategy = .special form) (hbinds : form.bindsName = false)
    (hnames : form.usesNames = true) (hname : e.propertyName? = f.propertyName?)
    (hlength : ms.length = f.children.length)
    (hfree : f.isA .accessor = true → f.propertyName?.isSome = true → ms.length < 2 → bound = [])
    (h : List.Forall₂ (MeaningsRelated (Holds bound) (SamePath bound)) ms ns) :
    Related (Holds bound) Eq (runForm .nested e ms form) (runForm .lexical f ns form) := by
  have values : ValuesRelated (Holds bound) ms ns := h.imp fun _ _ hmn => hmn.value
  cases form with
  | getProperty =>
    exact runGetProperty_related values fun one => absurd (hlength ▸ one) (hsource.owned hs)
  | callstack => exact absurd hs hsource.not_callstack
  | accessor =>
    refine runAccessor_related values hname ?_
    rintro hshort name hn _ env ⟨rfl, hbound⟩
    have ha : f.isA .accessor = true := beq_iff_eq.mpr (hsource.builtin.name_of_form hs rfl)
    have hempty := hfree ha (by rw [← hname, hn]; rfl) hshort
    obtain ⟨bindings, state⟩ := env
    obtain rfl : bindings = [] := by
      rw [hempty] at hbound
      exact List.map_eq_nil_iff.mp hbound
    rfl
  | setPathToValue => exact runSetPath_related h fun p q v hpq => assign_related hpq v
  | foreach => cases hbinds
  | filter => cases hbinds
  | quantified q => cases hbinds
  | _ => cases hnames

/-- The property of an instance is that of the resolved instance. -/
theorem simulates_property {bound : List String} {name p : String} {literal owner owner' : Expr}
    (hev : literal.evaluator.Builtin ambient) (hp : literal.literalText? = some p)
    (howner : Simulates bound owner' owner) :
    Simulates bound (node name .accessor [literal, owner'])
      (node name .accessor [literal, owner]) := by
  have related : List.Forall₂ (MeaningsRelated (Holds bound) (SamePath bound))
      ([literal, owner'].map (meaning .nested fun _ => none))
      ([literal, owner].map (meaning .lexical fun _ => none)) :=
    .cons (simulates_literal bound hev hp) (.cons howner .nil)
  unfold Simulates
  rw [meaning_node _ rfl, meaning_node _ rfl]
  constructor
  · dsimp only
    rw [runNode_of_form .nested rfl, runNode_of_form .lexical rfl]
    exact runAccessor_related (related.imp fun _ _ hmn => hmn.value) rfl
      fun hshort => absurd hshort (by simp)
  · exact pathOf_related rfl rfl related (fun _ _ key _ _ hpq => hpq.concat key _ _)
      fun _ hshort => absurd hshort (by simp)

/-- A comprehension runs its body in a scope of its own, or under a binding of its own. -/
theorem simulates_comprehension {bound : List String} {name x : String} {evaluator : Evaluator}
    {collection collection' iterator body body' : Expr} (hev : evaluator.Builtin ambient)
    (hc : (node name evaluator [collection, iterator, body]).isComprehension = true)
    (hi : iterator.iteratorName? = some x) (hcollection : Simulates bound collection' collection)
    (hbody : Simulates (x :: bound) body' body) :
    Simulates bound (node name evaluator [collection', boundName x, body'])
      (node name evaluator [collection, iterator, body]) := by
  obtain ⟨form, hs, hbinds⟩ := hev.exists_form_of_comprehension hc
  unfold Simulates
  rw [meaning_node _ rfl, meaning_node _ rfl]
  constructor
  · dsimp only
    rw [runNode_of_form .nested hs, runNode_of_form .lexical hs]
    refine runForm_related_of_bindsName hbinds ?_ hcollection.value ?_
    · rw [expr_meaning, expr_meaning, hi]
      rfl
    · intro y hy item
      rw [expr_meaning] at hy
      obtain rfl : x = y := Option.some.inj hy
      exact within_related hbody.value item
  · exact pathOf_related_of_comprehension rfl hc

/-- A node that is kept does with its resolved children what it does with its children. -/
theorem simulates_kept {bound : List String} {name : String} {evaluator : Evaluator}
    {children : List Expr} (hsource : SourceNode ambient (node name evaluator children))
    (hbuiltin : ∀ c ∈ children, c.evaluator.Builtin ambient)
    (hb : binding? (node name evaluator children) = none)
    (hfree : (node name evaluator children).isA .accessor = true →
      (node name evaluator children).propertyName?.isSome = true → children.length < 2 →
        bound = [])
    (h : ∀ c ∈ children, Simulates bound (resolveIn bound c) c) :
    Simulates bound (node name evaluator (children.map (resolveIn bound)))
      (node name evaluator children) := by
  have related : List.Forall₂ (MeaningsRelated (Holds bound) (SamePath bound))
      ((children.map (resolveIn bound)).map (meaning .nested fun _ => none))
      (children.map (meaning .lexical fun _ => none)) := by
    rw [List.map_map, List.forall₂_map_left_iff, List.forall₂_map_right_iff]
    exact List.forall₂_same.mpr h
  have hname : (node name evaluator (children.map (resolveIn bound))).propertyName?
      = (node name evaluator children).propertyName? := propertyName?_map_resolveIn hbuiltin
  unfold Simulates
  rw [meaning_node _ rfl, meaning_node _ rfl]
  constructor
  · have hc : (node name evaluator children).isComprehension = false :=
      isComprehension_eq_false (fun hc => (hsource.binds_bare hc).1) hb
    refine runNode_related rfl (related.imp fun _ _ hmn => hmn.value)
      (fun f hs => absurd hs (hsource.not_lambda f)) ?_
    intro form hs hnames
    refine simulates_form hsource hs (hsource.builtin.bindsName_eq_false hs hc) hnames hname
      (by simp) ?_ related
    simpa using hfree
  · refine pathOf_related rfl hname related (fun _ _ key _ _ hpq => hpq.concat key _ _) ?_
    intro hacc hshort p hp
    obtain rfl := hfree hacc (by rw [← hname, hp]; rfl) (by simpa using hshort)
    exact ⟨p, [], rfl, rfl⟩

/-- **Resolution implements lexical scope**, at any depth. -/
theorem simulates_resolveIn (bound : List String) {e : Expr}
    (h : e.Everywhere (SourceNode ambient)) : Simulates bound (resolveIn bound e) e := by
  induction bound, e using resolveIn_induction with
  | scope bound name evaluator literal p hb ha hp hn =>
    have named : (node name evaluator [literal]).propertyName? = some p := hp
    obtain ⟨not_global, not_local⟩ := h.here.not_scope ha
    rcases hn with rfl | rfl
    · exact absurd named not_global
    · exact absurd named not_local
  | root bound name evaluator literal p hb ha hp hg hl =>
    obtain rfl : evaluator = .accessor := h.here.builtin.eq_accessor (beq_iff_eq.mp ha)
    exact simulates_root bound hp
  | property bound name evaluator literal p owner hb ha hp ih =>
    obtain ⟨here, beneath⟩ := Everywhere.node_iff.mp h
    obtain rfl : evaluator = .accessor := here.builtin.eq_accessor (beq_iff_eq.mp ha)
    exact simulates_property (beneath literal (by simp)).here.builtin hp
      (ih (beneath owner (by simp)))
  | comprehension bound name evaluator collection iterator body x hc hi ihc ihb =>
    obtain ⟨here, beneath⟩ := Everywhere.node_iff.mp h
    exact simulates_comprehension here.builtin hc hi (ihc (beneath collection (by simp)))
      (ihb (beneath body (by simp)))
  | other bound name evaluator children hb ha ih =>
    obtain ⟨here, beneath⟩ := Everywhere.node_iff.mp h
    refine simulates_kept here (fun c hc => (beneath c hc).here.builtin) hb ?_
      fun c hc => ih c hc (beneath c hc)
    exact fun hacc hn hshort => (ha hacc hn).resolve_right (by omega)

/-- **A resolved tree evaluates as the tree does lexically**: to the same value or to an error of
the same kind, and with the same state afterwards. -/
theorem resolve_evaluate_sameOutcome {e : Expr} (h : e.Everywhere (SourceNode ambient))
    (state : Value) :
    SameOutcome (e.resolve.evaluate.outcome state) (e.evaluateLexically state) := by
  have simulates := (simulates_resolveIn [] h).value
  rw [← meaning_resolveIn [] (h.mono fun _ hn => hn.builtin)] at simulates
  obtain ⟨alike, hscope, hnames⟩ := simulates state ⟨[], state⟩ ⟨rfl, rfl⟩
  refine ⟨alike, ?_⟩
  rw [List.map_eq_nil_iff.mp hnames] at hscope
  exact hscope

/-- The last of some items, written from inside a comprehension. -/
theorem lexical_foreach_last :
    let ambient : Ambient := .still
    let e := withEvaluator (Operator.foreach.evaluator ambient)
      [accessor "items" none, accessor "x" none,
        withEvaluator (Operator.setPathToValue.evaluator ambient)
          [accessor "last" none, accessor "x" none]]
    let items := Value.list [.text "a", .text "b"]
    e.evaluateLexically (.map [("items", items)])
        = (.ok items, .map [("items", items), ("last", .text "b")]) ∧
      SameOutcome (e.resolve.evaluate.outcome (.map [("items", items)]))
        (e.evaluateLexically (.map [("items", items)])) := by
  intro ambient e items
  have hliteral : ∀ s, (constant (.text s)).Everywhere (SourceNode ambient) := fun s =>
    .node ⟨.constant _, nofun, nofun, nofun, nofun, nofun⟩ nofun
  have haccessor : ∀ s, s ≠ globalName → s ≠ localName →
      (accessor s none).Everywhere (SourceNode ambient) := by
    intro s hg hl
    refine .node ⟨.operator .accessor, nofun, fun _ => ⟨?_, ?_⟩, nofun, nofun, nofun⟩ ?_
    · exact fun hs => hg (Option.some.inj hs)
    · exact fun hs => hl (Option.some.inj hs)
    · exact fun c hc => List.mem_singleton.mp hc ▸ hliteral s
  have hsource : e.Everywhere (SourceNode ambient) := by
    refine .node ⟨.operator .foreach, fun _ => ⟨rfl, rfl⟩, nofun, nofun, nofun, nofun⟩ ?_
    simp only [List.mem_cons, List.not_mem_nil, or_false, forall_eq_or_imp, forall_eq]
    refine ⟨haccessor _ (by decide) (by decide), haccessor _ (by decide) (by decide), ?_⟩
    refine .node ⟨.operator .setPathToValue, nofun, nofun, nofun, nofun, nofun⟩ ?_
    simp only [List.mem_cons, List.not_mem_nil, or_false, forall_eq_or_imp, forall_eq]
    exact ⟨haccessor _ (by decide) (by decide), haccessor _ (by decide) (by decide)⟩
  exact ⟨rfl, resolve_evaluate_sameOutcome hsource _⟩

end Expr

end StateExpr
