import StateExpr.Proofs.Assignment
import StateExpr.Proofs.Resolution
import StateExpr.Proofs.Validation
/-!
# Compiling

A well-formed tree stays well formed when its scopes are resolved, so it can be compiled; and
whether comprehensions are resolved beforehand or when they are met makes no difference.

Main statements: `Expr.validate_resolveIn`, `Expr.agree_resolve` and
`Expr.exists_compile_sameOutcome`.
-/

namespace StateExpr.Expr

open StateExpr.Action (Related)

variable {ambient : Ambient}

/-! ## Well-formed trees -/

theorem outline_resolveIn {e : Expr} (h : e.evaluator.Builtin ambient) (bound : List String) :
    (resolveIn bound e).outline = e.outline := by
  simp only [outline, returnType, literalText?, constant?, evaluator_resolveIn h]

theorem outline_map_resolveIn {es : List Expr} (h : ∀ e ∈ es, e.evaluator.Builtin ambient)
    (bound : List String) : (es.map (resolveIn bound)).map outline = es.map outline := by
  rw [List.map_map]
  exact List.map_congr_left fun e he => outline_resolveIn (h e he) bound

/-- The check of a comprehension is whether it binds a name. -/
theorem checkComprehension_iff_binding? {e : Expr} (hc : e.isComprehension = true) :
    e.checkComprehension = .ok () ↔ e.binding?.isSome = true := by
  rw [checkComprehension_eq_ok]
  constructor
  · rintro ⟨collection, iterator, body, hchildren, hi⟩
    simpa only [binding?, hchildren, hc, if_true] using hi
  · intro hb
    obtain ⟨name, evaluator, children⟩ := e
    obtain ⟨x, hx⟩ := Option.isSome_iff_exists.mp hb
    obtain ⟨collection, iterator, body, hchildren, -, hi⟩ := binding?_eq_some hx
    exact ⟨collection, iterator, body, hchildren, by rw [hi]; rfl⟩

/-- A well-formed comprehension binds a name. -/
theorem binding?_of_validate {e : Expr} (h : e.evaluator.Builtin ambient)
    (hc : e.isComprehension = true) (hv : e.validate = .ok ()) : e.binding?.isSome = true := by
  unfold validate at hv
  rw [h.signature_eq_comprehension.mpr hc] at hv
  exact (checkComprehension_iff_binding? hc).mp hv

/-- **A well-formed tree stays well formed when its scopes are resolved.** -/
theorem validate_resolveIn {e : Expr}
    (hb : e.Everywhere fun n => n.evaluator.Builtin ambient)
    (h : e.Everywhere fun n => n.validate = .ok ()) (bound : List String) :
    (resolveIn bound e).Everywhere fun n => n.validate = .ok () := by
  have made : ∀ name owner,
      (∀ o ∈ owner, o.returnType = .object ∧ Everywhere (fun n => n.validate = .ok ()) o) →
      (accessor name owner).returnType = .object ∧
        Everywhere (fun n => n.validate = .ok ()) (accessor name owner) := by
    intro name owner ho
    refine ⟨rfl, .node ?_ ?_⟩
    · change (accessor name owner).checkAccessor = .ok ()
      refine checkAccessor_eq_ok.mpr ⟨rfl, ?_, ?_⟩
      · cases owner <;> simp [accessor, withEvaluator, Expr.children]
      · cases owner with
        | none => simp [accessor, withEvaluator]
        | some o => simpa [accessor, withEvaluator] using (ho o rfl).1
    · intro c hc
      rcases List.mem_cons.mp hc with rfl | hc
      · exact .node rfl (by simp)
      · exact (ho c (Option.mem_toList.mp hc)).2
  induction bound, e using resolveIn_induction with
  | scope => exact h
  | root => exact (resolveName_of_accessor made _ _).2
  | property bound name evaluator literal p owner hne ha hp ih =>
    obtain ⟨builtin, builtins⟩ := Everywhere.node_iff.mp hb
    obtain ⟨valid, valids⟩ := Everywhere.node_iff.mp h
    have hs : evaluator.signature ≠ some .comprehension := by
      obtain rfl : evaluator = .accessor := builtin.eq_accessor (beq_iff_eq.mp ha)
      simp [Evaluator.accessor]
    refine .node ((validate_congr ?_ hs).mp valid) (forall_mem_two.mpr ?_)
    · simp only [List.map_cons, List.map_nil, outline_resolveIn (builtins owner (by simp)).here]
    · exact ⟨valids _ (by simp), ih (builtins _ (by simp)) (valids _ (by simp))⟩
  | comprehension bound name evaluator collection iterator body x hc hi ihc ihb =>
    obtain ⟨builtin, builtins⟩ := Everywhere.node_iff.mp hb
    obtain ⟨valid, valids⟩ := Everywhere.node_iff.mp h
    refine .node ?_ ?_
    · have hs : evaluator.signature = some .comprehension :=
        builtin.signature_eq_comprehension.mpr hc
      have checked : (node name evaluator
          [resolveIn bound collection, boundName x, resolveIn (x :: bound) body]).checkComprehension
            = .ok () := checkComprehension_eq_ok.mpr ⟨_, _, _, rfl, rfl⟩
      simp only [validate, Expr.evaluator, hs]
      exact checked
    · simp only [List.mem_cons, List.not_mem_nil, or_false, forall_eq_or_imp, forall_eq]
      refine ⟨ihc (builtins _ (by simp)) (valids _ (by simp)), ?_,
        ihb (builtins _ (by simp)) (valids _ (by simp))⟩
      rw [boundName_eq]
      exact (resolveName_of_accessor made _ _).2
  | other bound name evaluator children hn ha ih =>
    obtain ⟨builtin, builtins⟩ := Everywhere.node_iff.mp hb
    obtain ⟨valid, valids⟩ := Everywhere.node_iff.mp h
    have hs : evaluator.signature ≠ some .comprehension := by
      intro hs
      have binds := binding?_of_validate builtin (builtin.signature_eq_comprehension.mp hs) valid
      rw [hn] at binds
      cases binds
    refine .node ((validate_congr ?_ hs).mp valid) ?_
    · exact (outline_map_resolveIn (fun c hc => (builtins c hc).here) bound).symm
    · intro c hc
      obtain ⟨d, hd, rfl⟩ := List.mem_map.mp hc
      exact ih d hd (builtins d hd) (valids d hd)

/-! ## Resolving beforehand and resolving on the way -/

/-- A comprehension over a name that is already in its resolved form. -/
def bindsResolved (e : Expr) : Bool :=
  match e.children with
  | [_, iterator, _] =>
    e.isComprehension && iterator.iteratorName?.isSome && iterator.children.length == 2
  | _ => false

/-- A comprehension whose name is bare is resolved when it is met. -/
theorem resolvingAction?_of_binding {name : String} {evaluator : Evaluator}
    {collection iterator body : Expr} {x : String}
    (hc : (node name evaluator [collection, iterator, body]).isComprehension = true)
    (hi : iterator.iteratorName? = some x)
    (hr : (node name evaluator [collection, iterator, body]).bindsResolved = false) :
    resolvingAction? (node name evaluator [collection, iterator, body])
      = some (node name evaluator [collection, iterator, body]).resolve.evaluateResolved := by
  have hsome : iterator.iteratorName?.isSome = true := by rw [hi]; rfl
  obtain ⟨ha, hlength⟩ := isA_of_iteratorName? hsome
  have hone : iterator.children.length = 1 := by
    refine hlength.resolve_right ?_
    intro htwo
    simp [bindsResolved, hc, hsome, htwo] at hr
  simp only [resolvingAction?, needsResolution, binding?, children_node, hc, ha, hone, hi,
    BEq.rfl, Bool.and_self, Option.isSome_some, if_true]

/-- The forms that read, assign or bind names, in one kind of state. -/
theorem runForm_related_of_usesNames {e f : Expr} {ms ns : List (Meaning Value)} {form : Form}
    (hbinds : form.bindsName = false) (hnames : form.usesNames = true)
    (hname : e.propertyName? = f.propertyName?)
    (h : List.Forall₂ (MeaningsRelated Eq fun p q => keysOf p = keysOf q) ms ns) :
    Related Eq Eq (runForm .nested e ms form) (runForm .nested f ns form) := by
  have values : ValuesRelated Eq ms ns := h.imp fun _ _ hmn => hmn.value
  cases form with
  | getProperty => exact runGetProperty_related values fun _ _ _ => congrArg _
  | callstack => exact runCallstack_related values fun _ _ => congrArg _
  | accessor => exact runAccessor_related values hname fun _ name _ _ _ => congrArg _
  | setPathToValue =>
    refine runSetPath_related h ?_
    rintro p q v hpq s _ rfl
    exact v.assign_congr hpq s
  | foreach => cases hbinds
  | filter => cases hbinds
  | quantified q => cases hbinds
  | _ => cases hnames

/-- Related values, and paths by the same keys, in one kind of state. -/
abbrev Agree (raw resolved : Expr) : Prop :=
  MeaningsRelated Eq (fun p q => keysOf p = keysOf q) (raw.meaning .nested resolvingAction?)
    (resolved.meaning .nested fun _ => none)

/-- A comprehension that is met is resolved as it would have been beforehand. -/
theorem agree_resolve_of_binding {name : String} {evaluator : Evaluator} {children : List Expr}
    {x : String} (hbind : binding? (node name evaluator children) = some x)
    (hr : (node name evaluator children).bindsResolved = false) :
    Agree (node name evaluator children) (node name evaluator children).resolve := by
  obtain ⟨collection, iterator, body, rfl, hc, hi⟩ := binding?_eq_some hbind
  constructor
  · change Related Eq Eq ((resolvingAction? _).getD _) (evaluateResolved _)
    rw [resolvingAction?_of_binding hc hi hr]
    exact .refl _
  · rw [resolve, resolveIn_of_binding [] hbind]
    exact pathOf_related_of_comprehension rfl hc

/-- Any other node is kept, and does the same with children that do the same. -/
theorem agree_resolve_of_no_binding {name : String} {evaluator : Evaluator} {children : List Expr}
    (hev : evaluator.Builtin ambient)
    (hbind : binding? (node name evaluator children) = none)
    (hnamed : (node name evaluator children).isComprehension = true →
      (binding? (node name evaluator children)).isSome = true)
    (hbuiltin : ∀ c ∈ children, c.evaluator.Builtin ambient)
    (h : ∀ c ∈ children, Agree c c.resolve) :
    Agree (node name evaluator children) (node name evaluator children).resolve := by
  have resolved : (node name evaluator children).resolve =
      node name evaluator (children.map (resolveIn [])) := by
    rw [resolve, resolveIn_of_no_binding [] hbind,
      resolveNode_other (List.length_map _) fun _ _ => .inl rfl]
  have enters : resolvingAction? (node name evaluator children) = none := by
    simp [resolvingAction?, hbind]
  have related : List.Forall₂ (MeaningsRelated Eq fun p q => keysOf p = keysOf q)
      (children.map (meaning .nested resolvingAction?))
      ((children.map (resolveIn [])).map (meaning .nested fun _ => none)) := by
    rw [List.map_map, List.forall₂_map_left_iff, List.forall₂_map_right_iff]
    exact List.forall₂_same.mpr h
  have hname : (node name evaluator children).propertyName?
      = (node name evaluator (children.map (resolveIn []))).propertyName? :=
    (propertyName?_map_resolveIn hbuiltin).symm
  unfold Agree
  rw [resolved, meaning_node _ enters, meaning_node _ rfl]
  constructor
  · refine runNode_related rfl (related.imp fun _ _ hmn => hmn.value) (fun _ _ _ _ => congrArg _) ?_
    intro form hs hnames
    have hc := isComprehension_eq_false hnamed hbind
    exact runForm_related_of_usesNames (hev.bindsName_eq_false hs hc) hnames hname related
  · refine pathOf_related rfl hname related ?_ (fun _ _ _ _ => rfl)
    intro p q key owner owner' hpq
    rw [keysOf_concat, keysOf_concat, hpq]

/-- **It makes no difference when scopes are resolved.** -/
theorem agree_resolve {e : Expr} (hb : e.Everywhere fun n => n.evaluator.Builtin ambient)
    (hv : e.Everywhere fun n => n.validate = .ok ())
    (hr : e.Everywhere fun n => n.bindsResolved = false) : Agree e e.resolve := by
  induction e using Expr.induction with
  | node name evaluator children ih =>
    obtain ⟨builtin, builtins⟩ := Everywhere.node_iff.mp hb
    obtain ⟨valid, valids⟩ := Everywhere.node_iff.mp hv
    obtain ⟨bare, bares⟩ := Everywhere.node_iff.mp hr
    cases hbind : binding? (node name evaluator children) with
    | some x => exact agree_resolve_of_binding hbind bare
    | none =>
      exact agree_resolve_of_no_binding builtin hbind (fun hc => binding?_of_validate builtin hc valid)
        (fun c hc => (builtins c hc).here)
        fun c hc => ih c hc (builtins c hc) (valids c hc) (bares c hc)

/-- A tree compiles when its resolved copy is well formed, and to that. -/
theorem compile_eq_ok {e compiled : Expr} :
    e.compile = .ok compiled ↔ e.resolve.validateTree = .ok () ∧ e.resolve = compiled := by
  change (do e.resolve.validateTree; pure e.resolve) = .ok compiled ↔ _
  cases e.resolve.validateTree with
  | ok _ => simp [bind, Except.bind, pure, Except.pure]
  | error fault => simp [bind, Except.bind]

/-- What a tree compiles to is evaluated as it stands. -/
theorem evaluate_of_compile {e compiled : Expr}
    (hb : e.Everywhere fun n => n.evaluator.Builtin ambient) (h : e.compile = .ok compiled) :
    compiled.evaluate = e.resolve.evaluateResolved := by
  obtain ⟨-, rfl⟩ := compile_eq_ok.mp h
  exact congrArg Meaning.value (meaning_resolveIn [] hb)

/-- **A well-formed tree compiles, and does afterwards what it did before**: in every state the same
value or an error of the same kind, and the same state afterwards. -/
theorem exists_compile_sameOutcome {e : Expr}
    (hb : e.Everywhere fun n => n.evaluator.Builtin ambient) (hv : e.validateTree = .ok ())
    (hr : e.Everywhere fun n => n.bindsResolved = false) :
    ∃ compiled, e.compile = .ok compiled ∧
      ∀ state, SameOutcome (e.evaluate.outcome state) (compiled.evaluate.outcome state) := by
  have valid := validateTree_eq_ok.mp hv
  have resolved_valid := validateTree_eq_ok.mpr (validate_resolveIn hb valid [])
  refine ⟨e.resolve, ?_, ?_⟩
  · change (do (resolveIn [] e).validateTree; pure (resolveIn [] e)) = _
    rw [resolved_valid]
    rfl
  · intro state
    have related := (agree_resolve hb valid hr).value
    rw [resolve, ← meaning_resolveIn [] hb] at related
    exact related state state rfl

/-- Some item is true, with the name resolved before or on the way. -/
theorem compile_anyOf :
    let ambient : Ambient := .still
    let e := withEvaluator (Operator.anyOf.evaluator ambient)
      [accessor "items" none, accessor "x" none, accessor "x" none]
    ∃ compiled, e.compile = .ok compiled ∧
      ∀ state, SameOutcome (e.evaluate.outcome state) (compiled.evaluate.outcome state) := by
  intro ambient e
  have accessors : ∀ (P : Expr → Prop), (∀ s, P (constant (.text s))) →
      (∀ s, P (accessor s none)) → P e → e.Everywhere P := by
    intro P hliteral haccessor here
    have each : ∀ s, (accessor s none).Everywhere P := by
      intro s
      refine .node (haccessor s) ?_
      exact fun c hc => List.mem_singleton.mp hc ▸ .node (hliteral s) nofun
    refine .node here ?_
    simp only [List.mem_cons, List.not_mem_nil, or_false, forall_eq_or_imp, forall_eq]
    exact ⟨each _, each _, each _⟩
  have hb : e.Everywhere fun n => n.evaluator.Builtin ambient :=
    accessors _ (fun _ => .constant _) (fun _ => .operator .accessor) (.operator .anyOf)
  have hr : e.Everywhere fun n => n.bindsResolved = false :=
    accessors _ (fun _ => rfl) (fun _ => rfl) rfl
  exact exists_compile_sameOutcome hb rfl hr

end StateExpr.Expr
