import StateExpr.Proofs.Compilation
import StateExpr.Proofs.Context
import StateExpr.Proofs.References
/-!
# A name and the property of that name

A bare name and `getProperty` of the name as a literal read the same of a state, so that one may
stand for the other wherever a value is asked for.  Where a name is to be bound, where a path is to
be set and in the bodies of comprehensions only the bare name serves, and only bare names are
reported as what a tree reads.

Main statements: `Context.Admits.evaluate_fill`, `Context.walk_fill` and
`Expr.getProperty_interchange`.
-/

namespace StateExpr

open StateExpr.Action (Related)
open StateExpr.Expr

namespace Context

variable {ambient : Ambient} {name : String} {C : Context}

/-! ### Meaning -/

section Meaning

variable {enter : Expr → Option (Action Value Value)}

theorem getD_related {a b : Option (Action Value Value)} {c d : Action Value Value}
    (h : Option.Rel (Related Eq Eq) a b) (hd : Related Eq Eq c d) :
    Related Eq Eq (a.getD c) (b.getD d) := by
  cases h with
  | none => exact hd
  | some h => exact h

/-- The value of a property of the state. -/
def readProperty (name : String) : Action Value Value := do pure ((← get).property name)

theorem value_stateProperty (henter : ∀ e, e.isComprehension = false → enter e = none) :
    ((stateProperty ambient name).meaning .nested enter).value = readProperty name := by
  unfold stateProperty withEvaluator
  rw [meaning_node _ (henter _ rfl)]
  simp only [List.map_cons, List.map_nil, constant, withEvaluator,
    meaning_constant _ (henter (Expr.node _ (.constant (.text name)) []) rfl)]
  rfl

theorem value_name (henter : ∀ e, e.isComprehension = false → enter e = none) :
    ((accessor name none).meaning .nested enter).value = readProperty name := by
  unfold accessor withEvaluator
  exact congrArg Meaning.value (meaning_root .nested rfl (henter _ rfl))

theorem valuesRelated_fill
    (h : Related Eq Eq ((C.fill (stateProperty ambient name)).meaning .nested enter).value
      ((C.fill (accessor name none)).meaning .nested enter).value) (before after : List Expr) :
    ValuesRelated Eq
      ((before ++ C.fill (stateProperty ambient name) :: after).map (meaning .nested enter))
      ((before ++ C.fill (accessor name none) :: after).map (meaning .nested enter)) := by
  simp only [List.map_append, List.map_cons]
  exact forall₂_append_cons (P := fun m n : Meaning Value => Related Eq Eq m.value n.value)
    (fun _ => .refl _) h _ _

/-- The forms that read, assign or bind names, with the hole beneath them. -/
theorem Admits.runForm_fill {name' : String} {evaluator : Evaluator} {before after : List Expr}
    (h : (node name' evaluator before C after).Admits name) (hev : evaluator.Builtin ambient)
    (hvalue : Related Eq Eq ((C.fill (stateProperty ambient name)).meaning .nested enter).value
      ((C.fill (accessor name none)).meaning .nested enter).value)
    (hpath : C.chain? = none → Related Eq (fun p q => keysOf p = keysOf q)
      ((C.fill (stateProperty ambient name)).meaning .nested enter).path
      ((C.fill (accessor name none)).meaning .nested enter).path)
    {form : Form} (hs : evaluator.strategy = .special form) (hnames : form.usesNames = true) :
    Related Eq Eq
      (runForm .nested ((node name' evaluator before C after).fill (stateProperty ambient name))
        ((before ++ C.fill (stateProperty ambient name) :: after).map (meaning .nested enter)) form)
      (runForm .nested ((node name' evaluator before C after).fill (accessor name none))
        ((before ++ C.fill (accessor name none) :: after).map (meaning .nested enter)) form) := by
  cases hbinds : form.bindsName with
  | true =>
    have binds : evaluator.bindsName = true := by
      rw [Evaluator.bindsName, ← hev.bindsName_eq, hs]
      exact hbinds
    by_cases three : (before ++ C.fill (accessor name none) :: after).length = 3
    · obtain ⟨c, i, b, hchildren⟩ := List.length_eq_three.mp three
      rcases append_cons_eq_three hchildren with
        ⟨rfl, -, rfl⟩ | ⟨rfl, -, rfl⟩ | ⟨rfl, -, rfl⟩
      · exact runForm_related_of_bindsName hbinds rfl hvalue fun _ _ _ => .refl _
      · refine runForm_related_of_bindsName hbinds ?_ (.refl _) fun _ _ _ => .refl _
        rw [expr_meaning, expr_meaning]
        exact iteratorName?_fill_of_place ambient name binds h.no_iterator.1
      · exact runForm_related_of_bindsName hbinds rfl (.refl _) fun name' _ item =>
          Scoping.inScope_related name' item hvalue
    · exact runForm_related_of_miscounted hbinds (by simp) (by simpa using three)
  | false =>
    have values := valuesRelated_fill hvalue before after
    cases form with
    | getProperty => exact runGetProperty_related values fun _ _ _ => congrArg _
    | callstack => exact runCallstack_related values fun _ _ => congrArg _
    | accessor =>
      exact runAccessor_related values (propertyName?_fill ambient name _ _ _ _ _)
        fun _ property _ _ _ => congrArg _
    | setPathToValue =>
      have assigns : ∀ p q v, keysOf p = keysOf q →
          Related Eq Eq (Action.assign p v) (Action.assign q v) := by
        rintro p q v hpq s _ rfl
        exact v.assign_congr hpq s
      have hname : evaluator.name = Operator.setPathToValue.name := hev.name_of_form hs rfl
      by_cases two : before.length + (after.length + 1) = 2
      · rcases append_cons_of_short two.le with
          ⟨rfl, rfl⟩ | ⟨source, rfl, rfl⟩ | ⟨target, rfl, rfl⟩
        · cases two
        · refine runSetPath_related_of_two (hpath ?_) (.refl _) assigns
          simpa [asTarget, hname] using h.no_target.1
        · refine runSetPath_related_of_two ?_ hvalue assigns
          exact .mono (fun _ _ => congrArg keysOf) (.refl _)
      · exact runSetPath_miscounted (by simp) (by simpa using two)
    | foreach => cases hbinds
    | filter => cases hbinds
    | quantified q => cases hbinds
    | _ => cases hnames

theorem Admits.meaning_fill (henter : ∀ e, e.isComprehension = false → enter e = none)
    (hswapped : ∀ D : Context, D.Admits name →
      ((D.fill (accessor name none)).Everywhere fun n => n.evaluator.Builtin ambient) →
      Option.Rel (Related Eq Eq) (enter (D.fill (stateProperty ambient name)))
        (enter (D.fill (accessor name none))))
    (h : C.Admits name)
    (hb : (C.fill (accessor name none)).Everywhere fun n => n.evaluator.Builtin ambient) :
    Related Eq Eq ((C.fill (stateProperty ambient name)).meaning .nested enter).value
      ((C.fill (accessor name none)).meaning .nested enter).value ∧
    (C.chain? = none → Related Eq (fun p q => keysOf p = keysOf q)
      ((C.fill (stateProperty ambient name)).meaning .nested enter).path
      ((C.fill (accessor name none)).meaning .nested enter).path) := by
  induction C with
  | hole =>
    refine ⟨?_, nofun⟩
    simp only [fill, value_stateProperty henter, value_name henter]
    exact .refl _
  | node name' evaluator before inner after ih =>
    obtain ⟨builtin, beneath⟩ := Everywhere.node_iff.mp hb
    obtain ⟨hvalue, hpath⟩ := ih h.inner (beneath _ (by simp))
    have named := propertyName?_fill ambient name name' evaluator before inner after
    have values := valuesRelated_fill hvalue before after
    constructor
    · have entered := hswapped _ h hb
      simp only [fill] at entered ⊢
      rw [meaning_eq, meaning_eq]
      refine getD_related entered (runNode_related rfl values (fun _ _ _ _ => congrArg _) ?_)
      exact fun form hs hnames => h.runForm_fill builtin hvalue hpath hs hnames
    · intro hstart
      have paths : ∀ i : Nat, (i = before.length → inner.chain? = none) →
          ∀ m ∈ ((before ++ inner.fill (stateProperty ambient name) :: after).map
              (meaning .nested enter))[i]?,
          ∀ n ∈ ((before ++ inner.fill (accessor name none) :: after).map
              (meaning .nested enter))[i]?,
            Related Eq (fun p q => keysOf p = keysOf q) m.path n.path := by
        intro i hi m hm n hn
        simp only [List.map_append, List.map_cons] at hm hn
        rcases eq_or_eq_of_append_cons hm hn with ⟨hlength, rfl, rfl⟩ | rfl
        · exact hpath (hi (by simpa using hlength))
        · exact .mono (fun _ _ => congrArg keysOf) (.refl _)
      simp only [fill]
      rw [meaning_eq, meaning_eq]
      refine pathOf_related_of_owner rfl named values (fun ha => paths 1 ?_)
        (fun he two => paths 0 ?_) ?_ (fun _ _ _ _ => rfl)
      · intro hfront
        have step : stepOf? evaluator before.length after.length = some .accessor := by
          have hname : (evaluator.name == Operator.accessor.name) = true := ha
          simp [stepOf?, hname, ← hfront]
        simpa [chain?, step] using hstart
      · intro hfront
        have step : stepOf? evaluator before.length after.length = some .element := by
          have hname : (evaluator.name == Operator.element.name) = true := he
          have hbehind : after.length = 1 := by
            simp only [List.length_map, List.length_append, List.length_cons] at two
            omega
          simp [stepOf?, hname, ← hfront, hbehind]
        simpa [chain?, step] using hstart
      · intro p q key owner owner' hpq
        rw [keysOf_concat, keysOf_concat, hpq]

end Meaning

/-! ### Evaluation -/

theorem Swapped.evaluateResolved_related {chain : Option (List Operator)} {e f : Expr}
    (h : Swapped ambient name chain e f) (hb : f.Everywhere fun n => n.evaluator.Builtin ambient) :
    Related Eq Eq e.evaluateResolved f.evaluateResolved := by
  cases h with
  | same => exact .refl _
  | filled h => exact (h.meaning_fill (fun _ _ => rfl) (fun _ _ _ => .none) hb).1

theorem Admits.resolve_fill (h : C.Admits name)
    (hb : (C.fill (accessor name none)).Everywhere fun n => n.evaluator.Builtin ambient) :
    Related Eq Eq (C.fill (stateProperty ambient name)).resolve.evaluateResolved
      (C.fill (accessor name none)).resolve.evaluateResolved :=
  (h.resolveIn_fill ambient (.inl rfl)).evaluateResolved_related
    (hb.resolveIn (.operator .accessor) (fun _ => .constant _) [])

/-- A comprehension is resolved on the way with either in the hole. -/
theorem Admits.resolvingAction?_fill (h : C.Admits name)
    (hb : (C.fill (accessor name none)).Everywhere fun n => n.evaluator.Builtin ambient) :
    Option.Rel (Related Eq Eq) (resolvingAction? (C.fill (stateProperty ambient name)))
      (resolvingAction? (C.fill (accessor name none))) := by
  cases C with
  | hole =>
    simp only [fill, resolvingAction?_of_not_comprehension (e := stateProperty ambient name) rfl,
      resolvingAction?_of_not_comprehension (e := accessor name none) rfl]
    exact .none
  | node name' evaluator before inner after =>
    have related := h.resolve_fill hb
    unfold resolvingAction?
    rw [needsResolution_fill _ _ _ h.no_iterator.1, binding?_fill _ _ _ h.no_iterator.1]
    split
    · exact .some related
    · exact .none

/-- **Where a value is asked for, the property of a name is as good as the name.** -/
theorem Admits.evaluate_fill (h : C.Admits name)
    (hb : (C.fill (accessor name none)).Everywhere fun n => n.evaluator.Builtin ambient) :
    Related Eq Eq (C.fill (stateProperty ambient name)).evaluate
      (C.fill (accessor name none)).evaluate :=
  (h.meaning_fill (fun _ => resolvingAction?_of_not_comprehension)
    (fun _ hD => hD.resolvingAction?_fill) hb).1

/-! ### Compilation -/

theorem validate_fill (ambient : Ambient) (name name' : String) {evaluator : Evaluator}
    {before after : List Expr}
    (h : asIterator name evaluator before.length after.length C.chain? = false)
    (hev : evaluator.Builtin ambient) :
    ((node name' evaluator before C after).fill (stateProperty ambient name)).validate = .ok () ↔
      ((node name' evaluator before C after).fill (accessor name none)).validate = .ok () := by
  by_cases hs : evaluator.signature = some .comprehension
  · have checked : ∀ children, (Expr.node name' evaluator children).validate = .ok () ↔
        (Expr.node name' evaluator children).binding?.isSome = true := by
      intro children
      have hc : (Expr.node name' evaluator children).isComprehension = true :=
        hev.signature_eq_comprehension.mp hs
      rw [← checkComprehension_iff_binding? hc]
      simp only [validate, Expr.evaluator, hs, checkSignature]
    have binds := binding?_fill ambient name name' h
    simp only [fill] at binds ⊢
    rw [checked, checked, binds]
  · refine validate_congr ?_ hs
    simp only [List.map_append, List.map_cons, outline_fill]

theorem validateTree_fill (h : C.Nowhere (asIterator name))
    (hb : (C.fill (accessor name none)).Everywhere fun n => n.evaluator.Builtin ambient) :
    (C.fill (stateProperty ambient name)).validateTree = .ok () ↔
      (C.fill (accessor name none)).validateTree = .ok () := by
  rw [validateTree_eq_ok, validateTree_eq_ok]
  induction C with
  | hole =>
    refine iff_of_true (.node rfl ?_) (.of_accessor rfl rfl nofun)
    exact List.forall_mem_singleton.mpr (.node rfl nofun)
  | node name' evaluator before inner after ih =>
    obtain ⟨builtin, beneath⟩ := Everywhere.node_iff.mp hb
    have here := validate_fill ambient name name' h.1 builtin
    simp only [fill] at here ⊢
    simp only [Everywhere.node_iff, here, List.forall_mem_append, List.forall_mem_cons,
      ih h.2 (beneath _ (by simp))]

theorem everywhere_fill {P : Expr → Prop} {e f : Expr} (he : e.Everywhere P)
    (hnode : ∀ name evaluator children children',
      P (.node name evaluator children) → P (.node name evaluator children'))
    (h : (C.fill f).Everywhere P) : (C.fill e).Everywhere P := by
  induction C with
  | hole => exact he
  | node name' evaluator before inner after ih =>
    simp only [fill, Everywhere.node_iff, List.forall_mem_append, List.forall_mem_cons] at h ⊢
    obtain ⟨here, hbefore, hinner, hafter⟩ := h
    exact ⟨hnode _ _ _ _ here, hbefore, ih hinner, hafter⟩

theorem Swapped.validateTree_iff {chain : Option (List Operator)} {e f : Expr}
    (h : Swapped ambient name chain e f)
    (hb : f.Everywhere fun n => n.evaluator.Builtin ambient) :
    e.validateTree = .ok () ↔ f.validateTree = .ok () := by
  cases h with
  | same => exact Iff.rfl
  | filled h => exact validateTree_fill h.no_iterator hb

/-! ### Reports -/

/-- The first paths are among the second ones, and all others of these start at the name. -/
structure ReportsBut (name : String) (fewer more : List String) : Prop where
  subset : ∀ r ∈ fewer, r ∈ more
  rest : ∀ r ∈ more, r ∈ fewer ∨ isLocalTo name r = true

namespace ReportsBut

variable {fewer more fewer' more' : List String}

theorem refl (paths : List String) : ReportsBut name paths paths :=
  ⟨fun _ hr => hr, fun _ hr => .inl hr⟩

theorem append (h : ReportsBut name fewer more) (h' : ReportsBut name fewer' more') :
    ReportsBut name (fewer ++ fewer') (more ++ more') := by
  constructor
  · intro r hr
    exact List.mem_append.mpr ((List.mem_append.mp hr).imp (h.subset r) (h'.subset r))
  · intro r hr
    rcases List.mem_append.mp hr with hr | hr
    · exact (h.rest r hr).imp_left (List.mem_append_left _)
    · exact (h'.rest r hr).imp_left (List.mem_append_right _)

theorem filter (p : String → Bool) (h : ReportsBut name fewer more) :
    ReportsBut name (fewer.filter p) (more.filter p) := by
  constructor
  · intro r hr
    obtain ⟨hr, hp⟩ := List.mem_filter.mp hr
    exact List.mem_filter.mpr ⟨h.subset r hr, hp⟩
  · intro r hr
    obtain ⟨hr, hp⟩ := List.mem_filter.mp hr
    exact (h.rest r hr).imp_left fun hr => List.mem_filter.mpr ⟨hr, hp⟩

end ReportsBut

/-- The walk of one tree, and that of another which reads more paths that start at the name. -/
structure WalksBut (name : String) (fewer more : Walk) : Prop where
  path : fewer.path = more.path ∨ fewer.path = none ∧ ∀ r ∈ more.path, isLocalTo name r = true
  beneath : ReportsBut name fewer.beneath more.beneath

namespace WalksBut

variable {fewer more fewer' more' : Walk}

theorem refl (w : Walk) : WalksBut name w w := ⟨.inl rfl, .refl _⟩

theorem all (h : WalksBut name fewer more) : ReportsBut name fewer.all more.all := by
  refine h.beneath.append ?_
  rcases h.path with hsame | ⟨hnone, hlocal⟩
  · rw [hsame]
    exact .refl _
  · rw [hnone]
    exact ⟨nofun, fun r hr => .inr (hlocal r (Option.mem_toList.mp hr))⟩

theorem flatMap_all {ws vs : List Walk} (h : List.Forall₂ (WalksBut name) ws vs) :
    ReportsBut name (ws.flatMap Walk.all) (vs.flatMap Walk.all) := by
  induction h with
  | nil => exact .refl _
  | cons h _ ih =>
    simp only [List.flatMap_cons]
    exact h.all.append ih

/-- A step further along a path. -/
theorem concat (h : WalksBut name fewer more) {step : String}
    (hs : step.toList.head?.any isSeparator = true) {below below' : List String}
    (hb : ReportsBut name below below') :
    WalksBut name ⟨fewer.path.map (· ++ step), below⟩ ⟨more.path.map (· ++ step), below'⟩ := by
  refine ⟨?_, hb⟩
  rcases h.path with hsame | ⟨hnone, hlocal⟩
  · exact .inl (by rw [hsame])
  · refine .inr ⟨by rw [hnone]; rfl, ?_⟩
    intro r hr
    obtain ⟨q, hq, rfl⟩ := Option.map_eq_some_iff.mp hr
    exact isLocalTo_append (hlocal q hq) hs

theorem property (h : WalksBut name fewer more) (p : String) :
    WalksBut name ⟨fewer.path.map (· ++ "." ++ p), fewer.beneath⟩
      ⟨more.path.map (· ++ "." ++ p), more.beneath⟩ := by
  simp only [String.append_assoc]
  exact h.concat (any_isSeparator_dot p) h.beneath

theorem element (index : Option Value) (h : WalksBut name fewer more)
    (hkey : WalksBut name fewer' more') :
    WalksBut name (walkElement index fewer fewer') (walkElement index more more') := by
  cases index with
  | none => exact ⟨.inl rfl, h.all.append hkey.all⟩
  | some v =>
    obtain ⟨step, hs, walks⟩ := walkElement_literal v
    rw [walks, walks]
    exact h.concat hs (h.beneath.append hkey.all)

/-- An accessor passes on what its instance reads. -/
theorem named {e f : Expr} {p : String} {ws vs : List Walk} (he : e.isA .accessor = true)
    (hf : f.isA .accessor = true) (hp : e.propertyName? = some p) (hq : f.propertyName? = some p)
    (h : List.Forall₂ (WalksBut name) ws vs) : WalksBut name (walkNode e ws) (walkNode f vs) := by
  simp only [walkNode, he, hf, hp, hq, if_true]
  cases h with
  | nil => exact .refl _
  | cons _ h =>
    cases h with
    | nil => exact .refl _
    | cons howner _ => exact howner.property p

end WalksBut

theorem walkNode_fill (name' : String) {evaluator : Evaluator} {before after : List Expr}
    (h : asIterator name evaluator before.length after.length C.chain? = false)
    (walks : List.Forall₂ (WalksBut name)
      ((before ++ C.fill (stateProperty ambient name) :: after).map walk)
      ((before ++ C.fill (accessor name none) :: after).map walk)) :
    WalksBut name
      (walkNode ((node name' evaluator before C after).fill (stateProperty ambient name))
        ((before ++ C.fill (stateProperty ambient name) :: after).map walk))
      (walkNode ((node name' evaluator before C after).fill (accessor name none))
        ((before ++ C.fill (accessor name none) :: after).map walk)) := by
  have named := propertyName?_fill ambient name name' evaluator before C after
  have binds := binding?_fill ambient name name' h
  simp only [fill] at named binds ⊢
  have isA_eq : ∀ op cs, (Expr.node name' evaluator cs).isA op = (evaluator.name == op.name) :=
    fun _ _ => rfl
  cases ha : evaluator.name == Operator.accessor.name with
  | true =>
    cases hp : (Expr.node name' evaluator
        (before ++ C.fill (accessor name none) :: after)).propertyName? with
    | none =>
      rw [walkNode_unnamed ((isA_eq _ _).trans ha) (named.trans hp),
        walkNode_unnamed ((isA_eq _ _).trans ha) hp]
      exact .refl _
    | some p =>
      exact .named ((isA_eq _ _).trans ha) ((isA_eq _ _).trans ha) (named.trans hp) hp walks
  | false =>
    by_cases he : evaluator.name == Operator.element.name ∧ before.length + (after.length + 1) = 2
    · obtain ⟨he, two⟩ := he
      rcases append_cons_of_short two.le with
        ⟨rfl, rfl⟩ | ⟨index, rfl, rfl⟩ | ⟨owner, rfl, rfl⟩
      · cases two
      · simp only [List.nil_append, List.map_cons, List.map_nil, List.forall₂_cons] at walks ⊢
        rw [walkNode_element _ _ he, walkNode_element _ _ he]
        exact walks.1.element _ walks.2.1
      · simp only [List.cons_append, List.nil_append, List.map_cons, List.map_nil,
          List.forall₂_cons] at walks ⊢
        rw [walkNode_element _ _ he, walkNode_element _ _ he, constant?_fill]
        exact walks.1.element _ walks.2.1
    · have plain : ∀ e : Expr,
          (Expr.node name' evaluator (before ++ e :: after)).isA .element = true →
          (Expr.node name' evaluator (before ++ e :: after)).children.length ≠ 2 := by
        intro e hname two
        exact he ⟨hname, by simpa using two⟩
      cases hbind : (Expr.node name' evaluator
          (before ++ C.fill (accessor name none) :: after)).binding? with
      | none =>
        rw [walkNode_other _ ((isA_eq _ _).trans ha) (plain _) (binds.trans hbind),
          walkNode_other _ ((isA_eq _ _).trans ha) (plain _) hbind]
        exact ⟨.inl rfl, WalksBut.flatMap_all walks⟩
      | some x =>
        obtain ⟨collection, iterator, body, hchildren, hc, hi⟩ := binding?_eq_some hbind
        have comprehends : ∀ cs, (Expr.node name' evaluator cs).isComprehension = true :=
          fun _ => hc
        rcases append_cons_eq_three hchildren with
          ⟨rfl, rfl, rfl⟩ | ⟨rfl, rfl, rfl⟩ | ⟨rfl, rfl, rfl⟩
        all_goals
          simp only [List.cons_append, List.nil_append, List.map_cons, List.map_nil,
            List.forall₂_cons] at walks binds hbind ⊢
          have hi' := binds.trans hbind
          simp only [binding?, children_node, comprehends, if_true] at hi'
          rw [walkNode_comprehension _ _ _ (comprehends _) hi',
            walkNode_comprehension _ _ _ (comprehends _) hi]
          exact ⟨.inl rfl, walks.1.all.append (walks.2.2.1.all.filter _)⟩

/-- **The property of a name is not reported**, while other paths are, with either in the hole. -/
theorem walk_fill (ambient : Ambient) (name : String) (h : C.Nowhere (asIterator name)) :
    WalksBut name (C.fill (stateProperty ambient name)).walk
      (C.fill (accessor name none)).walk := by
  induction C with
  | hole =>
    refine ⟨.inr ⟨rfl, ?_⟩, ⟨nofun, nofun⟩⟩
    intro r hr
    obtain rfl : name = r := Option.some.inj hr
    exact (isLocalTo_iff_exists name name).mpr ⟨[], (List.append_nil _).symm, rfl⟩
  | node name' evaluator before inner after ih =>
    have walks : List.Forall₂ (WalksBut name)
        ((before ++ inner.fill (stateProperty ambient name) :: after).map walk)
        ((before ++ inner.fill (accessor name none) :: after).map walk) := by
      simp only [List.map_append, List.map_cons]
      exact forall₂_append_cons WalksBut.refl (ih h.2) _ _
    have here := walkNode_fill name' h.1 walks
    simp only [fill] at here ⊢
    rw [walk_node, walk_node]
    exact here

end Context

namespace Expr

open Context

variable {ambient : Ambient} {C : Context} {name : String}

/-- **The property of a name for the name.**  As long as the hole is not to be the name that a
comprehension binds, a tree with the property of a name in the hole is as well formed as one with
the name, and reads no more: it is reported to read the same paths but for some that start at the
name.  When furthermore the hole does not start a path that is to be set and is in no body,
or the name is one of a scope, both trees do the same in every state, compile alike, and do the same
when they are compiled. -/
theorem getProperty_interchange
    (hb : (C.fill (accessor name none)).Everywhere fun n => n.evaluator.Builtin ambient)
    (hiterator : C.Nowhere (asIterator name)) :
    let computed := C.fill (stateProperty ambient name)
    let plain := C.fill (accessor name none)
    (computed.validateTree = .ok () ↔ plain.validateTree = .ok ()) ∧
    (∀ r ∈ computed.references, r ∈ plain.references) ∧
    (∀ r ∈ plain.references, r ∈ computed.references ∨
      ∃ path, isLocalTo name path = true ∧ reported? path = some r) ∧
    (C.Nowhere asTarget → C.Nowhere inBody ∨ name = globalName ∨ name = localName →
      (∀ s, SameOutcome (computed.evaluate.outcome s) (plain.evaluate.outcome s)) ∧
      ((∃ compiled, computed.compile = .ok compiled) ↔
        ∃ compiled, plain.compile = .ok compiled) ∧
      ∀ c d, computed.compile = .ok c → plain.compile = .ok d →
        ∀ s, SameOutcome (c.evaluate.outcome s) (d.evaluate.outcome s)) := by
  intro computed plain
  have walks := (walk_fill ambient name hiterator).all
  refine ⟨validateTree_fill hiterator hb, ?_, ?_, ?_⟩
  · intro r hr
    obtain ⟨path, hpath, hreported⟩ := mem_references_iff.mp hr
    exact mem_references_iff.mpr ⟨path, walks.subset path hpath, hreported⟩
  · intro r hr
    obtain ⟨path, hpath, hreported⟩ := mem_references_iff.mp hr
    rcases walks.rest path hpath with hpath | hlocal
    · exact .inl (mem_references_iff.mpr ⟨path, hpath, hreported⟩)
    · exact .inr ⟨path, hlocal, hreported⟩
  · intro htarget hbody
    have admits : C.Admits name := ⟨hiterator, htarget, hbody⟩
    have hb' : computed.Everywhere fun n => n.evaluator.Builtin ambient := by
      refine everywhere_fill ?_ (fun _ _ _ _ h => h) hb
      exact .node (.operator .getProperty)
        (List.forall_mem_singleton.mpr (.node (.constant _) nofun))
    have resolved := admits.resolveIn_fill ambient (.inl rfl)
    refine ⟨fun s => admits.evaluate_fill hb s s rfl, ?_, ?_⟩
    · simp only [compile_eq_ok, exists_and_left, exists_eq', and_true]
      exact resolved.validateTree_iff (hb.resolveIn (.operator .accessor) (fun _ => .constant _) [])
    · intro c d hc hd s
      rw [evaluate_of_compile hb' hc, evaluate_of_compile hb hd]
      exact admits.resolve_fill hb s s rfl

/-- The items of a list that may be kept under either of two names. -/
theorem getProperty_interchange_in_collection :
    let ambient : Ambient := .still
    let items := fun e => withEvaluator (Operator.foreach.evaluator ambient)
      [withEvaluator (Operator.coalesce.evaluator ambient) [e, accessor "spare" none],
        accessor "x" none, accessor "x" none]
    let computed := items (stateProperty ambient "items")
    let plain := items (accessor "items" none)
    (∀ s, SameOutcome (computed.evaluate.outcome s) (plain.evaluate.outcome s)) ∧
      ((∃ compiled, computed.compile = .ok compiled) ↔
        ∃ compiled, plain.compile = .ok compiled) := by
  intro ambient items computed plain
  let C : Context := .node "foreach" (Operator.foreach.evaluator ambient) []
    (.node "coalesce" (Operator.coalesce.evaluator ambient) [] .hole [accessor "spare" none])
    [accessor "x" none, accessor "x" none]
  have root : ∀ s, (accessor s none).Everywhere fun n => n.evaluator.Builtin ambient :=
    fun s => .of_accessor (.operator .accessor) (.constant _) nofun
  have hb : (C.fill (accessor "items" none)).Everywhere fun n => n.evaluator.Builtin ambient := by
    refine .node (.operator .foreach) (forall_mem_three.mpr ⟨?_, root _, root _⟩)
    exact .node (.operator .coalesce) (forall_mem_two.mpr ⟨root _, root _⟩)
  have hiterator : C.Nowhere (asIterator "items") := ⟨rfl, rfl, trivial⟩
  have htarget : C.Nowhere asTarget := ⟨rfl, rfl, trivial⟩
  have hbody : C.Nowhere inBody := ⟨rfl, rfl, trivial⟩
  obtain ⟨-, -, -, same⟩ := getProperty_interchange hb hiterator
  obtain ⟨evaluated, compiled, -⟩ := same htarget (.inl hbody)
  exact ⟨evaluated, compiled⟩

/-- The property of a name is not the name in a body, as what is to be set, as what is bound, and in
what is reported. -/
theorem name_does_more :
    let ambient : Ambient := .still
    let s := Value.map [("items", .list [.number 1]), ("n", .text "a")]
    let each := fun iterator body => withEvaluator (Operator.foreach.evaluator ambient)
      [accessor "items" none, iterator, body]
    let set := fun target => withEvaluator (Operator.setPathToValue.evaluator ambient)
      [target, constant (.text "b")]
    let property := stateProperty ambient "n"
    let name := accessor "n" none
    (each (accessor "x" none) property).evaluate.outcome s = (.ok (.list [.null]), s) ∧
      (each (accessor "x" none) name).evaluate.outcome s = (.ok (.list [.text "a"]), s) ∧
      (∃ e, (set property).evaluate.outcome s = (.error e, s)) ∧
      ((set name).evaluate.outcome s).1 = .ok (.text "b") ∧
      (∃ e, (each property (constant .null)).evaluate.outcome s = (.error e, s)) ∧
      (each name (constant .null)).evaluate.outcome s = (.ok (.list [.null]), s) ∧
      property.references = [] ∧ name.references = ["n"] :=
  ⟨rfl, rfl, ⟨_, rfl⟩, rfl, ⟨_, rfl⟩, rfl, distinctInOrder_nil, distinctInOrder_singleton "n"⟩

end Expr

end StateExpr
