import StateExpr.Expr.Basic
import StateExpr.Function.Builtin
/-!
# Trees of built-in operators

Induction over a tree, predicates that hold of every node, and what is known of a node when its
evaluator is a built-in one: the name of the evaluator determines the rest of it.

Main statements: `Expr.induction`, `Evaluator.Builtin.eq_accessor` and
`Evaluator.Builtin.bindsName_eq`.
-/

namespace StateExpr

/-! ## Two and three children -/

section Children

variable {α : Type} {p : α → Prop} {a b c : α}

theorem forall_mem_two : (∀ x ∈ [a, b], p x) ↔ p a ∧ p b := by
  rw [List.forall_mem_cons, List.forall_mem_singleton]

theorem forall_mem_three : (∀ x ∈ [a, b, c], p x) ↔ p a ∧ p b ∧ p c := by
  rw [List.forall_mem_cons, forall_mem_two]

end Children

/-! ## Predicates of all nodes -/

namespace Expr

/-- Induction over a tree: a node from its children. -/
@[elab_as_elim]
theorem induction {motive : Expr → Prop}
    (node : ∀ name evaluator children, (∀ c ∈ children, motive c) →
      motive (.node name evaluator children)) (e : Expr) : motive e :=
  @Expr.rec motive (fun cs => ∀ c ∈ cs, motive c) node (fun _ h => nomatch h)
    (fun _ _ hc hcs _ h => (List.mem_cons.mp h).elim (fun eq => eq ▸ hc) (hcs _)) e

@[simp] theorem children_node (name : String) (evaluator : Evaluator) (children : List Expr) :
    (node name evaluator children).children = children :=
  rfl

/-- A predicate holds of every node of a tree. -/
inductive Everywhere (P : Expr → Prop) : Expr → Prop where
  | node {name : String} {evaluator : Evaluator} {children : List Expr}
      (here : P (.node name evaluator children)) (beneath : ∀ c ∈ children, Everywhere P c) :
      Everywhere P (.node name evaluator children)

theorem isComprehension_of_isA {e : Expr} {op : Operator} (h : e.isA op = true) :
    e.isComprehension = op.isComprehension := by
  have hn : e.evaluator.name = op.name := beq_iff_eq.mp h
  simp only [isComprehension, kind?, hn, Operator.ofName?_name, Option.any_some]

theorem isA_of_isComprehension {e : Expr} (h : e.isComprehension = true) {op : Operator}
    (hop : op.isComprehension = false) : e.isA op = false := by
  refine Bool.eq_false_iff.mpr ?_
  intro ha
  rw [isComprehension_of_isA ha, hop] at h
  cases h

namespace Everywhere

variable {P Q : Expr → Prop}

theorem node_iff {name : String} {evaluator : Evaluator} {children : List Expr} :
    Everywhere P (.node name evaluator children) ↔
      P (.node name evaluator children) ∧ ∀ c ∈ children, Everywhere P c := by
  constructor
  · rintro ⟨here, beneath⟩
    exact ⟨here, beneath⟩
  · rintro ⟨here, beneath⟩
    exact .node here beneath

theorem here {e : Expr} (h : Everywhere P e) : P e := by
  cases h with
  | node here _ => exact here

theorem child {e c : Expr} (h : Everywhere P e) (hc : c ∈ e.children) : Everywhere P c := by
  cases h with
  | node _ beneath => exact beneath c hc

theorem mono {e : Expr} (hpq : ∀ n, P n → Q n) (h : Everywhere P e) : Everywhere Q e := by
  induction h with
  | node here _ ih => exact .node (hpq _ here) ih

theorem and {e : Expr} (hp : Everywhere P e) (hq : Everywhere Q e) :
    Everywhere (fun n => P n ∧ Q n) e := by
  induction hp with
  | node here _ ih =>
    obtain ⟨here', beneath⟩ := node_iff.mp hq
    exact .node ⟨here, here'⟩ fun c hc => ih c hc (beneath c hc)

theorem of_accessor {name : String} {owner : Option Expr} (here : P (Expr.accessor name owner))
    (literal : P (.constant (.text name))) (beneath : ∀ o ∈ owner, Everywhere P o) :
    Everywhere P (Expr.accessor name owner) := by
  refine .node here ?_
  intro c hc
  rcases List.mem_cons.mp hc with rfl | hc
  · exact .node literal nofun
  · exact beneath c (Option.mem_toList.mp hc)

theorem of_leaf {e : Expr} (here : P e) (h : e.children = []) : Everywhere P e := by
  obtain ⟨name, evaluator, children⟩ := e
  obtain rfl : children = [] := h
  exact .node here nofun

end Everywhere

/-- A literal text is a leaf, as literals are made: nothing stands beneath it. -/
def LeafLiteral (e : Expr) : Prop := e.literalText?.isSome = true → e.children = []

end Expr

/-- The form of a special strategy. -/
def Strategy.form? : Strategy → Option Form
  | special form => some form
  | _ => none

theorem Strategy.form?_eq_some {s : Strategy} {form : Form} :
    s.form? = some form ↔ s = .special form := by
  cases s <;> simp [form?]

namespace Form

/-- The forms that bind a name over their third child. -/
def bindsName : Form → Bool
  | foreach | filter | quantified _ => true
  | _ => false

/-- The operator behind a form that reads or assigns names. -/
def operator? : Form → Option Operator
  | getProperty => some .getProperty
  | callstack => some .callstack
  | accessor => some .accessor
  | setPathToValue => some .setPathToValue
  | _ => none

end Form

namespace Operator

variable (ambient : Ambient) (op : Operator)

theorem evaluator_name : (op.evaluator ambient).name = op.name := by
  cases op <;> rfl

theorem evaluator_bindsName :
    (op.evaluator ambient).strategy.form?.any Form.bindsName = op.isComprehension := by
  cases op <;> rfl

theorem evaluator_signature :
    ((op.evaluator ambient).signature == some .comprehension) = op.isComprehension := by
  cases op <;> rfl

theorem evaluator_constant :
    (op.evaluator ambient).strategy.constant? = none ∨
      op.evaluator ambient = .constant .null := by
  cases op <;> first | exact .inl rfl | exact .inr rfl

theorem evaluator_operator? :
    (op.evaluator ambient).strategy.form?.bind Form.operator? = none ∨
      (op.evaluator ambient).strategy.form?.bind Form.operator? = some op := by
  cases op <;> first | exact .inl rfl | exact .inr rfl

end Operator

theorem Expr.isComprehension_withEvaluator (ambient : Ambient) (op : Operator)
    (children : List Expr) :
    (withEvaluator (op.evaluator ambient) children).isComprehension = op.isComprehension :=
  isComprehension_of_isA (beq_iff_eq.mpr (op.evaluator_name ambient))

/-- An operator over its operands. -/
def Expr.operation (ambient : Ambient) (op : Operator) (operands : List Expr) : Expr :=
  withEvaluator (op.evaluator ambient) operands

/-- The evaluators of the built-in operators, of literals and of functions of the state.  What is
shared is told to each operator of a tree apart: two lists that are met in one place may be one
object, and equal copies in another place. -/
inductive Evaluator.Builtin (ambient : Ambient) : Evaluator → Prop where
  | sharing (op : Operator) (shared : Value → Bool) :
      Builtin ambient (op.evaluator { ambient with shared })
  | constant (v : Value) : Builtin ambient (.constant v)
  | lambda (f : Value → Except String Value) : Builtin ambient (.lambda f)

namespace Evaluator.Builtin

variable {ambient : Ambient} {ev : Evaluator}

theorem operator (op : Operator) : Builtin ambient (op.evaluator ambient) :=
  .sharing op ambient.shared

/-- An evaluator by the name of an operator is that of the operator, unless the name is that of
literals or of functions of the state. -/
theorem exists_eq_operator (h : Builtin ambient ev) {op : Operator} (hn : ev.name = op.name)
    (hc : op ≠ .constant) (hl : op ≠ .lambda) :
    ∃ shared, ev = op.evaluator { ambient with shared } := by
  cases h with
  | sharing op' shared =>
    rw [Operator.evaluator_name] at hn
    exact ⟨shared, by rw [Operator.name_injective hn]⟩
  | constant v => exact absurd (Operator.name_injective (a := .constant) hn).symm hc
  | lambda f => exact absurd (Operator.name_injective (a := .lambda) hn).symm hl

theorem eq_accessor (h : Builtin ambient ev) (hn : ev.name = Operator.accessor.name) :
    ev = .accessor := by
  obtain ⟨_, rfl⟩ := h.exists_eq_operator hn (by decide) (by decide)
  rfl

theorem exists_eq_element (h : Builtin ambient ev) (hn : ev.name = Operator.element.name) :
    ∃ shared, ev = Operator.element.evaluator { ambient with shared } :=
  h.exists_eq_operator hn (by decide) (by decide)

theorem eq_constant (h : Builtin ambient ev) {v : Value} (hs : ev.strategy.constant? = some v) :
    ev = .constant v := by
  cases h with
  | sharing op shared =>
    rcases Operator.evaluator_constant { ambient with shared } op with hn | hn
    · exact absurd (hn.symm.trans hs) nofun
    · rw [hn] at hs ⊢
      rw [← Option.some.inj hs]
  | constant w => rw [← Option.some.inj hs]
  | lambda f => exact nomatch hs

/-- The operators that bind names are those whose form does. -/
theorem bindsName_eq (h : Builtin ambient ev) :
    ev.strategy.form?.any Form.bindsName
      = (Operator.ofName? ev.name).any Operator.isComprehension := by
  cases h with
  | sharing op _ =>
    rw [Operator.evaluator_bindsName, Operator.evaluator_name, Operator.ofName?_name]
    rfl
  | constant v =>
    change false = (Operator.ofName? Operator.constant.name).any _
    rw [Operator.ofName?_name]
    rfl
  | lambda f =>
    change false = (Operator.ofName? Operator.lambda.name).any _
    rw [Operator.ofName?_name]
    rfl

/-- A built-in operator that binds a name has a form that does. -/
theorem exists_form_of_comprehension (h : Builtin ambient ev)
    (hc : (Operator.ofName? ev.name).any Operator.isComprehension = true) :
    ∃ form, ev.strategy = .special form ∧ form.bindsName = true := by
  rw [← h.bindsName_eq] at hc
  obtain ⟨form, hs, hbinds⟩ := (Option.any_eq_true _ _).mp hc
  exact ⟨form, Strategy.form?_eq_some.mp hs, hbinds⟩

/-- The children of an operator are checked for a name when it binds one. -/
theorem signature_eq_comprehension (h : Builtin ambient ev) :
    ev.signature = some .comprehension ↔
      (Operator.ofName? ev.name).any Operator.isComprehension = true := by
  cases h with
  | sharing op _ =>
    rw [← beq_iff_eq, Operator.evaluator_signature, Operator.evaluator_name,
      Operator.ofName?_name]
    rfl
  | constant v =>
    change none = some Signature.comprehension ↔
      (Operator.ofName? Operator.constant.name).any _ = true
    simp [Operator.ofName?_name, Operator.isComprehension]
  | lambda f =>
    change none = some Signature.comprehension ↔
      (Operator.ofName? Operator.lambda.name).any _ = true
    simp [Operator.ofName?_name, Operator.isComprehension]

theorem bindsName_eq_false (h : Builtin ambient ev) {form : Form}
    (hs : ev.strategy = .special form)
    (hc : (Operator.ofName? ev.name).any Operator.isComprehension = false) :
    form.bindsName = false := by
  rw [← h.bindsName_eq, hs] at hc
  exact hc

/-- A form that reads or assigns names belongs to the operator of its name. -/
theorem name_of_form (h : Builtin ambient ev) {form : Form} {op : Operator}
    (hs : ev.strategy = .special form) (ho : form.operator? = some op) : ev.name = op.name := by
  cases h with
  | sharing op' shared =>
    have hf := Operator.evaluator_operator? { ambient with shared } op'
    rw [hs] at hf
    simp only [Strategy.form?, Option.bind_some, ho, reduceCtorEq, Option.some.injEq,
      false_or] at hf
    rw [Operator.evaluator_name, hf]
  | constant v => exact nomatch hs
  | lambda f => exact nomatch hs

end Evaluator.Builtin

/-- A built-in node with a literal text is that literal. -/
theorem Expr.evaluator_of_literalText? {ambient : Ambient} {e : Expr}
    (h : e.evaluator.Builtin ambient) {s : String} (hs : e.literalText? = some s) :
    e.evaluator = .constant (.text s) := by
  obtain ⟨v, hv, hs⟩ := Option.bind_eq_some_iff.mp hs
  cases v with
  | text t =>
    obtain rfl : t = s := Option.some.inj hs
    exact h.eq_constant hv
  | _ => cases hs

end StateExpr
