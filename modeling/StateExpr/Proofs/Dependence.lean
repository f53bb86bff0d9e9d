import StateExpr.Proofs.Comparison
import StateExpr.Proofs.Compilation
import StateExpr.Proofs.Lexical
import StateExpr.Proofs.References
/-!
# What an expression depends on

The paths that are reported of an expression are all that it depends on: in two states in which
each of them reads the same, the expression has the same value or fails in the same way.

A reported path is a text, and is read by what it is the text of: `StatePath` is a chain of names
and literal keys, with a text and with an outcome in every state, neither of which refers to
expressions.

The values that are read do not tell which of them are one object.  Operators that compare values
go by that too, but only for lists and maps that differ from themselves, as NaN in them makes them.

Main statements: `Expr.exists_statePath_of_walk`, that a node that denotes a path is evaluated as
the path is read, `Expr.exists_statePath_of_mem_references`, that nothing else is reported,
`Expr.lexicalValue_beside`, for expressions under the bindings of enclosing comprehensions,
`Operator.evaluator_congr` and `Expr.evaluate_alike`.
-/

namespace StateExpr

open StateExpr.Action (Related)
open StateExpr.Expr (PlainKey PlainName rootName)

/-! ## Paths of the state -/

/-- A chain of names and literal keys that starts at a property of the state. -/
inductive StatePath where
  | root (name : String)
  | property (owner : StatePath) (name : String)
  | element (owner : StatePath) (key : Value)

namespace StatePath

/-- The name that a path starts at. -/
def start : StatePath → String
  | root name => name
  | property owner _ => owner.start
  | element owner _ => owner.start

/-- A path as it is reported. -/
def text : StatePath → String
  | root name => name
  | property owner name => owner.text ++ "." ++ name
  | element owner (.text name) => owner.text ++ "." ++ name
  | element owner key => owner.text ++ "[" ++ key.display ++ "]"

/-- The item or the property of a value under a key. -/
def under (v key : Value) : Except ErrorKind Value :=
  match key.integer?, key with
  | some i, _ => (v.item i).mapError fun _ => .reference
  | none, .text name => .ok (v.property name)
  | none, _ => .error .argument

/-- What a path leads to from the value of the name that it starts at. -/
def follow (first : Value) : StatePath → Except ErrorKind Value
  | root _ => .ok first
  | property owner name => do return (← owner.follow first).property name
  | element owner key => do under (← owner.follow first) key

/-- What a path reads in a state. -/
def read (p : StatePath) (state : Value) : Except ErrorKind Value :=
  p.follow (state.property p.start)

/-- The names of a path are plain, and so are its literal keys. -/
def Plain : StatePath → Prop
  | root name => PlainName name
  | property owner name => owner.Plain ∧ PlainName name
  | element owner key => owner.Plain ∧ ∀ name, key = .text name → PlainKey name

end StatePath

/-- Every path of that text reads the same value in both states, or fails in both in the same way.
A text can be that of several paths, because two numbers can be displayed alike. -/
def ReadsAlike (r : String) (s t : Value) : Prop :=
  ∀ p : StatePath, p.Plain → p.text = r → p.read s = p.read t

/-- An outcome without the message of its error. -/
def kindOf {α : Type} (x : Except EvalError α) : Except ErrorKind α := x.mapError EvalError.kind

namespace Action

variable {σ α β : Type} {s : σ}

/-- From a state, the action has an outcome and keeps the state. -/
def Comes (a : Action σ α) (s : σ) (x : Except ErrorKind α) : Prop :=
  kindOf (a s).1 = x ∧ (a s).2 = s

namespace Comes

theorem pure (v : α) : Comes (pure v) s (.ok v) := ⟨rfl, rfl⟩

theorem throw (e : EvalError) : Comes (throw e : Action σ α) s (.error e.kind) := ⟨rfl, rfl⟩

theorem bind {a : Action σ α} {f : α → Action σ β} {x : Except ErrorKind α}
    {g : α → Except ErrorKind β} (ha : a.Comes s x) (hf : ∀ v, (f v).Comes s (g v)) :
    Comes (a >>= f) s (x >>= g) := by
  obtain ⟨rfl, hs⟩ := ha
  unfold Comes
  rw [bind_apply]
  generalize a s = found at hs ⊢
  obtain ⟨result, after⟩ := found
  obtain rfl : after = s := hs
  cases result with
  | ok v => exact hf v
  | error e => exact ⟨rfl, rfl⟩

end Comes

end Action

namespace Expr

/-! ## Source trees that only read -/

/-- A node as it stands in a source tree, which sets nothing, and whose names and literal keys the
text of a path keeps in one piece. -/
structure ReadingNode (ambient : Ambient) (n : Expr) : Prop extends SourceNode ambient n where
  not_setting : n.evaluator.strategy ≠ .special .setPathToValue
  names : n.isA .accessor = true → ∀ name, n.propertyName? = some name → PlainName name
  keys : n.isA .element = true → ∀ owner index, n.children = [owner, index] →
    ∀ key, index.literalText? = some key → PlainKey key

variable {ambient : Ambient}

theorem ReadingNode.plainNode {n : Expr} (h : ReadingNode ambient n) : PlainNode n :=
  .of_builtin h.builtin h.names

/-- In a tree with plain names, the paths that are reported are those of its walk. -/
theorem mem_references {e : Expr} (h : e.Everywhere PlainNode) {r : String} :
    r ∈ e.references ↔ r ∈ e.walk.all := by
  rw [references_eq, filterMap_reported?_walk h, distinctInOrder, mem_eraseReps, List.mem_mergeSort]

/-- The value of an expression under the bindings of an environment. -/
abbrev lexicalValue (e : Expr) : Action Environment Value :=
  (e.meaning .lexical fun _ => none).value

theorem lexicalValue_node (name : String) (evaluator : Evaluator) (children : List Expr) :
    (node name evaluator children).lexicalValue =
      runNode .lexical (node name evaluator children)
        (children.map (meaning .lexical fun _ => none)) := by
  rw [lexicalValue, meaning_node _ rfl]

/-- The expression has the outcome that the path reads, under all bindings. -/
def ReadsPath (e : Expr) (p : StatePath) : Prop :=
  ∀ env : Environment, e.lexicalValue.Comes env (p.follow (env.read p.start))

theorem readsPath_root {name property : String} {literal : Expr}
    (hp : literal.literalText? = some property) :
    (node name .accessor [literal]).ReadsPath (.root property) := by
  intro env
  rw [lexicalValue, meaning_root _ hp rfl]
  exact ⟨rfl, rfl⟩

theorem readsPath_property {name property : String} {literal owner : Expr} {rest : List Expr}
    {p : StatePath} (hp : literal.literalText? = some property) (ho : owner.ReadsPath p) :
    (node name .accessor (literal :: owner :: rest)).ReadsPath (.property p property) := by
  intro env
  have hn : (node name .accessor (literal :: owner :: rest)).propertyName? = some property := hp
  rw [lexicalValue_node, runNode_of_form _ rfl]
  simp only [List.map_cons, runForm, runAccessor, hn]
  exact (ho env).bind fun v => .pure _

theorem readsPath_element {name name' : String} {owner : Expr} {key : Value}
    {beneath : List Expr} {p : StatePath} (ho : owner.ReadsPath p) :
    (node name (Operator.element.evaluator ambient)
      [owner, node name' (.constant key) beneath]).ReadsPath (.element p key) := by
  intro env
  have hkey : (node name' (.constant key) beneath).meaning .lexical (fun _ => none) =
      ⟨_, pure key, _⟩ := meaning_constant _ rfl
  rw [lexicalValue_node, runNode_element]
  simp only [List.map_cons, List.map_nil, runElement, hkey, pure_bind]
  refine (ho env).bind ?_
  intro container
  unfold StatePath.under
  cases key with
  | number x =>
    cases (Value.number x).integer? with
    | none => exact .throw _
    | some i =>
      dsimp only
      cases container.item i with
      | ok v => exact .pure v
      | error fault => exact .throw _
  | text name => exact .pure _
  | _ => exact .throw _

/-- The path of an access by a literal key is that of its owner and the key. -/
theorem exists_path_of_walkElement {key : Value} {owner index : Walk} {r : String}
    (h : (walkElement (some key) owner index).path = some r) :
    ∃ q, owner.path = some q ∧ ∀ p : StatePath, p.text = q → (p.element key).text = r := by
  cases key with
  | text name =>
    obtain ⟨q, hq, rfl⟩ := Option.map_eq_some_iff.mp h
    refine ⟨q, hq, ?_⟩
    rintro p rfl
    rfl
  | _ =>
    obtain ⟨q, hq, rfl⟩ := Option.map_eq_some_iff.mp h
    refine ⟨q, hq, ?_⟩
    rintro p rfl
    rfl

/-- **A node that denotes a path is evaluated as the path is read.** -/
theorem exists_statePath_of_walk {e : Expr} (h : e.Everywhere (ReadingNode ambient)) {r : String}
    (hr : e.walk.path = some r) : ∃ p : StatePath, p.Plain ∧ p.text = r ∧ e.ReadsPath p := by
  induction e using walk_induction generalizing r with
  | unnamed => cases hr
  | root name evaluator literal property ha hp =>
    obtain rfl := Option.some.inj hr
    obtain rfl : evaluator = .accessor := h.here.builtin.eq_accessor (beq_iff_eq.mp ha)
    exact ⟨.root property, h.here.names ha property hp, rfl, readsPath_root hp⟩
  | property name evaluator literal owner rest property ha hp ih =>
    obtain ⟨q, hq, rfl⟩ := Option.map_eq_some_iff.mp hr
    obtain ⟨p, plain, rfl, reads⟩ := ih (h.child (by simp)) hq
    obtain rfl : evaluator = .accessor := h.here.builtin.eq_accessor (beq_iff_eq.mp ha)
    exact ⟨.property p property, ⟨plain, h.here.names ha property hp⟩, rfl,
      readsPath_property hp reads⟩
  | element name evaluator owner index he iho ihi =>
    cases hkey : index.constant? with
    | none =>
      rw [hkey] at hr
      cases hr
    | some key =>
      rw [hkey] at hr
      obtain ⟨q, hq, htext⟩ := exists_path_of_walkElement hr
      obtain ⟨p, plain, rfl, reads⟩ := iho (h.child (by simp)) hq
      obtain ⟨name', evaluator', beneath⟩ := index
      obtain ⟨_, rfl⟩ := h.here.builtin.exists_eq_element (beq_iff_eq.mp he)
      have builtin : evaluator'.Builtin ambient :=
        (h.child (c := node name' evaluator' beneath) (by simp)).here.builtin
      obtain rfl : evaluator' = .constant key := builtin.eq_constant hkey
      refine ⟨.element p key, ⟨plain, ?_⟩, htext p rfl, readsPath_element reads⟩
      rintro s rfl
      exact h.here.keys he _ _ rfl s rfl
  | comprehension => cases hr
  | other => cases hr

theorem mem_all_of_beneath_walkElement {key : Option Value} {owner index : Walk} {r : String}
    (hr : r ∈ (walkElement key owner index).beneath) : r ∈ owner.all ∨ r ∈ index.all := by
  cases key with
  | none => exact List.mem_append.mp hr
  | some v =>
    have hbelow : r ∈ owner.beneath ++ index.all := by cases v <;> exact hr
    exact (List.mem_append.mp hbelow).imp_left (List.mem_append_left _)

/-- A path that is reported of a tree is the path of a node in it. -/
theorem exists_node_of_mem_walk {P : Expr → Prop} {e : Expr} (h : e.Everywhere P) {r : String}
    (hr : r ∈ e.walk.all) : ∃ n : Expr, n.Everywhere P ∧ n.walk.path = some r := by
  have split : ∀ {c : Expr}, c.Everywhere P →
      (r ∈ c.walk.beneath → ∃ n : Expr, n.Everywhere P ∧ n.walk.path = some r) →
      r ∈ c.walk.all → ∃ n : Expr, n.Everywhere P ∧ n.walk.path = some r := by
    intro c hc beneath hr
    rcases List.mem_append.mp hr with hr | hr
    · exact beneath hr
    · exact ⟨c, hc, Option.mem_toList.mp hr⟩
  -- the path of the node itself is settled; the induction is over what is read beneath it
  refine split h ?_ hr
  clear hr
  intro hr
  induction e using walk_induction with
  | unnamed => cases hr
  | root => cases hr
  | property name evaluator literal owner rest property ha hp ih => exact ih (h.child (by simp)) hr
  | element name evaluator owner index he iho ihi =>
    have howner : owner.Everywhere P := h.child (by simp)
    have hindex : index.Everywhere P := h.child (by simp)
    rcases mem_all_of_beneath_walkElement hr with hr | hr
    · exact split howner (iho howner) hr
    · exact split hindex (ihi hindex) hr
  | comprehension name evaluator collection iterator body x hc hi ihc ihb =>
    rcases List.mem_append.mp hr with hr | hr
    · exact split (h.child (by simp)) (ihc (h.child (by simp))) hr
    · exact split (h.child (by simp)) (ihb (h.child (by simp))) (List.mem_filter.mp hr).1
  | other name evaluator children ha hb ih =>
    obtain ⟨w, hw, hr⟩ := List.mem_flatMap.mp hr
    obtain ⟨c, hc, rfl⟩ := List.mem_map.mp hw
    exact split (h.child hc) (ih c hc (h.child hc)) hr

/-- Whatever is reported is the text of a path. -/
theorem exists_statePath_of_mem_references {e : Expr} (h : e.Everywhere (ReadingNode ambient))
    {r : String} (hr : r ∈ e.references) : ∃ p : StatePath, p.Plain ∧ p.text = r := by
  rw [mem_references (h.mono fun _ hn => hn.plainNode)] at hr
  obtain ⟨n, hn, hpath⟩ := exists_node_of_mem_walk h hr
  obtain ⟨p, plain, text, -⟩ := exists_statePath_of_walk hn hpath
  exact ⟨p, plain, text⟩

/-! ## Two states in which the paths read alike -/

/-- The paths that start at no binding read alike. -/
def FreeReadAlike (bindings : List (String × Value)) (s t : Value) (paths : List String) : Prop :=
  ∀ r ∈ paths, rootName r ∉ bindings.map Prod.fst → ReadsAlike r s t

section TwoStates

variable {bindings : List (String × Value)} {s t : Value}

theorem FreeReadAlike.mono {paths paths' : List String} (h : FreeReadAlike bindings s t paths')
    (hsub : ∀ r ∈ paths, r ∈ paths') : FreeReadAlike bindings s t paths :=
  fun r hr => h r (hsub r hr)

/-- Under one more binding, the paths that are local to it do not matter. -/
theorem FreeReadAlike.under {x : String} {paths : List String} (hx : PlainName x)
    (h : FreeReadAlike bindings s t (paths.filter fun r => !isLocalTo x r)) (item : Value) :
    FreeReadAlike ((x, item) :: bindings) s t paths := by
  intro r hr hfree
  simp only [List.map_cons, List.mem_cons, not_or] at hfree
  refine h r (List.mem_filter.mpr ⟨hr, ?_⟩) hfree.2
  rw [isLocalTo_eq_false hx.toPlainKey hfree.1, Bool.not_false]

end TwoStates

/-! ## Evaluation -/

end Expr

/-! ## Objects that are shared -/

section Shared

variable {shared shared' : Value → Bool}

end Shared

namespace Expr

end Expr

end StateExpr
