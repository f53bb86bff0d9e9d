import StateExpr.Proofs.Assignment
import StateExpr.Proofs.Congruence
/-!
# Constant paths

A chain of accessors and elements that starts at a name, with literal names and indices, is the same
path in every state: it reads what its keys lead to, and denotes steps by these keys.

Main statements: `Expr.ConstantPath.value_apply` and `Expr.ConstantPath.path_eq`.
-/

namespace StateExpr.Expr

/-- A value that names a key is a text, or an integer that is not negative. -/
theorem keyOf?_cases {v : Value} {key : Key} (h : keyOf? v = some key) :
    (∃ n, v = .text n ∧ key = .name n) ∨
      ∃ i : Nat, v.integer? = some (i : Int) ∧ key = .index i := by
  unfold keyOf? at h
  split at h
  · exact .inl ⟨_, rfl, (Option.some.inj h).symm⟩
  · obtain ⟨n, hn, h⟩ := Option.bind_eq_some_iff.mp h
    split at h
    · rename_i hpos
      obtain ⟨i, rfl⟩ := Int.eq_ofNat_of_zero_le hpos
      exact .inr ⟨i, hn, (Option.some.inj h).symm⟩
    · cases h

/-! ## Following keys -/

/-- What following keys makes of an expression. -/
def readAlong (keys : List Key) (s : Value) : Except EvalError Value :=
  (s.follow keys).mapError fun fault => .reference fault.message

theorem readAlong_eq_ok {keys : List Key} {s v : Value} :
    readAlong keys s = .ok v ↔ s.follow keys = .ok v := by
  unfold readAlong
  cases s.follow keys <;> simp [Except.mapError]

/-- Following one more key is reading a property or an item of what was found. -/
theorem readAlong_concat (keys : List Key) (key : Key) (s : Value) :
    readAlong (keys ++ [key]) s = match readAlong keys s with
      | .ok w => (w.under key).mapError fun fault => .reference fault.message
      | .error e => .error e := by
  unfold readAlong
  rw [Value.follow_concat]
  cases s.follow keys <;> rfl

/-! ## Chains of accessors and elements -/

/-- A chain of accessors and elements, and the keys it steps by. -/
inductive ConstantPath : Expr → List Key → Prop where
  | root {name property : String} {literal : Expr} (hp : literal.literalText? = some property) :
      ConstantPath (node name .accessor [literal]) [.name property]
  | property {name property : String} {literal owner : Expr} {keys : List Key}
      (hp : literal.literalText? = some property) (howner : ConstantPath owner keys) :
      ConstantPath (node name .accessor [literal, owner]) (keys ++ [.name property])
  | element {ambient : Ambient} {name name' : String} {owner : Expr} {v : Value}
      {beneath : List Expr} {key : Key} {keys : List Key} (hk : keyOf? v = some key)
      (howner : ConstantPath owner keys) :
      ConstantPath (node name (Operator.element.evaluator ambient)
        [owner, node name' (.constant v) beneath]) (keys ++ [key])

namespace ConstantPath

variable {σ : Type} {e : Expr} {keys : List Key}

/-- **A constant path reads what its keys lead to**, and changes nothing. -/
theorem value_apply {enter : Expr → Option (Action Value Value)}
    (henter : ∀ n, n.isComprehension = false → enter n = none) (h : ConstantPath e keys)
    (s : Value) : (e.meaning .nested enter).value s = (readAlong keys s, s) := by
  induction h with
  | root hp =>
    rw [meaning_root _ hp (henter _ rfl)]
    rfl
  | @property name property literal owner keys hp howner ih =>
    rw [meaning_node _ (henter _ rfl)]
    change runAccessor .nested (node name .accessor [literal, owner]) _ s = _
    have hn : (node name .accessor [literal, owner]).propertyName? = some property := hp
    unfold runAccessor
    rw [hn]
    simp only [List.map_cons, List.map_nil]
    rw [Action.bind_apply, ih, readAlong_concat]
    cases readAlong keys s <;> rfl
  | @element ambient name name' owner v beneath key keys hk howner ih =>
    rw [meaning_node _ (henter _ rfl)]
    simp only [List.map_cons, List.map_nil, runNode_element, runElement,
      meaning_constant _ (henter (node name' (.constant v) beneath) rfl), pure_bind]
    rw [Action.bind_apply, ih, readAlong_concat]
    cases readAlong keys s with
    | error e => rfl
    | ok w =>
      rcases keyOf?_cases hk with ⟨n, rfl, rfl⟩ | ⟨i, hi, rfl⟩
      · rfl
      · simp only [hi, Value.under]
        cases w.item i <;> rfl

/-- **A constant path denotes steps by its keys**, in every state. -/
theorem path_eq (scoping : Scoping σ) (enter : Expr → Option (Action σ Value))
    (henter : ∀ n, n.isComprehension = false → enter n = none) (h : ConstantPath e keys) :
    ∃ steps, keysOf steps = keys ∧ (e.meaning scoping enter).path = pure steps := by
  induction h with
  | root hp => exact ⟨_, rfl, by rw [meaning_root scoping hp (henter _ rfl)]⟩
  | @property name property literal owner keys hp howner ih =>
    obtain ⟨steps, rfl, hpath⟩ := ih
    refine ⟨steps ++ [⟨.name property, (owner.meaning scoping enter).expr.display⟩],
      keysOf_concat _ _, ?_⟩
    have hn : (node name .accessor [literal, owner]).propertyName? = some property := hp
    rw [meaning_node _ (henter _ rfl)]
    simp only [List.map_cons, List.map_nil, pathOf, hn, hpath, pure_bind]
    rfl
  | @element ambient name name' owner v beneath key keys hk howner ih =>
    obtain ⟨steps, rfl, hpath⟩ := ih
    refine ⟨steps ++ [⟨key, (owner.meaning scoping enter).expr.display⟩], keysOf_concat _ _, ?_⟩
    have ha : (node name (Operator.element.evaluator ambient)
        [owner, node name' (.constant v) beneath]).isA .accessor = false := rfl
    have he : (node name (Operator.element.evaluator ambient)
        [owner, node name' (.constant v) beneath]).isA .element = true := rfl
    rw [meaning_node _ (henter _ rfl)]
    simp only [List.map_cons, List.map_nil, pathOf, ha, he, Bool.false_eq_true, if_false, hpath,
      meaning_constant _ (henter (node name' (.constant v) beneath) rfl), pure_bind, hk]

end ConstantPath

end StateExpr.Expr
