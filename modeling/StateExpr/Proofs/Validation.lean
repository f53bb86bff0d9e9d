import StateExpr.Expr.Signature
import StateExpr.Proofs.Tree
/-!
# What validation asks for

A tree is well formed when every node of it is, and a node is when its children are right in number
and in type.  Of a child no more is read than its type, its literal text and, where a name is bound,
whether it is a name.

Main statements: `Expr.validateTree_eq_ok`, one `_eq_ok` lemma for each kind of check, and
`Expr.validate_congr`, that children of the same outline are as good as each other.
-/

namespace StateExpr.Expr

theorem seq_eq_ok {a b : Except BuildError Unit} :
    (a >>= fun _ => b) = .ok () ↔ a = .ok () ∧ b = .ok () := by
  cases a with
  | ok _ => exact ⟨fun h => ⟨rfl, h⟩, fun h => h.2⟩
  | error e => exact ⟨nofun, nofun⟩

/-! ## Trees -/

theorem validateAll_eq_ok {es : List Expr} :
    validateAll es = .ok () ↔ ∀ e ∈ es, e.validateTree = .ok () := by
  induction es with
  | nil => simp [validateAll]
  | cons e rest ih => rw [validateAll, seq_eq_ok, ih, List.forall_mem_cons]

/-- A tree is well formed when all of its nodes are. -/
theorem validateTree_eq_ok {e : Expr} :
    e.validateTree = .ok () ↔ e.Everywhere fun n => n.validate = .ok () := by
  induction e using Expr.induction with
  | node name evaluator children ih =>
    rw [validateTree, seq_eq_ok, validateAll_eq_ok, Everywhere.node_iff]
    refine and_congr_right fun _ => ?_
    exact forall₂_congr ih

/-! ## Checks -/

theorem checkArity_eq_ok {e : Expr} {min : Nat} {max : Option Nat} {types : List ReturnType} :
    e.checkArity min max types = .ok () ↔
      min ≤ e.children.length ∧ (∀ most ∈ max, e.children.length ≤ most) ∧
        (types ≠ [] → ∀ c ∈ e.children, admits types c = true) := by
  unfold checkArity
  split
  · rename_i hfew
    exact iff_of_false nofun fun h => absurd h.1 (Nat.not_le.mpr hfew)
  · rename_i hmin
    split
    · rename_i most hmost
      obtain ⟨hmem, hlt⟩ := Option.filter_eq_some_iff.mp hmost
      refine iff_of_false nofun fun h => ?_
      have := h.2.1 most hmem
      simp at hlt
      omega
    · rename_i hmax
      have hmost : ∀ most ∈ max, e.children.length ≤ most := by
        intro most hmem
        have := Option.filter_eq_none_iff.mp hmax most hmem
        simpa using this
      split
      · rename_i hfind
        refine iff_of_true rfl ⟨Nat.not_lt.mp hmin, hmost, ?_⟩
        intro htypes c hc
        rw [if_neg (by simpa using htypes)] at hfind
        simpa using List.find?_eq_none.mp hfind c hc
      · rename_i child hfind
        refine iff_of_false nofun fun h => ?_
        split at hfind
        · cases hfind
        · rename_i htypes
          have hbad := List.find?_some hfind
          rw [h.2.2 (by simpa using htypes) child (List.mem_of_find?_eq_some hfind)] at hbad
          cases hbad

theorem checkOrder_eq_ok {e : Expr} {required optional : List ReturnType} :
    e.checkOrder required optional = .ok () ↔
      required.length ≤ e.children.length ∧
        e.children.length ≤ required.length + optional.length ∧
        ∀ p ∈ e.children.zip (required ++ optional), p.2 ≠ .object → admits [p.2] p.1 = true := by
  unfold checkOrder
  dsimp only
  split
  · rename_i hcount
    simp only [Bool.or_eq_true, decide_eq_true_eq] at hcount
    exact iff_of_false nofun fun h => by omega
  · rename_i hcount
    simp only [Bool.or_eq_true, decide_eq_true_eq, not_or, Nat.not_lt] at hcount
    split
    · rename_i hfind
      refine iff_of_true rfl ⟨hcount.1, hcount.2, ?_⟩
      intro p hp hobject
      simpa [hobject] using List.find?_eq_none.mp hfind p hp
    · rename_i child type hfind
      refine iff_of_false nofun fun h => ?_
      have hbad := List.find?_some hfind
      simp only [Bool.and_eq_true, bne_iff_ne, Bool.not_eq_true'] at hbad
      rw [h.2.2 _ (List.mem_of_find?_eq_some hfind) hbad.1] at hbad
      cases hbad.2

theorem checkAccessor_eq_ok {e : Expr} :
    e.checkAccessor = .ok () ↔
      e.propertyName?.isSome = true ∧ e.children.length ≤ 2 ∧
        ∀ owner ∈ e.children[1]?, owner.returnType = .object := by
  unfold checkAccessor
  split
  · rename_i hnone
    refine iff_of_false nofun fun h => ?_
    rw [Option.isNone_iff_eq_none.mp hnone] at h
    cases h.1
  · rename_i hsome
    have hname : e.propertyName?.isSome = true := by simpa [Option.isSome_iff_ne_none] using hsome
    split
    · rename_i literal owner hchildren
      split
      · rename_i hobject
        exact iff_of_true rfl ⟨hname, by simp [hchildren], by simpa [hchildren] using hobject⟩
      · rename_i hobject
        exact iff_of_false nofun fun h => hobject (by simpa [hchildren] using h.2.2)
    · rename_i hnot
      split
      · rename_i hlong
        exact iff_of_false nofun fun h => absurd h.2.1 (Nat.not_le.mpr hlong)
      · rename_i hshort
        refine iff_of_true rfl ⟨hname, Nat.not_lt.mp hshort, ?_⟩
        intro owner howner
        match hc : e.children, hshort, howner with
        | [_, _], _, _ => exact absurd hc (hnot _ _)
        | _ :: _ :: _ :: _, hshort, _ => exact absurd (by simp) hshort

theorem checkComprehension_eq_ok {e : Expr} :
    e.checkComprehension = .ok () ↔ ∃ collection iterator body,
      e.children = [collection, iterator, body] ∧ iterator.iteratorName?.isSome = true := by
  unfold checkComprehension
  split
  · rename_i collection iterator body hchildren
    split
    · rename_i hname
      exact iff_of_true rfl ⟨_, _, _, hchildren, hname⟩
    · rename_i hname
      refine iff_of_false nofun ?_
      rintro ⟨c, i, b, heq, hi⟩
      obtain ⟨rfl, rfl, rfl⟩ : collection = c ∧ iterator = i ∧ body = b := by
        simpa using hchildren.symm.trans heq
      exact hname hi
  · rename_i hnot
    exact iff_of_false nofun fun ⟨c, i, b, heq, _⟩ => hnot c i b heq

theorem checkPattern_eq_ok {e : Expr} :
    e.checkPattern = .ok () ↔ e.checkArity 2 (some 2) [.string] = .ok () ∧
      ∀ pattern ∈ e.children[1]?.bind literalText?, ∃ r, Regex.compile pattern = .ok r := by
  unfold checkPattern
  rw [seq_eq_ok]
  refine and_congr_right fun _ => ?_
  cases e.children[1]?.bind literalText? with
  | none => simp [pure, Except.pure]
  | some pattern =>
    cases hr : Regex.compile pattern with
    | ok r => simp [hr, pure, Except.pure]
    | error fault => simp [hr, throw, throwThe, MonadExceptOf.throw]

/-! ## Children of the same outline -/

/-- What the checks read of a child. -/
def outline (e : Expr) : ReturnType × Option String := (e.returnType, e.literalText?)

section Outline

variable {name name' : String} {evaluator evaluator' : Evaluator} {children children' : List Expr}

theorem length_eq_of_outline (h : children.map outline = children'.map outline) :
    children.length = children'.length := by
  simpa using congrArg List.length h

/-- What holds of all children by their types holds of children of the same outline. -/
theorem checkArity_congr (h : children.map outline = children'.map outline) {min : Nat}
    {max : Option Nat} {types : List ReturnType} :
    (node name evaluator children).checkArity min max types = .ok () ↔
      (node name' evaluator' children').checkArity min max types = .ok () := by
  have all_iff : ∀ cs : List Expr, (∀ c ∈ cs, admits types c = true) ↔
      ∀ o ∈ cs.map outline, (o.1 == .object || types.contains o.1) = true := by
    intro cs
    rw [List.forall_mem_map]
    rfl
  simp only [checkArity_eq_ok, Expr.children, length_eq_of_outline h, all_iff, h]

theorem checkOrder_congr (h : children.map outline = children'.map outline)
    {required optional : List ReturnType} :
    (node name evaluator children).checkOrder required optional = .ok () ↔
      (node name' evaluator' children').checkOrder required optional = .ok () := by
  have all_iff : ∀ cs : List Expr,
      (∀ p ∈ cs.zip (required ++ optional), p.2 ≠ .object → admits [p.2] p.1 = true) ↔
      ∀ p ∈ (cs.map outline).zip (required ++ optional), p.2 ≠ .object →
        (p.1.1 == .object || [p.2].contains p.1.1) = true := by
    intro cs
    rw [List.zip_map_left, List.forall_mem_map]
    rfl
  simp only [checkOrder_eq_ok, Expr.children, length_eq_of_outline h, all_iff, h]

theorem literalTextAt_eq_of_outline (h : children.map outline = children'.map outline) (i : Nat) :
    children[i]?.bind literalText? = children'[i]?.bind literalText? := by
  have at_eq : ∀ cs : List Expr, cs[i]?.bind literalText? = (cs.map outline)[i]?.bind Prod.snd := by
    intro cs
    rw [List.getElem?_map]
    cases cs[i]? <;> rfl
  rw [at_eq, at_eq, h]

theorem propertyName?_eq_of_outline (h : children.map outline = children'.map outline) :
    (node name evaluator children).propertyName?
      = (node name' evaluator' children').propertyName? := by
  have first := literalTextAt_eq_of_outline h 0
  rwa [← List.head?_eq_getElem?, ← List.head?_eq_getElem?] at first

theorem checkAccessor_congr (h : children.map outline = children'.map outline) :
    (node name evaluator children).checkAccessor = .ok () ↔
      (node name' evaluator' children').checkAccessor = .ok () := by
  have owner_iff : ∀ cs : List Expr, (∀ owner ∈ cs[1]?, owner.returnType = .object) ↔
      ∀ o ∈ (cs.map outline)[1]?, o.1 = .object := by
    intro cs
    rw [List.getElem?_map]
    cases cs[1]? <;> simp [outline]
  have named : (node name evaluator children).propertyName?
      = (node name' evaluator' children').propertyName? := propertyName?_eq_of_outline h
  rw [checkAccessor_eq_ok, checkAccessor_eq_ok, named]
  simp only [Expr.children, length_eq_of_outline h, owner_iff, h]

theorem checkPattern_congr (h : children.map outline = children'.map outline) :
    (node name evaluator children).checkPattern = .ok () ↔
      (node name' evaluator' children').checkPattern = .ok () := by
  rw [checkPattern_eq_ok, checkPattern_eq_ok]
  refine and_congr (checkArity_congr h) ?_
  simp only [Expr.children, literalTextAt_eq_of_outline h]

/-- **Children of the same outline are as good as each other**, but for where a name is bound. -/
theorem validate_congr (h : children.map outline = children'.map outline)
    (hs : evaluator.signature ≠ some .comprehension) :
    (node name evaluator children).validate = .ok () ↔
      (node name' evaluator children').validate = .ok () := by
  unfold validate
  simp only [Expr.evaluator]
  cases hsig : evaluator.signature with
  | none => exact Iff.rfl
  | some signature =>
    cases signature with
    | arity min max types => exact checkArity_congr h
    | order required optional => exact checkOrder_congr h
    | accessor => exact checkAccessor_congr h
    | comprehension => exact absurd hsig hs
    | pattern => exact checkPattern_congr h

end Outline

end StateExpr.Expr
