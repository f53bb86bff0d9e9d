import StateExpr.Proofs.Resolution
import StateExpr.Proofs.Validation
/-!
# Trees with a hole

A place in a tree is a tree with a hole.  Three kinds of place ask for more than a value: a
comprehension binds a name, setting follows a path, and resolution moves the names of a body to
where the body finds them.  `Context.Admits` says that the hole is in none of them; there a bare
name and the property of that name have the same surroundings, and resolved trees differ in one
place only, if at all.

Main statement: `Context.Admits.resolveIn_fill`.
-/

namespace StateExpr

open StateExpr.Expr

/-! ## Lists that differ in one place -/

theorem append_cons_eq_three {α : Type} {before after : List α} {x a b c : α}
    (h : before ++ x :: after = [a, b, c]) :
    (before = [] ∧ x = a ∧ after = [b, c]) ∨ (before = [a] ∧ x = b ∧ after = [c]) ∨
      (before = [a, b] ∧ x = c ∧ after = []) := by
  match before, h with
  | [], h => simpa using h
  | [_], h => simpa using h
  | [_, _], h => simpa [and_assoc] using h
  | _ :: _ :: _ :: _, h => simp at h

theorem append_cons_of_short {α : Type} {before after : List α}
    (h : before.length + (after.length + 1) ≤ 2) :
    (before = [] ∧ after = []) ∨ (∃ b, before = [] ∧ after = [b]) ∨
      ∃ a, before = [a] ∧ after = [] := by
  match before, after, h with
  | [], [], _ => simp
  | [], [_], _ => simp
  | [_], [], _ => simp
  | [], _ :: _ :: _, h => simp at h
  | [_], _ :: _, h => simp at h; omega
  | _ :: _ :: _, _, h => simp at h; omega

theorem forall₂_append_cons {α : Type} {P : α → α → Prop} (hrefl : ∀ a, P a a) {x y : α}
    (h : P x y) (before after : List α) :
    List.Forall₂ P (before ++ x :: after) (before ++ y :: after) := by
  induction before with
  | nil => exact .cons h (List.forall₂_same.mpr fun a _ => hrefl a)
  | cons a before ih => exact .cons (hrefl a) ih

/-- Two lists that differ in one place, at the same position. -/
theorem eq_or_eq_of_append_cons {α : Type} {before after : List α} {x y a b : α} {i : Nat}
    (ha : (before ++ x :: after)[i]? = some a) (hb : (before ++ y :: after)[i]? = some b) :
    (i = before.length ∧ a = x ∧ b = y) ∨ a = b := by
  rcases Nat.lt_trichotomy i before.length with hlt | rfl | hgt
  · rw [List.getElem?_append_left hlt] at ha hb
    exact .inr (Option.some.inj (ha.symm.trans hb))
  · simp at ha hb
    exact .inl ⟨rfl, ha.symm, hb.symm⟩
  · obtain ⟨k, rfl⟩ := Nat.exists_eq_add_of_lt hgt
    have past : before.length + k + 1 - before.length = k + 1 := by omega
    rw [List.getElem?_append_right (by omega), past, List.getElem?_cons_succ] at ha hb
    exact .inr (Option.some.inj (ha.symm.trans hb))

/-! ## Contexts -/

/-- A tree with a hole in one place. -/
inductive Context where
  | hole
  | node (name : String) (evaluator : Evaluator) (before : List Expr) (inner : Context)
      (after : List Expr)

/-- The evaluator binds a name over the third of its children. -/
def Evaluator.bindsName (evaluator : Evaluator) : Bool :=
  (Operator.ofName? evaluator.name).any Operator.isComprehension

namespace Context

/-- The tree with an expression in the hole. -/
def fill (e : Expr) : Context → Expr
  | hole => e
  | node name evaluator before inner after =>
    .node name evaluator (before ++ inner.fill e :: after)

/-- What a path goes on with from a child with so many others in front of it and behind it. -/
def stepOf? (evaluator : Evaluator) (front behind : Nat) : Option Operator :=
  if evaluator.name == Operator.accessor.name && front == 1 then some .accessor
  else if evaluator.name == Operator.element.name && front == 0 && behind == 1 then some .element
  else none

/-- The steps of a tree that is a path from the hole on, the last one first. -/
def chain? : Context → Option (List Operator)
  | hole => some []
  | node _ evaluator before inner after =>
    (stepOf? evaluator before.length after.length).bind fun step => inner.chain?.map (step :: ·)

/-- Where in a node the hole is: the evaluator, the number of children in front and behind, and
the steps of the child with the hole if it is a path from there on. -/
abbrev Place := Evaluator → (front behind : Nat) → (chain : Option (List Operator)) → Bool

/-- No node has the hole in a place of this kind. -/
def Nowhere (place : Place) : Context → Prop
  | hole => True
  | node _ evaluator before inner after =>
    place evaluator before.length after.length inner.chain? = false ∧ inner.Nowhere place

/-- The hole is to be the name that a comprehension binds, or the scope that this name is read
from. -/
def asIterator (name : String) : Place := fun evaluator front behind chain =>
  evaluator.bindsName && front == 1 && behind == 1 &&
    (chain == some [] || name == localName && chain == some [.accessor])

/-- The hole starts the path that is to be set. -/
def asTarget : Place := fun evaluator front behind chain =>
  evaluator.name == Operator.setPathToValue.name && front == 0 && behind == 1 && chain.isSome

/-- The hole is in the body of a comprehension. -/
def inBody : Place := fun evaluator front behind _ =>
  evaluator.bindsName && front == 2 && behind == 0

end Context

namespace Expr

/-- The property of the state with a literal name. -/
def stateProperty (ambient : Ambient) (name : String) : Expr :=
  withEvaluator (Operator.getProperty.evaluator ambient) [constant (.text name)]

end Expr

namespace Context

variable {ambient : Ambient} {name : String} {C : Context}

/-- The places in which the property of a name does as well as the name: it need not be bound or
set, and resolution leaves the name where it is. -/
structure Admits (name : String) (C : Context) : Prop where
  no_iterator : C.Nowhere (asIterator name)
  no_target : C.Nowhere asTarget
  no_body : C.Nowhere inBody ∨ name = globalName ∨ name = localName

theorem Admits.inner {name' : String} {evaluator : Evaluator} {before after : List Expr}
    (h : (node name' evaluator before C after).Admits name) : C.Admits name :=
  ⟨h.no_iterator.2, h.no_target.2, h.no_body.imp_left And.right⟩

/-! ### What the surroundings see of the hole -/

section Outline

variable (ambient name)

theorem outline_fill (C : Context) :
    (C.fill (stateProperty ambient name)).outline = (C.fill (accessor name none)).outline := by
  cases C <;> rfl

theorem constant?_fill (C : Context) :
    (C.fill (stateProperty ambient name)).constant? = (C.fill (accessor name none)).constant? := by
  cases C <;> rfl

theorem literalText?_fill (C : Context) : (C.fill (stateProperty ambient name)).literalText?
    = (C.fill (accessor name none)).literalText? :=
  congrArg Prod.snd (outline_fill ambient name C)

theorem propertyName?_fill (name' : String) (evaluator : Evaluator) (before : List Expr)
    (inner : Context) (after : List Expr) :
    ((node name' evaluator before inner after).fill (stateProperty ambient name)).propertyName?
      = ((node name' evaluator before inner after).fill (accessor name none)).propertyName? := by
  cases before with
  | nil => exact literalText?_fill ambient name inner
  | cons literal rest => rfl

/-- The same name is bound, unless it is the one in the hole or the scope in the hole is what makes
it one. -/
theorem iteratorName?_fill (hroot : C.chain? ≠ some [])
    (hscope : name = localName → C.chain? ≠ some [.accessor]) :
    (C.fill (stateProperty ambient name)).iteratorName?
      = (C.fill (accessor name none)).iteratorName? := by
  cases C with
  | hole => exact absurd rfl hroot
  | node name' evaluator before inner after =>
    have named := propertyName?_fill ambient name name' evaluator before inner after
    unfold iteratorName?
    rw [named]
    match before, after with
    | [], [] | [], [_] | [], _ :: _ :: _ | [_], _ :: _ => rfl
    | [_, _], _ | _ :: _ :: _ :: _, _ => rfl
    | [literal], [] =>
      cases inner with
      | hole =>
        cases ha : evaluator.name == Operator.accessor.name with
        | false => simp [fill, isA, Expr.evaluator, ha]
        | true =>
          have computed : (stateProperty ambient name).isA .accessor = false := rfl
          have plain : ((accessor name none).propertyName? == some localName) = false :=
            beq_eq_false_iff_ne.mpr fun hlocal =>
              hscope (Option.some.inj hlocal) (by simp [chain?, stepOf?, ha])
          unfold localName at plain
          simp [fill, computed, plain]
      | node name'' evaluator' before' inner' after' =>
        have scope := propertyName?_fill ambient name name'' evaluator' before' inner' after'
        simp only [fill, List.cons_append, List.nil_append, children_node, isA, Expr.evaluator,
          List.length_append, List.length_cons] at scope ⊢
        rw [scope]

theorem iteratorName?_fill_of_place {evaluator : Evaluator}
    (hc : evaluator.bindsName = true) (h : asIterator name evaluator 1 1 C.chain? = false) :
    (C.fill (stateProperty ambient name)).iteratorName?
      = (C.fill (accessor name none)).iteratorName? := by
  obtain ⟨hroot, hscope⟩ :
      C.chain? ≠ some [] ∧ (name = localName → C.chain? ≠ some [.accessor]) := by
    simpa [asIterator, hc] using h
  exact iteratorName?_fill ambient name hroot hscope

end Outline

section Binding

variable (ambient name) (name' : String) {evaluator : Evaluator} {before after : List Expr}
  (h : asIterator name evaluator before.length after.length C.chain? = false)
include h

theorem binding?_fill :
    ((node name' evaluator before C after).fill (stateProperty ambient name)).binding?
      = ((node name' evaluator before C after).fill (accessor name none)).binding? := by
  match before, after with
  | [], [] | [], [_] | [], [_, _] | [], _ :: _ :: _ :: _ => rfl
  | [_], [] | [_], _ :: _ :: _ => rfl
  | [_, _], [] | [_, _], _ :: _ | [_, _, _], _ | _ :: _ :: _ :: _ :: _, _ => rfl
  | [_], [_] =>
    by_cases hc : evaluator.bindsName = true
    · have same := iteratorName?_fill_of_place ambient name hc h
      exact (if_pos hc).trans (same.trans (if_pos hc).symm)
    · exact (if_neg hc).trans (if_neg hc).symm

theorem needsResolution_fill :
    ((node name' evaluator before C after).fill (stateProperty ambient name)).needsResolution
      = ((node name' evaluator before C after).fill (accessor name none)).needsResolution := by
  match before, after with
  | [], [] | [], [_] | [], [_, _] | [], _ :: _ :: _ :: _ => rfl
  | [_], [] | [_], _ :: _ :: _ => rfl
  | [_, _], [] | [_, _], _ :: _ | [_, _, _], _ | _ :: _ :: _ :: _ :: _, _ => rfl
  | [c], [b] =>
    simp only [fill, List.cons_append, List.nil_append, needsResolution, children_node]
    cases hc : evaluator.bindsName with
    | false =>
      have plain : ∀ i, (Expr.node name' evaluator [c, i, b]).isComprehension = false :=
        fun _ => hc
      simp only [plain, Bool.false_and]
    | true =>
      cases C with
      | hole => simp [asIterator, hc, chain?] at h
      | node => simp [fill, isA, Expr.evaluator, isComprehension, kind?]

end Binding

/-! ### Resolution -/

/-- The same tree, or the property and the name in one place of a tree that admits either. -/
inductive Swapped (ambient : Ambient) (name : String) (chain : Option (List Operator)) :
    Expr → Expr → Prop where
  | same (e : Expr) : Swapped ambient name chain e e
  | filled {C : Context} (h : C.Admits name) (hchain : C.chain? = chain) :
    Swapped ambient name chain (C.fill (stateProperty ambient name)) (C.fill (accessor name none))

/-- Around trees that are swapped alike, whatever stands beside them. -/
theorem Swapped.of_inner {name' : String} {evaluator : Evaluator} {before after : List Expr}
    {inner : Context} {e f : Expr} (before' : List Expr) {after' : List Expr}
    (h : (node name' evaluator before inner after).Admits name)
    (hswapped : Swapped ambient name inner.chain? e f)
    (hbefore : before'.length = before.length) (hafter : after'.length = after.length) :
    Swapped ambient name (node name' evaluator before inner after).chain?
      (.node name' evaluator (before' ++ e :: after'))
      (.node name' evaluator (before' ++ f :: after')) := by
  cases hswapped with
  | same => exact .same _
  | @filled C hC hchain =>
    refine .filled (C := .node name' evaluator before' C after') ⟨?_, ?_, ?_⟩ ?_
    · refine ⟨?_, hC.no_iterator⟩
      rw [hbefore, hafter, hchain]
      exact h.no_iterator.1
    · refine ⟨?_, hC.no_target⟩
      rw [hbefore, hafter, hchain]
      exact h.no_target.1
    · rcases h.no_body with hbody | hscope
      · refine hC.no_body.imp_left fun hinner => ⟨?_, hinner⟩
        rw [hbefore, hafter]
        exact hbody.1
      · exact .inr hscope
    · simp only [chain?, hbefore, hafter, hchain]

theorem resolveIn_stateProperty (bound : List String) :
    resolveIn bound (stateProperty ambient name) = stateProperty ambient name := by
  unfold stateProperty withEvaluator
  rw [resolveIn_of_no_binding bound rfl]
  exact resolveNode_other rfl nofun

theorem resolveIn_name {bound : List String}
    (h : bound = [] ∨ name = globalName ∨ name = localName) :
    resolveIn bound (accessor name none) = accessor name none := by
  have kept :
      resolveNode bound (accessor name none) [constant (.text name)] = accessor name none := by
    by_cases hbound : bound = []
    · exact resolveNode_other rfl fun _ _ => .inl hbound
    · refine (resolveNode_root hbound _ rfl rfl).trans (if_pos ?_)
      simpa using h.resolve_left hbound
  unfold accessor withEvaluator at kept ⊢
  rw [resolveIn_of_no_binding bound rfl]
  exact kept

/-- What becomes of a node that binds no name. -/
theorem Swapped.of_unnamed {name' : String} {evaluator : Evaluator}
    {before after before' after' : List Expr} {inner : Context} {e f e' f' : Expr}
    (h : (node name' evaluator before inner after).Admits name)
    (hraw : Swapped ambient name inner.chain? e f) (hliteral : e.literalText? = f.literalText?)
    (hresolved : Swapped ambient name inner.chain? e' f')
    (hbefore : before'.length = before.length) (hafter : after'.length = after.length)
    (bound : List String) :
    Swapped ambient name (node name' evaluator before inner after).chain?
      (resolveNode bound (.node name' evaluator (before ++ e :: after))
        (before' ++ e' :: after'))
      (resolveNode bound (.node name' evaluator (before ++ f :: after))
        (before' ++ f' :: after')) := by
  have named : (Expr.node name' evaluator (before ++ e :: after)).propertyName?
      = (Expr.node name' evaluator (before ++ f :: after)).propertyName? := by
    cases before with
    | nil => exact hliteral
    | cons => rfl
  by_cases hkept : (Expr.node name' evaluator (before ++ f :: after)).isA .accessor = true →
      (Expr.node name' evaluator (before ++ f :: after)).propertyName?.isSome = true →
        bound = [] ∨ 2 < (before ++ f :: after).length
  · have hkept' : (Expr.node name' evaluator (before ++ e :: after)).isA .accessor = true →
        (Expr.node name' evaluator (before ++ e :: after)).propertyName?.isSome = true →
          bound = [] ∨ 2 < (before ++ e :: after).length := by
      intro ha hs
      rw [named] at hs
      simpa using hkept ha hs
    rw [resolveNode_other (by simp [hbefore, hafter]) hkept',
      resolveNode_other (by simp [hbefore, hafter]) hkept]
    exact .of_inner _ h hresolved hbefore hafter
  · simp only [Classical.not_imp, not_or, Nat.not_lt, List.length_append, List.length_cons] at hkept
    obtain ⟨ha, hnamed, hbound, hshort⟩ := hkept
    obtain ⟨p, hp⟩ := Option.isSome_iff_exists.mp hnamed
    have hp' := named.trans hp
    replace ha : ∀ cs, (Expr.node name' evaluator cs).isA .accessor = true := fun _ => ha
    rcases append_cons_of_short hshort with ⟨rfl, rfl⟩ | ⟨owner, rfl, rfl⟩ | ⟨literal, rfl, rfl⟩
    · -- the name is a literal, and the hole is beneath it
      simp only [List.nil_append] at hp hp' ⊢
      rw [resolveNode_root hbound _ (ha _) hp, resolveNode_root hbound _ (ha _) hp']
      split
      · exact .of_inner [] h hraw rfl rfl
      · exact .same _
    · obtain rfl := List.length_eq_zero_iff.mp hbefore
      obtain ⟨owner', rfl⟩ := List.length_eq_one_iff.mp hafter
      simp only [List.nil_append] at hp hp' ⊢
      rw [resolveNode_property hbound (ha _) hp, resolveNode_property hbound (ha _) hp']
      exact .of_inner [] h hraw rfl rfl
    · obtain ⟨literal', rfl⟩ := List.length_eq_one_iff.mp hbefore
      obtain rfl := List.length_eq_zero_iff.mp hafter
      simp only [List.cons_append, List.nil_append] at hp hp' ⊢
      rw [resolveNode_property hbound (ha _) hp, resolveNode_property hbound (ha _) hp']
      exact .of_inner [literal] h hresolved rfl rfl

/-- **Resolution leaves the property and the name in one place.**  It rewrites what stands around
them alike, and may drop the place with the two in it. -/
theorem Admits.resolveIn_fill (ambient : Ambient) (h : C.Admits name) {bound : List String}
    (hb : bound = [] ∨ name = globalName ∨ name = localName) :
    Swapped ambient name C.chain? (resolveIn bound (C.fill (stateProperty ambient name)))
      (resolveIn bound (C.fill (accessor name none))) := by
  induction C generalizing bound with
  | hole =>
    simp only [fill, resolveIn_stateProperty, resolveIn_name hb]
    exact .filled (C := .hole) h rfl
  | node name' evaluator before inner after ih =>
    have binds := binding?_fill ambient name name' h.no_iterator.1
    cases hbind :
        ((node name' evaluator before inner after).fill (accessor name none)).binding? with
    | none =>
      rw [hbind] at binds
      simp only [fill] at binds hbind ⊢
      rw [resolveIn_of_no_binding bound binds, resolveIn_of_no_binding bound hbind]
      simp only [List.map_append, List.map_cons]
      exact .of_unnamed h (.filled h.inner rfl) (literalText?_fill ambient name inner)
        (ih h.inner hb) (List.length_map _) (List.length_map _) bound
    | some x =>
      rw [hbind] at binds
      obtain ⟨collection, iterator, body, hchildren, hc, hi⟩ := binding?_eq_some hbind
      rcases append_cons_eq_three hchildren with
        ⟨rfl, rfl, rfl⟩ | ⟨rfl, rfl, rfl⟩ | ⟨rfl, rfl, rfl⟩
      · simp only [fill, List.nil_append] at binds hbind ⊢
        rw [resolveIn_of_binding bound binds, resolveIn_of_binding bound hbind]
        exact .of_inner [] h (ih h.inner hb) rfl rfl
      · simp only [fill, List.cons_append, List.nil_append] at binds hbind ⊢
        rw [resolveIn_of_binding bound binds, resolveIn_of_binding bound hbind]
        exact .same _
      · have hscope : name = globalName ∨ name = localName := by
          refine h.no_body.resolve_left fun hbody => ?_
          have hbinds : evaluator.bindsName = true := hc
          simp [Nowhere, inBody, hbinds] at hbody
        simp only [fill, List.cons_append, List.nil_append] at binds hbind ⊢
        rw [resolveIn_of_binding bound binds, resolveIn_of_binding bound hbind]
        exact .of_inner [_, _] h (ih h.inner (.inr hscope)) rfl rfl

end Context

end StateExpr
