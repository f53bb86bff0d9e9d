import Mathlib.Data.List.TakeWhile
import StateExpr.Expr.References
import StateExpr.Proofs.Resolution
/-!
# The paths of a resolved tree

The paths that a tree reads can be told before its scopes are resolved and afterwards.  Before,
every comprehension leaves out the paths that start at the name it binds; afterwards those paths
start at a local scope, and all others lead through the enclosing scopes to the state.

Main statements: `Expr.reported?_scopedPath`, what is reported of a path that is read inside
comprehensions, and `Expr.references_resolve`, that resolution does not change what is reported.
-/

namespace StateExpr.Expr

/-! ## Texts of paths -/

/-- A path that starts at a scope. -/
def StartsAtScope (r : String) : Prop := r.toList.head? = some '$'

instance (r : String) : Decidable (StartsAtScope r) := inferInstanceAs (Decidable (_ = _))

/-- A key that the text of a path keeps in one piece. -/
structure PlainKey (key : String) : Prop where
  no_dot : '.' ∉ key.toList
  no_bracket : '[' ∉ key.toList

instance (key : String) : Decidable (PlainKey key) :=
  decidable_of_iff ('.' ∉ key.toList ∧ '[' ∉ key.toList)
    ⟨fun ⟨hd, hb⟩ => ⟨hd, hb⟩, fun h => ⟨h.no_dot, h.no_bracket⟩⟩

/-- A plain key that is not the name of a scope. -/
structure PlainName (name : String) : Prop extends PlainKey name where
  not_scope : ¬ StartsAtScope name

instance (name : String) : Decidable (PlainName name) :=
  decidable_of_iff (PlainKey name ∧ ¬ StartsAtScope name)
    ⟨fun ⟨hk, hs⟩ => ⟨hk, hs⟩, fun h => ⟨h.toPlainKey, h.not_scope⟩⟩

/-- The signs that end a name in the text of a path. -/
def isSeparator (c : Char) : Bool := c == '.' || c == '['

/-- The name that a path starts at. -/
def rootName (r : String) : String := String.ofList (r.toList.takeWhile fun c => !isSeparator c)

theorem PlainKey.not_separator {key : String} (h : PlainKey key) :
    ∀ c ∈ key.toList, (!isSeparator c) = true := by
  intro c hc
  have hdot : c ≠ '.' := fun eq => h.no_dot (eq ▸ hc)
  have hbracket : c ≠ '[' := fun eq => h.no_bracket (eq ▸ hc)
  simp [isSeparator, hdot, hbracket]

theorem PlainKey.rootName_eq {key : String} (h : PlainKey key) : rootName key = key := by
  rw [rootName, List.takeWhile_eq_self_iff.mpr h.not_separator, String.ofList_toList]

theorem any_isSeparator_dot (s : String) :
    ("." ++ s).toList.head?.any isSeparator = true := by
  rw [String.toList_append]
  rfl

theorem any_isSeparator_bracket (s : String) :
    ("[" ++ s).toList.head?.any isSeparator = true := by
  rw [String.toList_append]
  rfl

/-- What follows a separator does not matter. -/
theorem rootName_append (r : String) {s : String} (hs : s.toList.head?.any isSeparator = true) :
    rootName (r ++ s) = rootName r := by
  obtain ⟨c, hc, hsep⟩ := (Option.any_eq_true _ _).mp hs
  obtain ⟨cs, hcs⟩ := List.head?_eq_some_iff.mp hc
  have stops : ∀ l : List Char, (l ++ c :: cs).takeWhile (fun c => !isSeparator c)
      = l.takeWhile fun c => !isSeparator c := by
    intro l
    induction l with
    | nil => simp [hsep]
    | cons d l ih => simp only [List.cons_append, List.takeWhile_cons, ih]
  rw [rootName, String.toList_append, hcs, stops, rootName]

/-- A path is its first name and what follows a separator. -/
theorem exists_toList_eq_rootName_append (r : String) :
    ∃ rest, r.toList = (rootName r).toList ++ rest ∧ rest.head?.all isSeparator = true := by
  refine ⟨r.toList.dropWhile fun c => !isSeparator c, ?_, ?_⟩
  · rw [rootName, String.toList_ofList, List.takeWhile_append_dropWhile]
  · have hnext := List.head?_dropWhile_not (fun c => !isSeparator c) r.toList
    cases hd : (r.toList.dropWhile fun c => !isSeparator c).head? with
    | none => rfl
    | some c =>
      rw [hd] at hnext
      simpa using hnext

theorem isLocalTo_iff_exists (x r : String) :
    isLocalTo x r = true ↔
      ∃ rest, r.toList = x.toList ++ rest ∧ rest.head?.all isSeparator = true := by
  unfold isLocalTo
  constructor
  · intro h
    obtain ⟨hstart, hnext⟩ := Bool.and_eq_true_iff.mp h
    obtain ⟨rest, hrest⟩ := List.isPrefixOf_iff_prefix.mp hstart
    rw [← hrest, List.drop_left] at hnext
    refine ⟨rest, hrest.symm, ?_⟩
    cases rest with
    | nil => rfl
    | cons c cs => exact hnext
  · rintro ⟨rest, hrest, hnext⟩
    refine Bool.and_eq_true_iff.mpr ⟨List.isPrefixOf_iff_prefix.mpr ⟨rest, hrest.symm⟩, ?_⟩
    rw [hrest, List.drop_left]
    cases rest with
    | nil => rfl
    | cons c cs => exact hnext

theorem isLocalTo_append {name r s : String} (h : isLocalTo name r = true)
    (hs : s.toList.head?.any isSeparator = true) : isLocalTo name (r ++ s) = true := by
  obtain ⟨rest, hrest, hnext⟩ := (isLocalTo_iff_exists name r).mp h
  refine (isLocalTo_iff_exists name _).mpr ⟨rest ++ s.toList, ?_, ?_⟩
  · rw [String.toList_append, hrest, List.append_assoc]
  · cases rest with
    | nil =>
      obtain ⟨c, hc, hsep⟩ := (Option.any_eq_true _ _).mp hs
      rw [List.nil_append, hc]
      exact hsep
    | cons c cs => exact hnext

/-- A path is local to the name that it starts at. -/
theorem isLocalTo_iff {x : String} (hx : PlainKey x) (r : String) :
    isLocalTo x r = true ↔ rootName r = x := by
  rw [isLocalTo_iff_exists]
  constructor
  · rintro ⟨rest, hrest, hnext⟩
    have hstop : rest.takeWhile (fun c => !isSeparator c) = [] := by
      cases rest with
      | nil => rfl
      | cons c cs =>
        have hc : isSeparator c = true := hnext
        simp [hc]
    rw [rootName, hrest, List.takeWhile_append_of_pos hx.not_separator, hstop, List.append_nil,
      String.ofList_toList]
  · rintro rfl
    exact exists_toList_eq_rootName_append r

theorem isLocalTo_eq_false {x r : String} (hx : PlainKey x) (h : rootName r ≠ x) :
    isLocalTo x r = false :=
  Bool.eq_false_iff.mpr (mt (isLocalTo_iff hx r).mp h)

/-- No path that starts at a scope is local to a plain name. -/
theorem isLocalTo_of_startsAtScope {x r : String} (hx : PlainName x) (hr : StartsAtScope r) :
    isLocalTo x r = false := by
  refine isLocalTo_eq_false hx.toPlainKey ?_
  rintro rfl
  obtain ⟨cs, hcs⟩ := List.head?_eq_some_iff.mp hr
  have hroot : StartsAtScope (rootName r) := by
    rw [StartsAtScope, rootName, hcs, String.toList_ofList]
    rfl
  exact hx.not_scope hroot

/-! ## Paths inside comprehensions -/

theorem not_startsAtScope_append {r s : String} (hr : ¬ StartsAtScope r)
    (hs : s.toList.head?.any isSeparator = true) : ¬ StartsAtScope (r ++ s) := by
  unfold StartsAtScope at hr ⊢
  rw [String.toList_append, List.head?_append]
  cases hc : r.toList.head? with
  | some c => simpa [hc] using hr
  | none =>
    rintro hd
    rw [Option.none_or] at hd
    rw [hd] at hs
    cases hs

/-- What becomes of a path inside comprehensions that bind the given names, the innermost first. -/
def scopedPath : List String → String → String
  | [], r => r
  | x :: bound, r =>
    if x = rootName r then localName ++ "." ++ r else globalName ++ "." ++ scopedPath bound r

/-- The path of the state that a text stands for, if it stands for one. -/
def reported? (r : String) : Option String := (statePath? r.toList).map String.ofList

theorem references_eq (e : Expr) :
    e.references = distinctInOrder (e.walk.all.filterMap reported?) := rfl

theorem distinctInOrder_nil : distinctInOrder [] = [] := by
  rw [distinctInOrder, List.mergeSort_nil]
  rfl

theorem distinctInOrder_singleton (r : String) : distinctInOrder [r] = [r] := by
  rw [distinctInOrder, List.mergeSort_singleton]
  rfl

theorem mem_eraseReps {texts : List String} {r : String} : r ∈ texts.eraseReps ↔ r ∈ texts := by
  have loop : ∀ (texts : List String) (last : String) (found : List String),
      r ∈ List.eraseRepsBy.loop (· == ·) last texts found ↔ r = last ∨ r ∈ texts ∨ r ∈ found := by
    intro texts
    induction texts with
    | nil => simp [List.eraseRepsBy.loop, or_comm]
    | cons next rest ih =>
      intro last found
      unfold List.eraseRepsBy.loop
      by_cases h : last = next
      · subst h
        simp only [BEq.rfl, ih, List.mem_cons]
        tauto
      · simp only [beq_eq_false_iff_ne.mpr h, ih, List.mem_cons]
        tauto
  cases texts with
  | nil => rfl
  | cons first rest =>
    change r ∈ List.eraseRepsBy.loop (· == ·) first rest [] ↔ _
    simp [loop]

/-- What is reported of a tree is what is reported of the paths of its walk. -/
theorem mem_references_iff {e : Expr} {r : String} :
    r ∈ e.references ↔ ∃ path ∈ e.walk.all, reported? path = some r := by
  rw [references_eq, distinctInOrder, mem_eraseReps, List.mem_mergeSort, List.mem_filterMap]

theorem reported?_of_not_startsAtScope {r : String} (h : ¬ StartsAtScope r) :
    reported? r = some r := by
  have plain : ∀ cs : List Char, cs.head? ≠ some '$' → statePath? cs = some cs := by
    intro cs hcs
    unfold statePath?
    split
    · exact absurd rfl hcs
    · exact absurd rfl hcs
    · refine if_neg ?_
      intro hp
      obtain ⟨rest, rfl⟩ := List.isPrefixOf_iff_prefix.mp hp
      exact hcs rfl
  rw [reported?, plain _ h, Option.map_some, String.ofList_toList]

theorem reported?_global (r : String) : reported? (globalName ++ "." ++ r) = reported? r := by
  simp only [reported?, String.toList_append]
  rfl

theorem reported?_local (r : String) : reported? (localName ++ "." ++ r) = none := by
  simp only [reported?, String.toList_append]
  rfl

/-- **A bound name is not reported, and any other as it stands outside.** -/
theorem reported?_scopedPath {r : String} (h : ¬ StartsAtScope r) (bound : List String) :
    reported? (scopedPath bound r) = if rootName r ∈ bound then none else some r := by
  induction bound with
  | nil => simpa [scopedPath] using reported?_of_not_startsAtScope h
  | cons x bound ih =>
    unfold scopedPath
    by_cases hx : x = rootName r
    · rw [if_pos hx, reported?_local, if_pos (by simp [hx])]
    · rw [if_neg hx, reported?_global, ih]
      simp [Ne.symm hx]

theorem startsAtScope_scopedPath {bound : List String} (hb : bound ≠ []) (r : String) :
    StartsAtScope (scopedPath bound r) := by
  obtain ⟨x, bound, rfl⟩ := List.exists_cons_of_ne_nil hb
  unfold scopedPath
  split <;> simp only [StartsAtScope, String.toList_append] <;> rfl

/-- A path is lengthened inside comprehensions as it is outside. -/
theorem scopedPath_append (bound : List String) (r : String) {s : String}
    (hs : s.toList.head?.any isSeparator = true) :
    scopedPath bound (r ++ s) = scopedPath bound r ++ s := by
  induction bound with
  | nil => rfl
  | cons x bound ih =>
    unfold scopedPath
    rw [rootName_append r hs, ih]
    split <;> simp only [String.append_assoc]

/-! ## The walk of a node -/

theorem walkAll_eq_map (es : List Expr) : walkAll es = es.map walk := by
  induction es with
  | nil => rfl
  | cons e rest ih => simp only [walkAll, List.map_cons, ih]

theorem walk_node (name : String) (evaluator : Evaluator) (children : List Expr) :
    (node name evaluator children).walk
      = walkNode (node name evaluator children) (children.map walk) := by
  simp only [walk, walkAll_eq_map]

section Node

variable {e : Expr} {name : String} {evaluator : Evaluator} {collection iterator body : Expr}

theorem walkNode_unnamed (ha : e.isA .accessor = true) (hp : e.propertyName? = none)
    (walks : List Walk) : walkNode e walks = ⟨none, []⟩ := by
  simp only [walkNode, ha, hp, if_true]

theorem walkNode_root {p : String} (ha : e.isA .accessor = true) (hp : e.propertyName? = some p)
    (literal : Walk) : walkNode e [literal] = ⟨some p, []⟩ := by
  simp only [walkNode, ha, hp, if_true]

theorem walkNode_property {p : String} (ha : e.isA .accessor = true)
    (hp : e.propertyName? = some p) (literal owner : Walk) (rest : List Walk) :
    walkNode e (literal :: owner :: rest)
      = ⟨owner.path.map (· ++ "." ++ p), owner.beneath⟩ := by
  simp only [walkNode, ha, hp, if_true]

theorem isA_accessor_of_isA_element (he : e.isA .element = true) : e.isA .accessor = false := by
  refine Bool.eq_false_iff.mpr ?_
  intro ha
  have hn : Operator.accessor.name = Operator.element.name :=
    (beq_iff_eq.mp ha).symm.trans (beq_iff_eq.mp he)
  cases Operator.name_injective hn

theorem walkNode_element {owner index : Expr} (wo wi : Walk)
    (he : (node name evaluator [owner, index]).isA .element = true) :
    walkNode (node name evaluator [owner, index]) [wo, wi]
      = walkElement index.constant? wo wi := by
  simp only [walkNode, isA_accessor_of_isA_element he, he, Bool.false_eq_true, if_false,
    Expr.children]

/-- An access by a literal key is a step behind a separator. -/
theorem walkElement_literal (v : Value) :
    ∃ step : String, step.toList.head?.any isSeparator = true ∧ ∀ owner key,
      walkElement (some v) owner key = ⟨owner.path.map (· ++ step), owner.beneath ++ key.all⟩ := by
  have indexed : ∀ i : String, ∃ step : String, step.toList.head?.any isSeparator = true ∧
      ∀ path : Option String, path.map (· ++ "[" ++ i ++ "]") = path.map (· ++ step) :=
    fun i => ⟨"[" ++ (i ++ "]"), any_isSeparator_bracket _, fun path => by
      simp only [String.append_assoc]⟩
  cases v with
  | text s =>
    refine ⟨"." ++ s, any_isSeparator_dot s, ?_⟩
    intro owner key
    simp only [walkElement, String.append_assoc]
  | _ =>
    obtain ⟨step, hs, same⟩ := indexed _
    exact ⟨step, hs, fun owner key => by rw [walkElement, same]; nofun⟩

theorem walkNode_comprehension {x : String} (wc wi wb : Walk)
    (hc : (node name evaluator [collection, iterator, body]).isComprehension = true)
    (hi : iterator.iteratorName? = some x) :
    walkNode (node name evaluator [collection, iterator, body]) [wc, wi, wb]
      = ⟨none, wc.all ++ wb.all.filter fun r => !isLocalTo x r⟩ := by
  have hb : binding? (node name evaluator [collection, iterator, body]) = some x := by
    simpa only [binding?, Expr.children, hc, if_true] using hi
  have ha := isA_of_isComprehension hc (show Operator.accessor.isComprehension = false from rfl)
  have he := isA_of_isComprehension hc (show Operator.element.isComprehension = false from rfl)
  simp only [walkNode, ha, he, hb, Bool.false_eq_true, if_false]

theorem walkNode_other (walks : List Walk) (ha : e.isA .accessor = false)
    (he : e.isA .element = true → e.children.length ≠ 2) (hb : e.binding? = none) :
    walkNode e walks = ⟨none, walks.flatMap Walk.all⟩ := by
  unfold walkNode
  simp only [ha, Bool.false_eq_true, if_false, hb]
  split
  · rename_i helement hchildren
    exact absurd (by rw [hchildren]; rfl) (he helement)
  · rfl

end Node

/-- **Induction over a walk**, one case for every way to walk a node.  A name and the property of an
owner denote paths, an access by a literal index does, and every other node passes on what its
children read. -/
@[elab_as_elim]
theorem walk_induction {motive : Expr → Walk → Prop}
    (unnamed : ∀ name evaluator children, (node name evaluator children).isA .accessor = true →
      (node name evaluator children).propertyName? = none →
      motive (node name evaluator children) ⟨none, []⟩)
    (root : ∀ name evaluator literal p, (node name evaluator [literal]).isA .accessor = true →
      literal.literalText? = some p → motive (node name evaluator [literal]) ⟨some p, []⟩)
    (property : ∀ name evaluator literal owner rest p,
      (node name evaluator (literal :: owner :: rest)).isA .accessor = true →
      literal.literalText? = some p → motive owner owner.walk →
      motive (node name evaluator (literal :: owner :: rest))
        ⟨owner.walk.path.map (· ++ "." ++ p), owner.walk.beneath⟩)
    (element : ∀ name evaluator owner index,
      (node name evaluator [owner, index]).isA .element = true →
      motive owner owner.walk → motive index index.walk →
      motive (node name evaluator [owner, index])
        (walkElement index.constant? owner.walk index.walk))
    (comprehension : ∀ name evaluator collection iterator body x,
      (node name evaluator [collection, iterator, body]).isComprehension = true →
      iterator.iteratorName? = some x → motive collection collection.walk →
      motive body body.walk →
      motive (node name evaluator [collection, iterator, body])
        ⟨none, collection.walk.all ++ body.walk.all.filter fun r => !isLocalTo x r⟩)
    (other : ∀ name evaluator children, (node name evaluator children).isA .accessor = false →
      binding? (node name evaluator children) = none → (∀ c ∈ children, motive c c.walk) →
      motive (node name evaluator children) ⟨none, (children.map walk).flatMap Walk.all⟩)
    (e : Expr) : motive e e.walk := by
  induction e using Expr.induction with
  | node name evaluator children ih =>
  rw [walk_node]
  cases ha : (node name evaluator children).isA .accessor with
  | true =>
    cases hp : (node name evaluator children).propertyName? with
    | none =>
      rw [walkNode_unnamed ha hp]
      exact unnamed _ _ _ ha hp
    | some p =>
      match children with
      | [] => cases hp
      | [literal] =>
        simp only [List.map_cons, List.map_nil]
        rw [walkNode_root ha hp]
        exact root _ _ _ _ ha hp
      | literal :: owner :: rest =>
        simp only [List.map_cons]
        rw [walkNode_property ha hp]
        exact property _ _ _ _ _ _ ha hp (ih owner (by simp))
  | false =>
    cases hb : binding? (node name evaluator children) with
    | some x =>
      obtain ⟨collection, iterator, body, rfl, hc, hi⟩ := binding?_eq_some hb
      simp only [List.map_cons, List.map_nil]
      rw [walkNode_comprehension _ _ _ hc hi]
      exact comprehension _ _ _ _ _ _ hc hi (ih _ (by simp)) (ih _ (by simp))
    | none =>
      by_cases he : (node name evaluator children).isA .element = true ∧ children.length = 2
      · obtain ⟨owner, index, rfl⟩ := List.length_eq_two.mp he.2
        simp only [List.map_cons, List.map_nil]
        rw [walkNode_element _ _ he.1]
        exact element _ _ _ _ he.1 (ih _ (by simp)) (ih _ (by simp))
      · rw [not_and] at he
        rw [walkNode_other _ ha he hb]
        exact other _ _ _ ha hb ih

/-! ## Walks before and after resolution -/

/-- What goes by the name of the accessor reads a property, under a plain name if it has one. -/
structure PlainNode (n : Expr) : Prop where
  /-- What reads a property is no literal. -/
  reads : n.isA .accessor = true → n.constant? = none
  plain : n.isA .accessor = true → ∀ name, n.propertyName? = some name → PlainName name

/-- In a tree of built-in operators the first condition holds of itself. -/
theorem PlainNode.of_builtin {ambient : Ambient} {n : Expr} (h : n.evaluator.Builtin ambient)
    (plain : n.isA .accessor = true → ∀ name, n.propertyName? = some name → PlainName name) :
    PlainNode n := by
  refine ⟨?_, plain⟩
  intro ha
  rw [constant?, h.eq_accessor (beq_iff_eq.mp ha)]
  rfl

/-- Paths read inside comprehensions that bind the given names, and the same paths in resolved
form. -/
structure SameReports (bound : List String) (raw resolved : List String) : Prop where
  source : ∀ r ∈ raw, ¬ StartsAtScope r
  in_scope : bound ≠ [] → ∀ r ∈ resolved, StartsAtScope r
  /-- What is reported in the end are the paths that start at none of the bound names. -/
  reported : resolved.filterMap reported? = raw.filter (rootName · ∉ bound)

namespace SameReports

variable {bound raw raw' resolved resolved' : List String}

theorem nil : SameReports bound [] [] := ⟨nofun, nofun, rfl⟩

theorem singleton {r : String} (h : ¬ StartsAtScope r) :
    SameReports bound [r] [scopedPath bound r] := by
  refine ⟨by simpa using h, ?_, ?_⟩
  · intro hb
    simpa using startsAtScope_scopedPath hb r
  · by_cases hr : rootName r ∈ bound <;> simp [reported?_scopedPath h, hr]

theorem append (h : SameReports bound raw resolved) (h' : SameReports bound raw' resolved') :
    SameReports bound (raw ++ raw') (resolved ++ resolved') := by
  refine ⟨?_, ?_, ?_⟩
  · intro r hr
    exact (List.mem_append.mp hr).elim (h.source r) (h'.source r)
  · intro hb r hr
    exact (List.mem_append.mp hr).elim (h.in_scope hb r) (h'.in_scope hb r)
  · rw [List.filterMap_append, List.filter_append, h.reported, h'.reported]

/-- A comprehension leaves out by name what is local to its scope. -/
theorem leave {x : String} (hx : PlainName x) (h : SameReports (x :: bound) raw resolved) :
    SameReports bound (raw.filter fun r => !isLocalTo x r)
      (resolved.filter fun r => !isLocalTo x r) := by
  have hscoped := h.in_scope (List.cons_ne_nil x bound)
  -- in a resolved body all paths start at a scope, so that none is left out for its name
  have kept : (resolved.filter fun r => !isLocalTo x r) = resolved := by
    refine List.filter_eq_self.mpr ?_
    intro r hr
    rw [isLocalTo_of_startsAtScope hx (hscoped r hr), Bool.not_false]
  rw [kept]
  refine ⟨?_, fun _ => hscoped, ?_⟩
  · intro r hr
    exact h.source r (List.mem_filter.mp hr).1
  · rw [h.reported, List.filter_filter]
    refine List.filter_congr ?_
    intro r _
    by_cases hr : rootName r = x
    · simp [hr, (isLocalTo_iff hx.toPlainKey r).mpr hr]
    · simp [hr, isLocalTo_eq_false hx.toPlainKey hr]

end SameReports

/-- The walk of a node inside comprehensions that bind the given names, and that of its resolved
copy. -/
structure SameWalk (bound : List String) (raw resolved : Walk) : Prop where
  path : resolved.path = raw.path.map (scopedPath bound)
  source : ∀ r ∈ raw.path, ¬ StartsAtScope r
  beneath : SameReports bound raw.beneath resolved.beneath

namespace SameWalk

variable {bound : List String} {raw resolved : Walk}

theorem all (h : SameWalk bound raw resolved) : SameReports bound raw.all resolved.all := by
  refine h.beneath.append ?_
  rw [h.path]
  cases hp : raw.path with
  | none => exact .nil
  | some r => exact .singleton (h.source r hp)

theorem flatMap_all {raws resolveds : List Walk}
    (h : List.Forall₂ (SameWalk bound) raws resolveds) :
    SameReports bound (raws.flatMap Walk.all) (resolveds.flatMap Walk.all) := by
  induction h with
  | nil => exact .nil
  | cons h _ ih =>
    simp only [List.flatMap_cons]
    exact h.all.append ih

theorem pathless {below below' : List String} (h : SameReports bound below below') :
    SameWalk bound ⟨none, below⟩ ⟨none, below'⟩ :=
  ⟨rfl, nofun, h⟩

theorem root {p : String} (hp : PlainName p) :
    SameWalk bound ⟨some p, []⟩ ⟨some (scopedPath bound p), []⟩ := by
  refine ⟨rfl, ?_, .nil⟩
  intro r hr
  obtain rfl := Option.some.inj hr
  exact hp.not_scope

/-- A step further along a path. -/
theorem concat (h : SameWalk bound raw resolved) {step : String}
    (hs : step.toList.head?.any isSeparator = true)
    {below below' : List String} (hb : SameReports bound below below') :
    SameWalk bound ⟨raw.path.map (· ++ step), below⟩ ⟨resolved.path.map (· ++ step), below'⟩ := by
  refine ⟨?_, ?_, hb⟩
  · rw [h.path, Option.map_map, Option.map_map]
    refine Option.map_congr ?_
    intro r _
    exact (scopedPath_append bound r hs).symm
  · intro r hr
    obtain ⟨q, hq, rfl⟩ := Option.map_eq_some_iff.mp hr
    exact not_startsAtScope_append (h.source q hq) hs

theorem property (h : SameWalk bound raw resolved) (p : String) :
    SameWalk bound ⟨raw.path.map (· ++ "." ++ p), raw.beneath⟩
      ⟨resolved.path.map (· ++ "." ++ p), resolved.beneath⟩ := by
  simp only [String.append_assoc]
  exact h.concat (any_isSeparator_dot p) h.beneath

theorem element (index : Option Value) {key key' : Walk} (ho : SameWalk bound raw resolved)
    (hk : SameWalk bound key key') :
    SameWalk bound (walkElement index raw key) (walkElement index resolved key') := by
  cases index with
  | none => exact .pathless (ho.all.append hk.all)
  | some v =>
    obtain ⟨step, hs, walks⟩ := walkElement_literal v
    rw [walks, walks]
    exact ho.concat hs (ho.beneath.append hk.all)

end SameWalk

/-! ### Resolved names -/

/-- A path that takes so many steps to the enclosing state first. -/
def globalPath : Nat → String → String
  | 0, r => r
  | n + 1, r => globalName ++ "." ++ globalPath n r

theorem globalPath_append (n : Nat) (r s : String) :
    globalPath n (r ++ s) = globalPath n r ++ s := by
  induction n with
  | zero => rfl
  | succ n ih => simp only [globalPath, ih, String.append_assoc]

/-- A step more is the same at either end. -/
theorem globalPath_succ (n : Nat) (r : String) :
    globalPath n (globalName ++ "." ++ r) = globalPath (n + 1) r := by
  induction n with
  | zero => rfl
  | succ n ih =>
    rw [globalPath, ih]
    rfl

theorem walk_accessor (name : String) (owner : Option Expr) :
    (accessor name owner).walk = match owner with
      | none => ⟨some name, []⟩
      | some o => ⟨o.walk.path.map (· ++ "." ++ name), o.walk.beneath⟩ := by
  cases owner <;> rfl

theorem walk_globalSteps (n : Nat) (name : String) :
    (accessor name (globalSteps n)).walk = ⟨some (globalPath n name), []⟩ := by
  induction n generalizing name with
  | zero => rfl
  | succ n ih =>
    rw [globalSteps, walk_accessor]
    simp only [ih, Option.map_some]
    rw [← globalPath_append, ← globalPath_append, globalPath_succ]

theorem scopedPath_eq (bound : List String) (r : String) :
    scopedPath bound r = match bound.findIdx? (· == rootName r) with
      | some n => globalPath n (localName ++ "." ++ r)
      | none => globalPath bound.length r := by
  induction bound with
  | nil => rfl
  | cons x bound ih =>
    by_cases hx : x = rootName r
    · simp [scopedPath, List.findIdx?_cons, hx, globalPath]
    · rw [scopedPath, if_neg hx, ih, List.findIdx?_cons, if_neg (by simpa using hx)]
      cases bound.findIdx? (· == rootName r) <;> rfl

/-- A name is reached inside comprehensions as its text says. -/
theorem walk_resolveName (bound : List String) {name : String} (h : PlainName name) :
    (resolveName bound name).walk = ⟨some (scopedPath bound name), []⟩ := by
  rw [scopedPath_eq, h.rootName_eq, resolveName]
  cases bound.findIdx? (· == name) with
  | none => exact walk_globalSteps _ _
  | some n =>
    dsimp only
    rw [walk_accessor]
    simp only [walk_globalSteps, Option.map_some]
    rw [← globalPath_append, ← globalPath_append]

/-! ### What a node is recognised by -/

theorem constant?_resolveIn {e : Expr} (h : PlainNode e) (bound : List String) :
    (resolveIn bound e).constant? = e.constant? := by
  induction bound, e using resolveIn_induction with
  | scope => rfl
  | root bound name evaluator literal p hb ha hp hg hl =>
    rw [h.reads ha, constant?, evaluator_resolveName]
    rfl
  | property => rfl
  | comprehension => rfl
  | other => rfl

theorem plainName_of_iteratorName? {e : Expr} {x : String} (h : PlainNode e)
    (hi : e.iteratorName? = some x) : PlainName x := by
  have ha := (isA_of_iteratorName? (Option.isSome_iff_exists.mpr ⟨x, hi⟩)).1
  refine h.plain ha x ?_
  unfold iteratorName? at hi
  rw [if_pos ha] at hi
  split at hi
  · exact hi
  · split at hi
    · exact hi
    · cases hi
  · cases hi

/-! ### The walk of a resolved tree -/

/-- A node keeps its walk, but for the names that its children read. -/
theorem walkNode_resolveIn {bound : List String} {name : String} {evaluator : Evaluator}
    {children : List Expr} (h : (node name evaluator children).Everywhere PlainNode)
    (hb : binding? (node name evaluator children) = none)
    (hfree : (node name evaluator children).isA .accessor = true →
      (node name evaluator children).propertyName?.isSome = true →
        bound = [] ∨ 2 < children.length)
    (hwalks : List.Forall₂ (SameWalk bound) (children.map walk)
      ((children.map (resolveIn bound)).map walk)) :
    SameWalk bound (walkNode (node name evaluator children) (children.map walk))
      (walkNode (node name evaluator (children.map (resolveIn bound)))
        ((children.map (resolveIn bound)).map walk)) := by
  obtain ⟨here, beneath⟩ := Everywhere.node_iff.mp h
  have hname : (node name evaluator (children.map (resolveIn bound))).propertyName?
      = (node name evaluator children).propertyName? := by
    cases children with
    | nil => rfl
    | cons literal rest =>
      change (resolveIn bound literal).literalText? = literal.literalText?
      rw [literalText?, literalText?, constant?_resolveIn (beneath literal (by simp)).here]
  cases ha : (node name evaluator children).isA .accessor with
  | true =>
    have ha' : (node name evaluator (children.map (resolveIn bound))).isA .accessor = true := ha
    cases hp : (node name evaluator children).propertyName? with
    | none =>
      rw [walkNode_unnamed ha hp, walkNode_unnamed ha' (hname.trans hp)]
      exact .pathless .nil
    | some p =>
      rcases children with _ | ⟨literal, _ | ⟨owner, rest⟩⟩
      · cases hp
      · -- a name alone is kept only outside all comprehensions
        obtain rfl : bound = [] := (hfree ha (by rw [hp]; rfl)).resolve_right (by simp)
        simp only [List.map_cons, List.map_nil] at ha' hname ⊢
        rw [walkNode_root ha hp, walkNode_root ha' (hname.trans hp)]
        exact .root (here.plain ha p hp)
      · simp only [List.map_cons, List.forall₂_cons] at ha' hname hwalks ⊢
        rw [walkNode_property ha hp, walkNode_property ha' (hname.trans hp)]
        exact hwalks.2.1.property p
  | false =>
    have ha' : (node name evaluator (children.map (resolveIn bound))).isA .accessor = false := ha
    have hb' := binding?_map_resolveIn bound hb
    by_cases he : (node name evaluator children).isA .element = true ∧ children.length = 2
    · obtain ⟨owner, index, rfl⟩ := List.length_eq_two.mp he.2
      have he' : (node name evaluator
        ([owner, index].map (resolveIn bound))).isA .element = true := he.1
      simp only [List.map_cons, List.map_nil, List.forall₂_cons] at he' hwalks ⊢
      rw [walkNode_element _ _ he.1, walkNode_element _ _ he',
        constant?_resolveIn (beneath index (by simp)).here]
      exact hwalks.1.element _ hwalks.2.1
    · rw [not_and] at he
      have he' : (node name evaluator (children.map (resolveIn bound))).isA .element = true →
          (children.map (resolveIn bound)).length ≠ 2 := by
        rw [List.length_map]
        exact he
      rw [walkNode_other _ ha he hb, walkNode_other _ ha' he' hb']
      exact .pathless (SameWalk.flatMap_all hwalks)

/-- **Resolution moves every path that is read into the scopes around it.** -/
theorem walk_resolveIn {e : Expr} (h : e.Everywhere PlainNode) (bound : List String) :
    SameWalk bound e.walk (resolveIn bound e).walk := by
  induction bound, e using resolveIn_induction with
  | scope bound name evaluator literal p hb ha hp hn =>
    have plain := h.here.plain ha p hp
    rcases hn with rfl | rfl
    · exact absurd rfl plain.not_scope
    · exact absurd rfl plain.not_scope
  | root bound name evaluator literal p hb ha hp hg hl =>
    have plain := h.here.plain ha p hp
    rw [walk_node, walk_resolveName bound plain, List.map_cons, List.map_nil, walkNode_root ha hp]
    exact .root plain
  | property bound name evaluator literal p owner hb ha hp ih =>
    have named : ∀ o, (node name evaluator [literal, o]).propertyName? = some p := fun _ => hp
    have reads : ∀ o, (node name evaluator [literal, o]).isA .accessor = true := fun _ => ha
    rw [walk_node, walk_node]
    simp only [List.map_cons, List.map_nil]
    rw [walkNode_property (reads owner) (named owner), walkNode_property (reads _) (named _)]
    exact (ih (h.child (by simp))).property p
  | comprehension bound name evaluator collection iterator body x hc hi ihc ihb =>
    have hx := plainName_of_iteratorName? (h.child (c := iterator) (by simp)).here hi
    have hi' : (boundName x).iteratorName? = some x := rfl
    have hc' : (node name evaluator [resolveIn bound collection, boundName x,
      resolveIn (x :: bound) body]).isComprehension = true := hc
    rw [walk_node, walk_node]
    simp only [List.map_cons, List.map_nil]
    rw [walkNode_comprehension _ _ _ hc hi, walkNode_comprehension _ _ _ hc' hi']
    exact .pathless ((ihc (h.child (by simp))).all.append ((ihb (h.child (by simp))).all.leave hx))
  | other bound name evaluator children hb ha ih =>
    rw [walk_node, walk_node]
    refine walkNode_resolveIn h hb ha ?_
    rw [List.map_map, List.forall₂_map_left_iff, List.forall₂_map_right_iff]
    exact List.forall₂_same.mpr fun c hc => ih c hc (h.child hc)

/-- A tree with plain names reports its paths as they are. -/
theorem filterMap_reported?_walk {e : Expr} (h : e.Everywhere PlainNode) :
    e.walk.all.filterMap reported? = e.walk.all := by
  have source := (walk_resolveIn h []).all.source
  rw [List.filterMap_congr fun r hr => reported?_of_not_startsAtScope (source r hr)]
  exact List.filterMap_some

/-- **The paths that a tree reads are those of its resolved copy**, when accessors read plain names
and no node that goes by the name of the accessor holds a literal.  In a tree of built-in operators
no node does, `PlainNode.of_builtin`. -/
theorem references_resolve {e : Expr} (h : e.Everywhere PlainNode) :
    e.references = e.resolve.references := by
  have reported := (walk_resolveIn h []).all.reported
  rw [references_eq, references_eq, resolve, reported, filterMap_reported?_walk h]
  simp

/-- The parts of all items, with both comprehensions over one name. -/
theorem references_of_shadowed_name :
    let ambient : Ambient := .still
    let foreach : Expr → String → Expr → Expr := fun collection x body =>
      withEvaluator (Operator.foreach.evaluator ambient) [collection, accessor x none, body]
    let e := foreach (accessor "items" none) "x"
      (foreach (accessor "parts" (some (accessor "x" none))) "x"
        (withEvaluator (Operator.concat.evaluator ambient)
          [accessor "id" (some (accessor "x" none)), accessor "label" none]))
    e.resolve.references = ["items", "label"] ∧ e.references = e.resolve.references := by
  intro ambient foreach e
  have haccessor : ∀ s (owner : Option Expr), PlainName s →
      (∀ o ∈ owner, Everywhere PlainNode o) → (accessor s owner).Everywhere PlainNode := by
    intro s owner hs ho
    refine .of_accessor ⟨fun _ => rfl, ?_⟩ ⟨nofun, nofun⟩ ho
    rintro - name hn
    obtain rfl : s = name := Option.some.inj hn
    exact hs
  have hroot : ∀ s, PlainName s → (accessor s none).Everywhere PlainNode :=
    fun s hs => haccessor s none hs nofun
  have hproperty : ∀ s, PlainName s →
      (accessor s (some (accessor "x" none))).Everywhere PlainNode := by
    intro s hs
    refine haccessor s _ hs ?_
    intro o ho
    obtain rfl := Option.some.inj ho
    exact hroot "x" (by decide)
  have plain : e.Everywhere PlainNode := by
    refine .node ⟨nofun, nofun⟩ ?_
    simp only [List.mem_cons, List.not_mem_nil, or_false, forall_eq_or_imp, forall_eq]
    refine ⟨hroot _ (by decide), hroot _ (by decide), .node ⟨nofun, nofun⟩ ?_⟩
    simp only [List.mem_cons, List.not_mem_nil, or_false, forall_eq_or_imp, forall_eq]
    refine ⟨hproperty _ (by decide), hroot _ (by decide), .node ⟨nofun, nofun⟩ ?_⟩
    simp only [List.mem_cons, List.not_mem_nil, or_false, forall_eq_or_imp, forall_eq]
    exact ⟨hproperty _ (by decide), hroot _ (by decide)⟩
  have read : e.resolve.walk.all.filterMap reported? = ["items", "label"] := by decide +kernel
  refine ⟨?_, references_resolve plain⟩
  rw [references_eq, read, distinctInOrder, List.mergeSort_of_pairwise (by decide +kernel)]
  rfl

end StateExpr.Expr
