import StateExpr.Proofs.References
/-!
# Paths that are left out

A tree reports the paths that it reads but for those into local scopes.  Two tests take paths out:
each comprehension leaves out what starts at the name it binds, and in the end what starts with the
word `$local` behind the steps to enclosing states is left out.  Neither looks at names alone.  The
second one also takes `$locale` for a local scope, and the first one all that is read of the
enclosing state when the bound name is `$global`.  In a resolved tree nothing else is left out but
the enclosing states themselves.

Main statements: `Expr.mem_references_iff_readings`, `Expr.inScopes_resolveIn`,
`Expr.reported?_of_atScope` and `Expr.paths_left_out`.
-/

namespace StateExpr.Expr

/-! ## All paths that are read -/

/-- A path that is read, and the names that the comprehensions around it bind, the innermost
first. -/
structure Reading where
  bound : List String
  path : String
deriving DecidableEq

namespace Reading

/-- The same path in the body of a comprehension. -/
def within (x : String) (rd : Reading) : Reading := ⟨rd.bound ++ [x], rd.path⟩

/-- No comprehension around the path takes it for local to its name. -/
def kept (rd : Reading) : Bool := rd.bound.all fun x => !isLocalTo x rd.path

/-- What is reported of the path. -/
def reported? (rd : Reading) : Option String := if rd.kept then Expr.reported? rd.path else none

theorem kept_within (x : String) (rd : Reading) :
    (rd.within x).kept = (rd.kept && !isLocalTo x rd.path) := by
  simp [kept, within]

end Reading

/-- The paths that no comprehension leaves out. -/
def keptPaths (rds : List Reading) : List String := (rds.filter Reading.kept).map Reading.path

@[simp] theorem keptPaths_append (rds rds' : List Reading) :
    keptPaths (rds ++ rds') = keptPaths rds ++ keptPaths rds' := by
  simp only [keptPaths, List.filter_append, List.map_append]

@[simp] theorem keptPaths_within (x : String) (rds : List Reading) :
    keptPaths (rds.map (Reading.within x)) = (keptPaths rds).filter fun r => !isLocalTo x r := by
  unfold keptPaths
  induction rds with
  | nil => rfl
  | cons rd rds ih =>
    rw [List.map_cons, List.filter_cons, List.filter_cons, Reading.kept_within]
    cases rd.kept <;> cases hx : isLocalTo x rd.path <;> simp [ih, hx, Reading.within]

/-- The path that a node denotes, if it is one, and all that is read beneath it. -/
structure Readings where
  path : Option String
  beneath : List Reading

namespace Readings

variable (w : Readings)

/-- All readings of a node that goes no further. -/
def all : List Reading := w.beneath ++ (w.path.map (Reading.mk [])).toList

/-- What is left when each comprehension has left out what it takes for local. -/
def walk : Walk := ⟨w.path, keptPaths w.beneath⟩

@[simp] theorem walk_path : w.walk.path = w.path := rfl

@[simp] theorem walk_beneath : w.walk.beneath = keptPaths w.beneath := rfl

@[simp] theorem walk_all : w.walk.all = keptPaths w.all := by
  rw [Walk.all, all, keptPaths_append, walk_beneath, walk_path]
  cases w.path <;> rfl

end Readings

/-- The readings of an index access, from those of its two children. -/
def readElement (index : Option Value) (owner key : Readings) : Readings :=
  match index with
  | some (.text s) => ⟨owner.path.map (· ++ "." ++ s), owner.beneath ++ key.all⟩
  | some v => ⟨owner.path.map (· ++ "[" ++ v.display ++ "]"), owner.beneath ++ key.all⟩
  | none => ⟨none, owner.all ++ key.all⟩

/-- The readings of a node, from those of its children. -/
def readNode (e : Expr) (parts : List Readings) : Readings :=
  if e.isA .accessor then
    match e.propertyName?, parts with
    | none, _ => ⟨none, []⟩
    | some property, _ :: owner :: _ => ⟨owner.path.map (· ++ "." ++ property), owner.beneath⟩
    | some property, _ => ⟨some property, []⟩
  else
    match e.isA .element, e.children, parts with
    | true, [_, index], [owner, key] => readElement index.constant? owner key
    | _, _, _ =>
      match binding? e, parts with
      | some x, [collection, _, body] =>
        ⟨none, collection.all ++ body.all.map (Reading.within x)⟩
      | _, _ => ⟨none, parts.flatMap Readings.all⟩

mutual

/-- All that a tree reads, with nothing left out. -/
def readings : Expr → Readings
  | node name evaluator children =>
    readNode (node name evaluator children) (readingsAll children)

def readingsAll : List Expr → List Readings
  | [] => []
  | e :: rest => readings e :: readingsAll rest

end

theorem readingsAll_eq_map (es : List Expr) : readingsAll es = es.map readings := by
  induction es with
  | nil => rfl
  | cons e rest ih => simp only [readingsAll, List.map_cons, ih]

theorem readings_node (name : String) (evaluator : Evaluator) (children : List Expr) :
    (node name evaluator children).readings
      = readNode (node name evaluator children) (children.map readings) := by
  simp only [readings, readingsAll_eq_map]

theorem walkElement_walk (index : Option Value) (owner key : Readings) :
    walkElement index owner.walk key.walk = (readElement index owner key).walk := by
  have hliteral : owner.walk.beneath ++ key.walk.all = keptPaths (owner.beneath ++ key.all) := by
    simp
  have hcomputed : owner.walk.all ++ key.walk.all = keptPaths (owner.all ++ key.all) := by simp
  rcases index with _ | v
  · exact congrArg (Walk.mk none) hcomputed
  · cases v <;> exact congrArg (Walk.mk _) hliteral

/-- A node reports what its readings keep. -/
theorem walkNode_walk (e : Expr) (parts : List Readings) :
    walkNode e (parts.map Readings.walk) = (readNode e parts).walk := by
  have hflat : (parts.map Readings.walk).flatMap Walk.all
      = keptPaths (parts.flatMap Readings.all) := by
    induction parts with
    | nil => rfl
    | cons w parts ih => simp [ih]
  have hbody : ∀ x (collection body : Readings),
      collection.walk.all ++ body.walk.all.filter (fun r => !isLocalTo x r)
        = keptPaths (collection.all ++ body.all.map (Reading.within x)) := by simp
  unfold walkNode readNode
  cases e.isA .accessor with
  | true => cases e.propertyName? <;> rcases parts with _ | ⟨_, _ | ⟨_, _⟩⟩ <;> rfl
  | false =>
    -- both sides look at the same things, and are the same branch of their definitions in each case
    generalize e.isA .element = isElement, e.children = children, binding? e = bound
    rcases parts with _ | ⟨_, _ | ⟨_, _ | ⟨_, _ | ⟨_, _⟩⟩⟩⟩ <;> cases isElement <;>
      rcases children with _ | ⟨_, _ | ⟨_, _ | ⟨_, _⟩⟩⟩ <;> cases bound <;>
        first
          | exact congrArg (Walk.mk none) hflat
          | exact congrArg (Walk.mk none) (hbody _ _ _)
          | exact walkElement_walk _ _ _

theorem walk_readings (e : Expr) : e.walk = e.readings.walk := by
  induction e using Expr.induction with
  | node name evaluator children ih =>
  rw [walk_node, readings_node, ← walkNode_walk, List.map_map]
  exact congrArg _ (List.map_congr_left ih)

/-- **What is reported of a tree is what is reported of its readings.** -/
theorem mem_references_iff_readings {e : Expr} {r : String} :
    r ∈ e.references ↔ ∃ rd ∈ e.readings.all, rd.reported? = some r := by
  rw [mem_references_iff, walk_readings, Readings.walk_all]
  simp [keptPaths, Reading.reported?, and_assoc]

/-! ## What a path starts at -/

/-- A path that begins with a step to the enclosing state. -/
def StepsOut (r : String) : Prop := (globalName ++ ".").toList <+: r.toList

/-- The first name of a path begins with the name of a local scope, whether or not it ends there. -/
def LooksLocal (r : String) : Prop := localName.toList <+: (rootName r).toList

/-- A path that starts at an enclosing state or at a local scope. -/
def AtScope (r : String) : Prop := rootName r = globalName ∨ rootName r = localName

instance (r : String) : Decidable (StepsOut r) := inferInstanceAs (Decidable (_ <+: _))

instance (r : String) : Decidable (LooksLocal r) := inferInstanceAs (Decidable (_ <+: _))

theorem rootName_global : rootName globalName = globalName :=
  PlainKey.rootName_eq (by decide)

theorem rootName_local : rootName localName = localName :=
  PlainKey.rootName_eq (by decide)

theorem exists_eq_append_of_prefix {s r : String} (h : s.toList <+: r.toList) :
    ∃ rest, r = s ++ rest := by
  obtain ⟨rest, hrest⟩ := h
  refine ⟨String.ofList rest, ?_⟩
  rw [← String.toList_inj, String.toList_append, String.toList_ofList, hrest]

theorem StepsOut.rootName_eq {r : String} (h : StepsOut r) : rootName r = globalName := by
  obtain ⟨rest, rfl⟩ := exists_eq_append_of_prefix h
  rw [String.append_assoc, rootName_append _ (any_isSeparator_dot rest), rootName_global]

/-- The word `$local` has no separator in it, so a path begins with it when its first name does. -/
theorem looksLocal_iff {r : String} : LooksLocal r ↔ localName.toList <+: r.toList := by
  have hplain : PlainKey localName := by decide
  rw [LooksLocal, rootName, String.toList_ofList]
  constructor
  · exact fun h => h.trans (List.takeWhile_prefix _)
  · rintro ⟨rest, hrest⟩
    rw [← hrest, List.takeWhile_append_of_pos hplain.not_separator]
    exact List.prefix_append _ _

theorem looksLocal_of_rootName {r : String} (h : rootName r = localName) : LooksLocal r :=
  ⟨[], by rw [List.append_nil, h]⟩

/-- A name that takes a path for local begins with the first name of the path. -/
theorem rootName_eq_of_isLocalTo {x r : String} (h : isLocalTo x r = true) :
    rootName r = rootName x := by
  obtain ⟨rest, hrest, hnext⟩ := (isLocalTo_iff_exists x r).mp h
  obtain rfl : r = x ++ String.ofList rest := by
    rw [← String.toList_inj, String.toList_append, String.toList_ofList, hrest]
  cases rest with
  | nil => rw [String.ofList_nil, String.append_empty]
  | cons c cs => exact rootName_append x (by rw [String.toList_ofList]; exact hnext)

theorem atScope_append {r step : String} (h : AtScope r)
    (hs : step.toList.head?.any isSeparator = true) : AtScope (r ++ step) := by
  rwa [AtScope, rootName_append r hs]

theorem rootName_globalPath (n : ℕ) (r : String) :
    rootName (globalPath (n + 1) r) = globalName := by
  rw [globalPath, String.append_assoc, rootName_append _ (any_isSeparator_dot _), rootName_global]

theorem atScope_globalPath {n : ℕ} {r : String} (h : n ≠ 0 ∨ AtScope r) :
    AtScope (globalPath n r) := by
  cases n with
  | zero => exact h.resolve_left (absurd rfl)
  | succ n => exact .inl (rootName_globalPath n r)

/-! ## What is reported of a path -/

theorem reported?_globalPath (n : ℕ) (r : String) : reported? (globalPath n r) = reported? r := by
  induction n with
  | zero => rfl
  | succ n ih => rw [globalPath, reported?_global, ih]

/-- Every path is one that steps out no more, behind so many steps to enclosing states. -/
theorem exists_globalPath (r : String) : ∃ n p, r = globalPath n p ∧ ¬ StepsOut p := by
  induction hlength : r.length using Nat.strong_induction_on generalizing r with
  | _ length ih =>
    by_cases h : StepsOut r
    · obtain ⟨rest, rfl⟩ := exists_eq_append_of_prefix h
      have hshorter : rest.length < length := by
        rw [← hlength, String.length_append]
        exact Nat.lt_add_of_pos_left (by decide)
      obtain ⟨n, p, rfl, hstop⟩ := ih rest.length hshorter rest rfl
      exact ⟨n + 1, p, rfl, hstop⟩
    · exact ⟨0, r, rfl, h⟩

/-- **Nothing is reported of an enclosing state itself and of what looks local.** -/
theorem reported?_of_not_stepsOut {p : String} (h : ¬ StepsOut p) :
    reported? p = if p = globalName ∨ LooksLocal p then none else some p := by
  have hstate : statePath? p.toList =
      if p = globalName ∨ LooksLocal p then none else some p.toList := by
    simp only [looksLocal_iff]
    unfold statePath?
    split
    · rename_i rest hsteps
      exact absurd ⟨rest, hsteps.symm⟩ h
    · rename_i hglobal
      have hp : p = globalName := String.toList_inj.mp hglobal
      rw [if_pos (.inl hp)]
    · rename_i hnone
      have hp : p ≠ globalName := fun hp => hnone (hp ▸ rfl)
      simp only [hp, false_or, List.isPrefixOf_iff_prefix]
  rw [reported?, hstate]
  split <;> simp

/-! ## Readings of a resolved tree -/

section Node

variable {e : Expr} {w : Readings} {rd : Reading}

theorem mem_all_iff : rd ∈ w.all ↔ rd ∈ w.beneath ∨ ∃ r, w.path = some r ∧ rd = ⟨[], r⟩ := by
  unfold Readings.all
  cases w.path <;> simp

theorem readNode_root {p : String} (ha : e.isA .accessor = true) (hp : e.propertyName? = some p)
    (literal : Readings) : readNode e [literal] = ⟨some p, []⟩ := by
  simp only [readNode, ha, hp, if_true]

theorem readNode_property {p : String} (ha : e.isA .accessor = true)
    (hp : e.propertyName? = some p) (literal owner : Readings) (rest : List Readings) :
    readNode e (literal :: owner :: rest)
      = ⟨owner.path.map (· ++ "." ++ p), owner.beneath⟩ := by
  simp only [readNode, ha, hp, if_true]

theorem readNode_comprehension {x : String} (hc : e.isComprehension = true)
    (hb : e.binding? = some x) (collection iterator body : Readings) :
    readNode e [collection, iterator, body]
      = ⟨none, collection.all ++ body.all.map (Reading.within x)⟩ := by
  have ha := isA_of_isComprehension hc (show Operator.accessor.isComprehension = false from rfl)
  have he := isA_of_isComprehension hc (show Operator.element.isComprehension = false from rfl)
  simp only [readNode, ha, he, hb, Bool.false_eq_true, if_false]

theorem readings_accessor (name : String) (owner : Option Expr) :
    (accessor name owner).readings = match owner with
      | none => ⟨some name, []⟩
      | some o => ⟨o.readings.path.map (· ++ "." ++ name), o.readings.beneath⟩ := by
  cases owner <;> rfl

/-- Where a reading of a node comes from that binds no name: it is the name of the node, or it is a
reading of a part of it, or the path of a part and one step more. -/
inductive Origin (e : Expr) (parts : List Readings) : Reading → Prop where
  | name {p : String} (ha : e.isA .accessor = true) (hp : e.propertyName? = some p)
      (hparts : parts.length < 2) : Origin e parts ⟨[], p⟩
  | part {w : Readings} {rd : Reading} (hw : w ∈ parts) (hrd : rd ∈ w.all) : Origin e parts rd
  | step {w : Readings} {r step : String} (hw : w ∈ parts) (hr : w.path = some r)
      (hs : step.toList.head?.any isSeparator = true) : Origin e parts ⟨[], r ++ step⟩

theorem Origin.of_step {parts : List Readings} (hw : w ∈ parts) {step : String}
    (hs : step.toList.head?.any isSeparator = true) {below : List Reading}
    (hbelow : ∀ rd ∈ below, ∃ v ∈ parts, rd ∈ v.all)
    (h : rd ∈ (Readings.mk (w.path.map (· ++ step)) below).all) : Origin e parts rd := by
  rcases mem_all_iff.mp h with h | ⟨r, hr, rfl⟩
  · obtain ⟨v, hv, hrd⟩ := hbelow rd h
    exact .part hv hrd
  · obtain ⟨q, hq, rfl⟩ := Option.map_eq_some_iff.mp hr
    exact .step hw hq hs

theorem readElement_literal (v : Value) :
    ∃ step : String, step.toList.head?.any isSeparator = true ∧ ∀ owner key,
      readElement (some v) owner key = ⟨owner.path.map (· ++ step), owner.beneath ++ key.all⟩ := by
  obtain ⟨step, hs, hwalk⟩ := walkElement_literal v
  refine ⟨step, hs, fun owner key => ?_⟩
  have hpath : (readElement (some v) owner key).path = owner.path.map (· ++ step) := by
    rw [← Readings.walk_path, ← walkElement_walk, hwalk, Readings.walk_path]
  have hbeneath : (readElement (some v) owner key).beneath = owner.beneath ++ key.all := by
    cases v <;> rfl
  rw [← hpath, ← hbeneath]

theorem origin_of_mem_readElement {index : Option Value} {owner key : Readings}
    (h : rd ∈ (readElement index owner key).all) : Origin e [owner, key] rd := by
  have howner : owner ∈ [owner, key] := by simp
  have hkey : key ∈ [owner, key] := by simp
  cases index with
  | none =>
    rcases mem_all_iff.mp h with h | ⟨r, hr, -⟩
    · rcases List.mem_append.mp h with h | h
      · exact .part howner h
      · exact .part hkey h
    · cases hr
  | some v =>
    obtain ⟨step, hs, hread⟩ := readElement_literal v
    rw [hread] at h
    refine .of_step howner hs (fun rd hrd => ?_) h
    rcases List.mem_append.mp hrd with hrd | hrd
    · exact ⟨owner, howner, mem_all_iff.mpr (.inl hrd)⟩
    · exact ⟨key, hkey, hrd⟩

theorem origin_of_mem {parts : List Readings} (hb : e.binding? = none)
    (h : rd ∈ (readNode e parts).all) : Origin e parts rd := by
  cases ha : e.isA .accessor with
  | true =>
    cases hp : e.propertyName? with
    | none =>
      simp only [readNode, ha, hp, if_true] at h
      cases h
    | some p =>
      rcases parts with _ | ⟨literal, _ | ⟨owner, rest⟩⟩
      · simp only [readNode, ha, hp, if_true] at h
        obtain rfl := List.mem_singleton.mp h
        exact .name ha hp (by simp)
      · rw [readNode_root ha hp] at h
        obtain rfl := List.mem_singleton.mp h
        exact .name ha hp (by simp)
      · rw [readNode_property ha hp] at h
        simp only [String.append_assoc] at h
        have howner : owner ∈ literal :: owner :: rest := by simp
        refine .of_step howner (any_isSeparator_dot p) (fun rd hrd => ?_) h
        exact ⟨owner, howner, mem_all_iff.mpr (.inl hrd)⟩
  | false =>
    simp only [readNode, ha, hb, Bool.false_eq_true, if_false] at h
    split at h
    · exact origin_of_mem_readElement h
    · rcases mem_all_iff.mp h with h | ⟨r, hr, -⟩
      · obtain ⟨w, hw, hrd⟩ := List.mem_flatMap.mp h
        exact .part hw hrd
      · cases hr

end Node

theorem readings_globalSteps (n : ℕ) (name : String) :
    (accessor name (globalSteps n)).readings = ⟨some (globalPath n name), []⟩ := by
  induction n generalizing name with
  | zero => rfl
  | succ n ih =>
    rw [globalSteps, readings_accessor]
    simp only [ih, Option.map_some]
    rw [← globalPath_append, ← globalPath_append, globalPath_succ]

/-- A name inside comprehensions is read from one of the scopes around it. -/
theorem exists_readings_resolveName {bound : List String} (hb : bound ≠ []) (name : String) :
    ∃ r, (resolveName bound name).readings = ⟨some r, []⟩ ∧ AtScope r := by
  unfold resolveName
  cases bound.findIdx? (· == name) with
  | none =>
    exact ⟨_, readings_globalSteps _ _, atScope_globalPath (.inl (by simpa using hb))⟩
  | some n =>
    refine ⟨globalPath n localName ++ "." ++ name, ?_, ?_⟩
    · dsimp only
      rw [readings_accessor]
      simp only [readings_globalSteps, Option.map_some]
    · rw [String.append_assoc]
      exact atScope_append (atScope_globalPath (.inr (.inr rootName_local))) (any_isSeparator_dot _)

/-- What is read inside comprehensions starts at a scope: all readings do when the tree itself is in
a comprehension, and otherwise those in the bodies of its own. -/
def Readings.InScopes (bound : List String) (w : Readings) : Prop :=
  ∀ rd ∈ w.all, bound ≠ [] ∨ rd.bound ≠ [] → AtScope rd.path

namespace Readings.InScopes

variable {bound : List String} {w : Readings}

theorem of_path {r : String} (h : AtScope r) : InScopes bound ⟨some r, []⟩ := by
  intro rd hrd _
  obtain rfl := List.mem_singleton.mp hrd
  exact h

theorem step {step : String} (h : InScopes bound w)
    (hs : step.toList.head?.any isSeparator = true) :
    InScopes bound ⟨w.path.map (· ++ step), w.beneath⟩ := by
  intro rd hrd hb
  rcases mem_all_iff.mp hrd with hrd | ⟨r, hr, rfl⟩
  · exact h rd (mem_all_iff.mpr (.inl hrd)) hb
  · obtain ⟨q, hq, rfl⟩ := Option.map_eq_some_iff.mp hr
    exact atScope_append (h ⟨[], q⟩ (mem_all_iff.mpr (.inr ⟨q, hq, rfl⟩)) hb) hs

/-- Everything in the body of a comprehension is inside one. -/
theorem body {x : String} {collection body : Readings} (hc : InScopes bound collection)
    (hb : InScopes (x :: bound) body) :
    InScopes bound ⟨none, collection.all ++ body.all.map (Reading.within x)⟩ := by
  intro rd hrd hinside
  rcases mem_all_iff.mp hrd with hrd | ⟨r, hr, -⟩
  · rcases List.mem_append.mp hrd with hrd | hrd
    · exact hc rd hrd hinside
    · obtain ⟨inner, hinner, rfl⟩ := List.mem_map.mp hrd
      exact hb inner hinner (.inl (List.cons_ne_nil x bound))
  · cases hr

end Readings.InScopes

/-- **Resolved trees read from the scopes around each place.** -/
theorem inScopes_resolveIn (bound : List String) (e : Expr) :
    (resolveIn bound e).readings.InScopes bound := by
  induction bound, e using resolveIn_induction with
  | scope bound name evaluator literal p hb ha hp hn =>
    rw [readings_node, List.map_cons, List.map_nil, readNode_root ha hp]
    rcases hn with rfl | rfl
    · exact .of_path (.inl rootName_global)
    · exact .of_path (.inr rootName_local)
  | root bound name evaluator literal p hb ha hp hg hl =>
    obtain ⟨r, hr, hscope⟩ := exists_readings_resolveName hb p
    rw [hr]
    exact .of_path hscope
  | property bound name evaluator literal p owner hb ha hp ih =>
    have named : (node name evaluator [literal, resolveIn bound owner]).propertyName? = some p := hp
    have reads : (node name evaluator [literal, resolveIn bound owner]).isA .accessor = true := ha
    rw [readings_node, List.map_cons, List.map_cons, List.map_nil, readNode_property reads named]
    simp only [String.append_assoc]
    exact ih.step (any_isSeparator_dot p)
  | comprehension bound name evaluator collection iterator body x hc hi ihc ihb =>
    have hc' : (node name evaluator [resolveIn bound collection, boundName x,
      resolveIn (x :: bound) body]).isComprehension = true := hc
    have hx : binding? (node name evaluator [resolveIn bound collection, boundName x,
        resolveIn (x :: bound) body]) = some x := by
      simp only [binding?, Expr.children, hc', if_true]
      rfl
    rw [readings_node]
    simp only [List.map_cons, List.map_nil]
    rw [readNode_comprehension hc' hx]
    exact ihc.body ihb
  | other bound name evaluator children hb hnamed ih =>
    have hb' := binding?_map_resolveIn bound hb
    intro rd hrd hinside
    rw [readings_node] at hrd
    cases origin_of_mem hb' hrd with
    | @name p ha hp hparts =>
      rcases children with _ | ⟨literal, _ | ⟨_, _⟩⟩
      · cases hp
      · have hliteral : literal.literalText? = some p := literalText?_of_resolveIn hp
        have hname : (node name evaluator [literal]).propertyName?.isSome = true :=
          Option.isSome_iff_exists.mpr ⟨p, hliteral⟩
        -- a name alone is kept only outside of comprehensions
        obtain rfl : bound = [] := (hnamed ha hname).resolve_right (by simp)
        exact absurd hinside (by simp)
      · simp only [List.map_cons, List.length_cons] at hparts
        omega
    | part hw hrd =>
      obtain ⟨_, hcopy, rfl⟩ := List.mem_map.mp hw
      obtain ⟨c, hc, rfl⟩ := List.mem_map.mp hcopy
      exact ih c hc rd hrd hinside
    | @step w r step hw hr hs =>
      obtain ⟨_, hcopy, rfl⟩ := List.mem_map.mp hw
      obtain ⟨c, hc, rfl⟩ := List.mem_map.mp hcopy
      have hpart : ⟨[], r⟩ ∈ (resolveIn bound c).readings.all := mem_all_iff.mpr (.inr ⟨r, hr, rfl⟩)
      exact atScope_append (ih c hc ⟨[], r⟩ hpart hinside) hs

/-! ## What is left out -/

/-- Why a path is left out that is read inside comprehensions, and steps out to the given one. -/
inductive LeftOut (rd : Reading) (p : String) : Prop where
  /-- It is an enclosing state itself. -/
  | scope (hp : p = globalName)
  /-- It looks like a path into a local scope. -/
  | looksLocal (hp : LooksLocal p)
  /-- A comprehension around it binds a name that begins with `$global`, and takes it for local. -/
  | bound {x : String} (hx : x ∈ rd.bound) (hglobal : rootName x = globalName)
      (hlocal : isLocalTo x rd.path = true)

theorem Reading.kept_eq_false_iff {rd : Reading} :
    rd.kept = false ↔ ∃ x ∈ rd.bound, isLocalTo x rd.path = true := by
  simp [kept]

/-- **What is reported of a path that starts at a scope.** -/
theorem reported?_of_atScope {rd : Reading} (hscope : AtScope rd.path) {n : ℕ} {p : String}
    (hpath : rd.path = globalPath n p) (hp : ¬ StepsOut p) :
    (rd.reported? = none ↔ LeftOut rd p) ∧ (¬ LeftOut rd p → rd.reported? = some p) := by
  have hreported : Expr.reported? rd.path =
      if p = globalName ∨ LooksLocal p then none else some p := by
    rw [hpath, reported?_globalPath, reported?_of_not_stepsOut hp]
  have hnone : LeftOut rd p → rd.reported? = none := by
    rintro (hglobal | hlocal | ⟨hx, -, hlocal⟩)
    · simp [Reading.reported?, hreported, hglobal]
    · simp [Reading.reported?, hreported, hlocal]
    · rw [Reading.reported?, Reading.kept_eq_false_iff.mpr ⟨_, hx, hlocal⟩]
      rfl
  have hsome : ¬ LeftOut rd p → rd.reported? = some p := by
    intro h
    have hkept : rd.kept = true := by
      by_contra hkept
      obtain ⟨x, hx, hlocal⟩ := Reading.kept_eq_false_iff.mp (Bool.eq_false_iff.mpr hkept)
      have hroot := rootName_eq_of_isLocalTo hlocal
      rcases hscope with hscope | hscope
      · exact h (.bound hx (hroot.symm.trans hscope) hlocal)
      · cases n with
        | zero =>
          rw [hpath] at hscope
          exact h (.looksLocal (looksLocal_of_rootName hscope))
        | succ n =>
          rw [hpath, rootName_globalPath] at hscope
          exact absurd hscope (by decide)
    rw [Reading.reported?, if_pos hkept, hreported, if_neg]
    rintro (hglobal | hlocal)
    · exact h (.scope hglobal)
    · exact h (.looksLocal hlocal)
  refine ⟨⟨fun h => ?_, hnone⟩, hsome⟩
  by_contra hleft
  rw [hsome hleft] at h
  cases h

/-! ## Chains of names -/

/-- A chain of accessors: the name it starts at and the names behind. -/
inductive NameChain : Expr → String → List String → Prop where
  | root {name root : String} {evaluator : Evaluator} {literal : Expr}
      (ha : (node name evaluator [literal]).isA .accessor = true)
      (hp : literal.literalText? = some root) : NameChain (node name evaluator [literal]) root []
  | property {name root property : String} {evaluator : Evaluator} {literal owner : Expr}
      {names : List String} (ha : (node name evaluator [literal, owner]).isA .accessor = true)
      (hp : literal.literalText? = some property) (howner : NameChain owner root names) :
      NameChain (node name evaluator [literal, owner]) root (names ++ [property])

theorem nameChain_root (root : String) : NameChain (accessor root none) root [] := .root rfl rfl

theorem NameChain.accessor {owner : Expr} {root : String} {names : List String}
    (h : NameChain owner root names) (property : String) :
    NameChain (accessor property (some owner)) root (names ++ [property]) := .property rfl rfl h

/-- Names with points between them. -/
def dotted (root : String) (names : List String) : String := ".".intercalate (root :: names)

theorem dotted_concat (root : String) (names : List String) (property : String) :
    dotted root (names ++ [property]) = dotted root names ++ "." ++ property := by
  rw [dotted, ← List.cons_append, String.intercalate_append_of_ne_nil (by simp) (by simp),
    String.intercalate_singleton, dotted]

theorem NameChain.walk_eq {e : Expr} {root : String} {names : List String}
    (h : NameChain e root names) : e.walk = ⟨some (dotted root names), []⟩ := by
  induction h with
  | root ha hp =>
    rw [walk_node, List.map_cons, List.map_nil, walkNode_root ha hp]
    rfl
  | property ha hp howner ih =>
    rw [walk_node, List.map_cons, List.map_cons, List.map_nil, walkNode_property ha hp, ih,
      dotted_concat]
    rfl

theorem rootName_dotted {root : String} (hroot : PlainKey root) (names : List String) :
    rootName (dotted root names) = root := by
  unfold dotted
  cases names with
  | nil => rw [String.intercalate_singleton, hroot.rootName_eq]
  | cons name names =>
    rw [String.intercalate_cons_cons, String.append_assoc,
      rootName_append _ (any_isSeparator_dot _), hroot.rootName_eq]

/-- A chain of names that is no scope is reported as it stands, unless it looks local. -/
theorem NameChain.references_eq {e : Expr} {root : String} {names : List String}
    (h : NameChain e root names) (hroot : PlainKey root) (hglobal : root ≠ globalName) :
    e.references = if localName.toList <+: root.toList then [] else [dotted root names] := by
  have hname := rootName_dotted hroot names
  have hsteps : ¬ StepsOut (dotted root names) :=
    fun hsteps => hglobal (hname.symm.trans hsteps.rootName_eq)
  have hscope : dotted root names ≠ globalName := by
    intro hscope
    rw [hscope, rootName_global] at hname
    exact hglobal hname.symm
  have hpath : reported? (dotted root names) =
      if localName.toList <+: root.toList then none else some (dotted root names) := by
    simp only [reported?_of_not_stepsOut hsteps, hscope, false_or, LooksLocal, hname]
  rw [Expr.references_eq, h.walk_eq, Walk.all, List.nil_append, Option.toList_some]
  by_cases hlocal : localName.toList <+: root.toList
  · rw [if_pos hlocal] at hpath
    rw [List.filterMap_cons_none hpath, List.filterMap_nil, if_pos hlocal, distinctInOrder_nil]
  · rw [if_neg hlocal] at hpath
    rw [List.filterMap_cons_some hpath, List.filterMap_nil, if_neg hlocal,
      distinctInOrder_singleton]

/-- **Which paths are left out.**  A chain of names outside of comprehensions is reported as its
dotted path, unless its root is `$global` or begins with the word `$local`.  What is reported of any
tree is what is reported of all that it reads.  In a resolved tree, of what is read inside
comprehensions, that is the path behind all steps to enclosing states; it is left out exactly when
there is nothing behind them, when its first name begins with the word `$local`, or when a
comprehension around it binds a name that begins with `$global`. -/
theorem paths_left_out (e : Expr) :
    (∀ root names, NameChain e root names → PlainKey root → root ≠ globalName →
      e.references = if localName.toList <+: root.toList then [] else [dotted root names]) ∧
    (∀ r, r ∈ e.references ↔ ∃ rd ∈ e.readings.all, rd.reported? = some r) ∧
    ∀ rd ∈ e.resolve.readings.all, rd.bound ≠ [] →
      (∃ n p, rd.path = globalPath n p ∧ ¬ StepsOut p) ∧
      ∀ n p, rd.path = globalPath n p → ¬ StepsOut p →
        (rd.reported? = none ↔ LeftOut rd p) ∧ (¬ LeftOut rd p → rd.reported? = some p) := by
  refine ⟨fun root names h => h.references_eq, fun r => mem_references_iff_readings, ?_⟩
  intro rd hrd hb
  refine ⟨exists_globalPath rd.path, fun n p hpath hp => ?_⟩
  exact reported?_of_atScope (inScopes_resolveIn [] e rd hrd (.inr hb)) hpath hp

/-- A chain that begins with the word `$global`, and a name and an iterator two comprehensions
deep. -/
theorem paths_left_out_two_levels :
    let ambient : Ambient := .still
    let foreach : Expr → String → Expr → Expr := fun collection x body =>
      withEvaluator (Operator.foreach.evaluator ambient) [collection, accessor x none, body]
    let e := foreach (accessor "items" none) "x"
      (foreach (accessor "parts" (some (accessor "x" none))) "y"
        (withEvaluator (Operator.concat.evaluator ambient)
          [accessor "id" (some (accessor "x" none)), accessor "$globals" none]))
    (accessor "a" (some (accessor "$globals" none))).references = ["$globals.a"] ∧
      (Reading.mk ["y", "x"] "$global.$local.x.id").reported? = none ∧
      (Reading.mk ["y", "x"] "$global.$global.$globals").reported? = some "$globals" ∧
      "$globals" ∈ e.resolve.references := by
  intro ambient foreach e
  have hpath : NameChain (accessor "a" (some (accessor "$globals" none))) "$globals" ["a"] :=
    (nameChain_root "$globals").accessor "a"
  have hchain := (paths_left_out _).1 _ _ hpath (by decide) (by decide)
  have hleft := (paths_left_out e).2.2
  have hread : ∀ rd ∈ [Reading.mk ["y", "x"] "$global.$local.x.id",
      Reading.mk ["y", "x"] "$global.$global.$globals"], rd ∈ e.resolve.readings.all := by
    decide +kernel
  simp only [List.mem_cons, List.not_mem_nil, or_false, forall_eq_or_imp, forall_eq] at hread
  have hlocal := (hleft _ hread.1 (by simp)).2 1 "$local.x.id" rfl (by decide)
  have hname := (hleft _ hread.2 (by simp)).2 2 "$globals" rfl (by decide)
  have hkept : ¬ LeftOut (Reading.mk ["y", "x"] "$global.$global.$globals") "$globals" := by
    rintro (h | h | ⟨hx, hglobal, -⟩)
    · exact absurd h (by decide)
    · exact absurd h (by decide)
    · simp only [List.mem_cons, List.not_mem_nil, or_false] at hx
      rcases hx with rfl | rfl <;> exact absurd hglobal (by decide)
  have hreference := hname.2 hkept
  refine ⟨hchain.trans ?_, ?_, hreference, ?_⟩
  · rw [if_neg (by decide)]
    rfl
  · exact hlocal.1.mpr (.looksLocal (by decide))
  · exact ((paths_left_out e.resolve).2.1 "$globals").mpr ⟨_, hread.2, hreference⟩

/-- A name that only begins like a local scope is left out, and so is all that is read of the
enclosing state when the bound name is `$global`. -/
theorem names_taken_for_local :
    let ambient : Ambient := .still
    let foreach : String → Expr → Expr := fun x body =>
      withEvaluator (Operator.foreach.evaluator ambient)
        [accessor "items" none, accessor x none, body]
    (accessor "$locale" none).references = [] ∧
      (foreach "x" (accessor "$locale" none)).resolve.references = ["items"] ∧
      (foreach "$global" (accessor "label" none)).resolve.references = ["items"] ∧
      (foreach "$global" (accessor "label" none)).references = ["items", "label"] := by
  intro ambient foreach
  have hstate : (accessor "$locale" none).walk.all.filterMap reported? = [] := by decide +kernel
  have hbody : (foreach "x" (accessor "$locale" none)).resolve.walk.all.filterMap reported?
      = ["items"] := by decide +kernel
  have hbound : (foreach "$global" (accessor "label" none)).resolve.walk.all.filterMap reported?
      = ["items"] := by decide +kernel
  have hraw : (foreach "$global" (accessor "label" none)).walk.all.filterMap reported?
      = ["items", "label"] := by decide +kernel
  refine ⟨?_, ?_, ?_, ?_⟩
  · rw [references_eq, hstate, distinctInOrder_nil]
  · rw [references_eq, hbody, distinctInOrder_singleton]
  · rw [references_eq, hbound, distinctInOrder_singleton]
  · rw [references_eq, hraw, distinctInOrder, List.mergeSort_of_pairwise (by decide +kernel)]
    rfl

end StateExpr.Expr
