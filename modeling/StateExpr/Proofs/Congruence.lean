import Mathlib.Data.List.Forall2
import StateExpr.Eval.Basic
import StateExpr.Proofs.Related
import StateExpr.Proofs.Tree
/-!
# What a node takes from its children

A node depends on its children only through their outcomes: when the values of the children are
related, so are the values of the node, whatever the children look like in print.  Only the few
forms that read, assign or bind names need to know how the two kinds of state correspond.

Main statements: `Expr.runNode_related` for the value of a node, and `Expr.pathOf_related` for the
path that it denotes.
-/

namespace StateExpr

open StateExpr.Action (Related)

variable {σ τ : Type} {R : σ → τ → Prop}

/-- Whether a value fits does not depend on the expression that gave it. -/
theorem Check.fault?_isSome (c : Check) (v : Value) (e f : Expr) (position : Nat) :
    (c.fault? v e position).isSome = (c.fault? v f position).isSome := by
  have expect_isSome : ∀ (fits : Bool) (e : Expr) (message : String),
      (expect fits e message).isSome = !fits := by
    intro fits e message
    cases fits <;> rfl
  have list_isSome : (numericListFault? v e).isSome = (numericListFault? v f).isSome := by
    cases v <;> simp [numericListFault?]
  cases c <;> simp only [fault?, expect_isSome, list_isSome]
  case numericListOrNumber => split <;> simp [list_isSome]
  case divisor =>
    cases v.isNumber with
    | false => rfl
    | true =>
      simp only [expect, if_true, Option.orElse]
      split <;> rfl
  case listThenIntegers => split <;> simp [expect_isSome]
  case sequenceThenIntegers => split <;> simp [expect_isSome]
  case objectThenName =>
    split
    · simp [expect_isSome]
    · split <;> simp [expect_isSome]

theorem Scoping.stateOf_scopeOf (s : Value) (name : String) (item : Value) :
    stateOf (scopeOf s name item) = s := by
  simp only [stateOf, scopeOf, Entries.get?, if_true, Option.getD_some]

/-- Bodies that do the same do the same in the scope of an item. -/
theorem Scoping.inScope_related {a b : Action Value Value} (name : String) (item : Value)
    (h : Related Eq Eq a b) : Related Eq Eq (inScope name a item) (inScope name b item) := by
  rintro s _ rfl
  obtain ⟨alike, after⟩ := h (scopeOf s name item) _ rfl
  exact ⟨alike, congrArg stateOf after⟩

/-- As many children on both sides, with related values. -/
abbrev ValuesRelated (R : σ → τ → Prop) : List (Meaning σ) → List (Meaning τ) → Prop :=
  List.Forall₂ fun m n => Related R Eq m.value n.value

theorem Meaning.argumentsFrom_related (check : Option Check) {ms : List (Meaning σ)}
    {ns : List (Meaning τ)} (h : ValuesRelated R ms ns) (position : Nat) :
    Related R Eq (argumentsFrom check position ms) (argumentsFrom check position ns) := by
  induction h generalizing position with
  | nil => exact .pure rfl
  | @cons m n ms ns hmn _ ih =>
    refine .bind hmn ?_
    rintro v _ rfl
    have faults : (check.bind fun c => c.fault? v m.expr position).isSome
        = (check.bind fun c => c.fault? v n.expr position).isSome := by
      cases check with
      | none => rfl
      | some c => exact c.fault?_isSome v m.expr n.expr position
    cases hm : check.bind fun c => c.fault? v m.expr position with
    | some message =>
      rw [hm] at faults
      obtain ⟨other, hn⟩ := Option.isSome_iff_exists.mp faults.symm
      simp only [hn]
      exact .throw rfl
    | none =>
      rw [hm] at faults
      simp only [Option.not_isSome_iff_eq_none.mp (Bool.eq_false_iff.mp faults.symm)]
      refine .bind (ih _) ?_
      rintro vs _ rfl
      exact .pure rfl

theorem Meaning.arguments_related (check : Option Check) {ms : List (Meaning σ)}
    {ns : List (Meaning τ)} (h : ValuesRelated R ms ns) :
    Related R Eq (arguments check ms) (arguments check ns) :=
  argumentsFrom_related check h 0

/-- The forms for which it matters how names are read, assigned and bound. -/
def Form.usesNames : Form → Bool
  | .getProperty | .callstack | .accessor | .setPathToValue => true
  | .foreach | .filter | .quantified _ => true
  | _ => false

namespace Expr

variable {ms : List (Meaning σ)} {ns : List (Meaning τ)} {e f : Expr}

theorem ofTimestamp_related {α : Type} (x : Except TimestampFault α) :
    Related R Eq (ofTimestamp x) (ofTimestamp x) :=
  .orFail _

theorem runTimeTransform_related (shift : Moment → Int → Option Moment)
    (h : ValuesRelated R ms ns) :
    Related R Eq (runTimeTransform e shift ms) (runTimeTransform f shift ns) := by
  refine .bind (Meaning.arguments_related none h) ?_
  rintro args _ rfl
  cases textAt? args 0 with
  | none => exact .throw rfl
  | some timestamp =>
    cases args[1]?.bind Value.asNumber? with
    | none => exact .throw rfl
    | some amount =>
      refine .bind (ofTimestamp_related _) ?_
      rintro moment _ rfl
      cases shift moment (saturateInt64 amount) with
      | none => exact .throw rfl
      | some shifted =>
        refine .bind (ofTimestamp_related _) ?_
        rintro text _ rfl
        exact .pure rfl

theorem writeShifted_related (shifted : Option Moment) (format : Option String)
    (pattern : String) :
    Related R Eq (writeShifted e shifted format pattern)
      (writeShifted f shifted format pattern) := by
  cases shifted with
  | none => exact .throw rfl
  | some m =>
    refine .bind (ofTimestamp_related _) ?_
    rintro text _ rfl
    exact .pure rfl

theorem runShiftTime_related (forward : Bool) (pattern : String) (h : ValuesRelated R ms ns) :
    Related R Eq (runShiftTime e forward pattern ms) (runShiftTime f forward pattern ns) := by
  refine .bind (Meaning.arguments_related none h) ?_
  rintro args _ rfl
  cases textAt? args 0 with
  | none => exact .throw rfl
  | some timestamp =>
    cases integerAt? args 1 with
    | none => exact .throw rfl
    | some amount =>
      cases textAt? args 2 with
      | none => exact .throw rfl
      | some unitName =>
        refine .bind (ofTimestamp_related _) ?_
        rintro unit _ rfl
        refine .bind (ofTimestamp_related _) ?_
        rintro moment _ rfl
        exact writeShifted_related _ _ _

theorem runShiftNow_related (now : Moment) (forward : Bool) (h : ValuesRelated R ms ns) :
    Related R Eq (runShiftNow e now forward ms) (runShiftNow f now forward ns) := by
  refine .bind (Meaning.arguments_related none h) ?_
  rintro args _ rfl
  cases integerAt? args 0 with
  | none => exact .throw rfl
  | some amount =>
    cases textAt? args 1 with
    | none => exact .throw rfl
    | some unitName =>
      refine .bind (ofTimestamp_related _) ?_
      rintro unit _ rfl
      exact writeShifted_related _ _ _

theorem readZone_related (database : ZoneDatabase) (id : String) :
    Related R Eq (readZone database id) (readZone database id) :=
  .present _ _

theorem runConvertFromUtc_related (database : ZoneDatabase) (h : ValuesRelated R ms ns) :
    Related R Eq (runConvertFromUtc database e ms) (runConvertFromUtc database f ns) := by
  refine .bind (Meaning.arguments_related none h) ?_
  rintro args _ rfl
  cases textAt? args 0 with
  | none => exact .throw rfl
  | some timestamp =>
    cases textAt? args 1 with
    | none => exact .throw rfl
    | some zoneId =>
      refine .bind (ofTimestamp_related _) ?_
      rintro instant _ rfl
      refine .bind (readZone_related database _) ?_
      rintro zone _ rfl
      refine .bind (ofTimestamp_related _) ?_
      rintro text _ rfl
      exact .pure rfl

theorem runConvertToUtc_related (database : ZoneDatabase) (h : ValuesRelated R ms ns) :
    Related R Eq (runConvertToUtc database e ms) (runConvertToUtc database f ns) := by
  refine .bind (Meaning.arguments_related none h) ?_
  rintro args _ rfl
  cases textAt? args 0 with
  | none => exact .throw rfl
  | some timestamp =>
    cases textAt? args 1 with
    | none => exact .throw rfl
    | some zoneId =>
      refine .bind (readZone_related database _) ?_
      rintro zone _ rfl
      cases Timestamp.written? timestamp with
      | none => exact .throw rfl
      | some written =>
        dsimp only
        cases written.instant.orElse fun _ => zone.instantOf? written.clock with
        | none => exact .throw rfl
        | some instant =>
          refine .bind (ofTimestamp_related _) ?_
          rintro text _ rfl
          exact .pure rfl

theorem runContains_related (eq : Value → Value → Bool) (h : ValuesRelated R ms ns) :
    Related R Eq (runContains eq ms) (runContains eq ns) := by
  refine .bind (Meaning.arguments_related none h).attempt ?_
  rintro _ _ (rfl | _)
  · exact .pure rfl
  · exact .pure rfl

theorem runAnd_related (h : ValuesRelated R ms ns) :
    Related R Eq (runAnd ms) (runAnd ns) := by
  induction h with
  | nil => exact .pure rfl
  | cons hmn _ ih =>
    refine .bind hmn.attempt ?_
    rintro _ _ (@⟨v, _, rfl⟩ | _)
    · cases hv : v.isTrue <;> simp only [hv, if_true, if_false, Bool.false_eq_true]
      · exact .pure rfl
      · exact ih
    · exact .pure rfl

theorem runOr_related (h : ValuesRelated R ms ns) :
    Related R Eq (runOr ms) (runOr ns) := by
  induction h with
  | nil => exact .pure rfl
  | cons hmn _ ih =>
    refine .bind hmn.attempt ?_
    rintro _ _ (@⟨v, _, rfl⟩ | _)
    · cases hv : v.isTrue <;> simp only [hv, if_true, if_false, Bool.false_eq_true]
      · exact ih
      · exact .pure rfl
    · exact ih

theorem runNot_related (h : ValuesRelated R ms ns) :
    Related R Eq (runNot ms) (runNot ns) := by
  cases h with
  | nil => exact .pure rfl
  | cons hmn _ =>
    refine .bind hmn.attempt ?_
    rintro _ _ (rfl | _)
    · exact .pure rfl
    · exact .pure rfl

theorem runIf_related (h : ValuesRelated R ms ns) :
    Related R Eq (runIf e ms) (runIf f ns) := by
  match ms, ns, h with
  | [_, _, _], [_, _, _], .cons hc (.cons hy (.cons hn .nil)) =>
    refine .bind hc.attempt ?_
    rintro _ _ (@⟨v, _, rfl⟩ | _)
    · cases hv : v.isTrue <;> simp only [hv, if_true, if_false, Bool.false_eq_true]
      · exact hn
      · exact hy
    · exact hn
  | [], [], .nil => exact .throw rfl
  | [_], [_], _ => exact .throw rfl
  | [_, _], [_, _], _ => exact .throw rfl
  | _ :: _ :: _ :: _ :: _, _ :: _ :: _ :: _ :: _, _ => exact .throw rfl

theorem boundAt_related (args : List Value) (position limit : Nat) (container : String) :
    Related R Eq (boundAt e args position limit container)
      (boundAt f args position limit container) := by
  unfold boundAt
  cases integerAt? args position with
  | none => exact .throw rfl
  | some n =>
    by_cases h : 0 ≤ n ∧ n ≤ limit
    · simp only [h, and_self, if_true]
      exact .pure rfl
    · simp only [h, if_false]
      exact .throw rfl

theorem runSubstring_related (h : ValuesRelated R ms ns) :
    Related R Eq (runSubstring e ms) (runSubstring f ns) := by
  refine .bind (Meaning.arguments_related none h) ?_
  rintro args _ rfl
  cases args.getD 0 .null with
  | null => exact .pure rfl
  | text s =>
    refine .bind (boundAt_related _ _ _ _) ?_
    rintro start _ rfl
    cases args[2]? with
    | none => exact .pure rfl
    | some _ =>
      refine .bind (boundAt_related _ _ _ _) ?_
      rintro count _ rfl
      exact .pure rfl
  | _ => exact .throw rfl

theorem runSubArray_related (h : ValuesRelated R ms ns) :
    Related R Eq (runSubArray e ms) (runSubArray f ns) := by
  refine .bind (Meaning.arguments_related none h) ?_
  rintro args _ rfl
  cases args.getD 0 .null with
  | list items =>
    refine .bind (boundAt_related _ _ _ _) ?_
    rintro start _ rfl
    by_cases given : 2 < args.length
    · simp only [given, if_true]
      refine .bind (boundAt_related _ _ _ _) ?_
      rintro stop _ rfl
      exact .pure rfl
    · simp only [given, if_false]
      exact .pure rfl
  | _ => exact .throw rfl

theorem separatorFault?_isSome (h : ValuesRelated R ms ns) (vs : List Value) (position : Nat) :
    (separatorFault? position ms vs).isSome = (separatorFault? position ns vs).isSome := by
  induction h generalizing vs position with
  | nil => rfl
  | @cons m n ms ns _ _ ih =>
    cases vs with
    | nil => rfl
    | cons v vs =>
      have faults := Check.string.fault?_isSome v m.expr n.expr position
      unfold separatorFault?
      cases hm : Check.string.fault? v m.expr position with
      | some message =>
        rw [hm] at faults
        obtain ⟨other, hn⟩ := Option.isSome_iff_exists.mp faults.symm
        simp [hn]
      | none =>
        rw [hm] at faults
        have hn := Option.not_isSome_iff_eq_none.mp (Bool.eq_false_iff.mp faults.symm)
        simpa only [hn] using ih vs (position + 1)

theorem runJoin_related (h : ValuesRelated R ms ns) :
    Related R Eq (runJoin e ms) (runJoin f ns) := by
  refine .bind (Meaning.arguments_related none h) ?_
  rintro args _ rfl
  cases args.getD 0 .null with
  | list items =>
    have faults := separatorFault?_isSome (List.forall₂_drop 1 h) (args.drop 1) 1
    dsimp only
    cases hm : separatorFault? 1 (ms.drop 1) (args.drop 1) with
    | some message =>
      rw [hm] at faults
      obtain ⟨other, hn⟩ := Option.isSome_iff_exists.mp faults.symm
      simp only [hn]
      exact .throw rfl
    | none =>
      rw [hm] at faults
      simp only [Option.not_isSome_iff_eq_none.mp (Bool.eq_false_iff.mp faults.symm)]
      exact .pure rfl
  | _ => exact .throw rfl

theorem runElement_related (h : ValuesRelated R ms ns) :
    Related R Eq (runElement ms) (runElement ns) := by
  match ms, ns, h with
  | [_, _], [_, _], .cons ho (.cons hi .nil) =>
    refine .bind ho ?_
    rintro container _ rfl
    refine .bind hi ?_
    rintro key _ rfl
    cases key.integer? with
    | some i =>
      dsimp only
      cases container.item i with
      | ok v => exact .pure rfl
      | error fault => exact .throw rfl
    | none =>
      cases key with
      | text name => exact .pure rfl
      | _ => exact .throw rfl
  | [], [], .nil => exact .pure rfl
  | [_], [_], _ => exact .pure rfl
  | _ :: _ :: _ :: _, _ :: _ :: _ :: _, _ => exact .pure rfl

/-! ## Forms that read, assign or bind names -/

theorem propertyNamed_related {m : Meaning σ} {n : Meaning τ} (owner : Value)
    (h : Related R Eq m.value n.value) :
    Related R Eq (runGetProperty.propertyNamed owner m) (runGetProperty.propertyNamed owner n) := by
  refine .bind h ?_
  rintro v _ rfl
  cases v with
  | text name => exact .pure rfl
  | _ => exact .throw rfl

variable {scoping : Scoping σ} {scoping' : Scoping τ}

theorem runGetProperty_related (h : ValuesRelated R ms ns)
    (hwhole : ms.length = 1 → ∀ s t, R s t → scoping.whole s = scoping'.whole t) :
    Related R Eq (runGetProperty scoping ms) (runGetProperty scoping' ns) := by
  match ms, ns, h with
  | [], [], .nil => exact .pure rfl
  | [_], [_], .cons hn .nil =>
    refine .bind .get ?_
    intro s t hr
    rw [hwhole rfl s t hr]
    exact propertyNamed_related _ hn
  | _ :: _ :: _, _ :: _ :: _, .cons ho (.cons hn _) =>
    refine .bind ho ?_
    rintro owner _ rfl
    exact propertyNamed_related _ hn

theorem runCallstack_related (h : ValuesRelated R ms ns)
    (hwhole : ∀ s t, R s t → scoping.whole s = scoping'.whole t) :
    Related R Eq (runCallstack scoping ms) (runCallstack scoping' ns) := by
  refine .bind .get ?_
  intro s t hr
  rw [hwhole s t hr]
  cases (scoping'.whole t).property "callstack" with
  | list frames =>
    cases h with
    | nil => exact .pure rfl
    | cons hmn _ =>
      refine .bind hmn ?_
      rintro name _ rfl
      exact .pure rfl
  | _ => exact .pure rfl

theorem runAccessor_related (h : ValuesRelated R ms ns) (hname : e.propertyName? = f.propertyName?)
    (hread : ms.length < 2 → ∀ name, e.propertyName? = some name →
      ∀ s t, R s t → scoping.read name s = scoping'.read name t) :
    Related R Eq (runAccessor scoping e ms) (runAccessor scoping' f ns) := by
  unfold runAccessor
  rw [← hname]
  cases hn : e.propertyName? with
  | none => exact .pure rfl
  | some name =>
    match ms, ns, h with
    | _ :: _ :: _, _ :: _ :: _, .cons _ (.cons ho _) =>
      refine .bind ho ?_
      rintro owner _ rfl
      exact .pure rfl
    | [_], [_], _ | [], [], _ =>
      refine .bind .get ?_
      intro s t hr
      exact .pure (hread (by simp) name hn s t hr)

/-- Related values, and related paths. -/
structure MeaningsRelated (R : σ → τ → Prop) (Q : List PathStep → List PathStep → Prop)
    (m : Meaning σ) (n : Meaning τ) : Prop where
  value : Related R Eq m.value n.value
  path : Related R Q m.path n.path

theorem runSetPath_related_of_two {Q : List PathStep → List PathStep → Prop}
    {target source : Meaning σ} {target' source' : Meaning τ}
    (ht : Related R Q target.path target'.path) (hs : Related R Eq source.value source'.value)
    (hassign : ∀ p q v, Q p q → Related R Eq (scoping.assign p v) (scoping'.assign q v)) :
    Related R Eq (runSetPath scoping [target, source])
      (runSetPath scoping' [target', source']) := by
  refine .bind hs ?_
  rintro v _ rfl
  refine .bind ht ?_
  intro p q hq
  refine .bind (hassign p q v hq) ?_
  rintro _ _ rfl
  exact .pure rfl

theorem runSetPath_miscounted (hlength : ms.length = ns.length) (hcount : ms.length ≠ 2) :
    Related R Eq (runSetPath scoping ms) (runSetPath scoping' ns) := by
  have null : ∀ {ρ : Type} (scoping : Scoping ρ) (ms : List (Meaning ρ)), ms.length ≠ 2 →
      runSetPath scoping ms = pure .null := by
    intro ρ scoping ms hm
    unfold runSetPath
    split
    · exact absurd rfl hm
    · rfl
  rw [null scoping ms hcount, null scoping' ns (hlength ▸ hcount)]
  exact .pure rfl

theorem runSetPath_related {Q : List PathStep → List PathStep → Prop}
    (h : List.Forall₂ (MeaningsRelated R Q) ms ns)
    (hassign : ∀ p q v, Q p q → Related R Eq (scoping.assign p v) (scoping'.assign q v)) :
    Related R Eq (runSetPath scoping ms) (runSetPath scoping' ns) := by
  by_cases htwo : ms.length = 2
  · match ms, ns, h, htwo with
    | [_, _], [_, _], .cons ht (.cons hs .nil), _ =>
      exact runSetPath_related_of_two ht.path hs.value hassign
  · exact runSetPath_miscounted h.length_eq htwo

theorem forEach_related {body : Value → Action σ Value} {body' : Value → Action τ Value}
    (h : ∀ item, Related R Eq (body item) (body' item)) (items : List Value) :
    Related R Eq (forEach body items) (forEach body' items) := by
  induction items with
  | nil => exact .pure rfl
  | cons item rest ih =>
    refine .bind (h item) ?_
    rintro v _ rfl
    refine .bind ih ?_
    rintro vs _ rfl
    exact .pure rfl

theorem keepIf_related {body : Value → Action σ Value} {body' : Value → Action τ Value}
    (h : ∀ item, Related R Eq (body item) (body' item)) (items : List Value) :
    Related R Eq (keepIf body items) (keepIf body' items) := by
  induction items with
  | nil => exact .pure rfl
  | cons item rest ih =>
    refine .bind (h item) ?_
    rintro v _ rfl
    refine .bind ih ?_
    rintro kept _ rfl
    exact .pure rfl

theorem findTruth_related {body : Value → Action σ Value} {body' : Value → Action τ Value}
    (truth : Bool) (h : ∀ item, Related R Eq (body item) (body' item)) (items : List Value) :
    Related R Eq (findTruth truth body items) (findTruth truth body' items) := by
  induction items with
  | nil => exact .pure rfl
  | cons item rest ih =>
    refine .bind (h item) ?_
    rintro v _ rfl
    by_cases hv : (v.isTrue == truth) = true
    · simp only [hv, if_true]
      exact .pure rfl
    · simp only [hv]
      exact ih

theorem openComprehension_related {c i b : Meaning σ} {c' i' b' : Meaning τ}
    (hname : i.expr.iteratorName? = i'.expr.iteratorName?) (hc : Related R Eq c.value c'.value) :
    Related R (fun x y => x.1 = y.1 ∧ x.2.1 = y.2.1 ∧ i.expr.iteratorName? = some x.2.1 ∧
        x.2.2 = b.value ∧ y.2.2 = b'.value)
      (openComprehension e [c, i, b]) (openComprehension f [c', i', b']) := by
  unfold openComprehension
  dsimp only
  rw [← hname]
  cases hn : i.expr.iteratorName? with
  | none => exact .throw rfl
  | some name =>
    refine .bind hc ?_
    rintro v _ rfl
    cases v with
    | list items => exact .pure ⟨rfl, rfl, rfl, rfl, rfl⟩
    | _ => exact .throw rfl

/-- A comprehension depends on its body only through what it does in the scope of an item. -/
theorem runComprehension_related {c i b : Meaning σ} {c' i' b' : Meaning τ}
    {visit : (Value → Action σ Value) → List Value → Action σ Value}
    {visit' : (Value → Action τ Value) → List Value → Action τ Value}
    (hname : i.expr.iteratorName? = i'.expr.iteratorName?) (hc : Related R Eq c.value c'.value)
    (hbody : ∀ name, i.expr.iteratorName? = some name → ∀ item,
      Related R Eq (scoping.within name b.value item) (scoping'.within name b'.value item))
    (hvisit : ∀ body body', (∀ item, Related R Eq (body item) (body' item)) →
      ∀ items, Related R Eq (visit body items) (visit' body' items)) :
    Related R Eq (runComprehension scoping e [c, i, b] visit)
      (runComprehension scoping' f [c', i', b'] visit') := by
  refine .bind (openComprehension_related hname hc) ?_
  rintro ⟨items, name, body⟩ ⟨_, _, body'⟩ ⟨rfl, rfl, bound, rfl, rfl⟩
  exact hvisit _ _ (hbody name bound) items

/-- A comprehension that has not three children fails. -/
theorem runComprehension_miscounted
    {visit : (Value → Action σ Value) → List Value → Action σ Value}
    {visit' : (Value → Action τ Value) → List Value → Action τ Value}
    (hlength : ms.length = ns.length) (hcount : ms.length ≠ 3) :
    Related R Eq (runComprehension scoping e ms visit) (runComprehension scoping' f ns visit') := by
  have miscounted : ∀ {ρ : Type} (e : Expr) (ms : List (Meaning ρ)), ms.length ≠ 3 →
      openComprehension e ms = throw (.failure (BuildError.countMessage e .comprehension)) := by
    intro ρ e ms hm
    unfold openComprehension
    split
    · exact absurd rfl hm
    · rfl
  unfold runComprehension
  rw [miscounted e ms hcount, miscounted f ns (hlength ▸ hcount)]
  exact .bind (P := fun _ _ => False) (.throw rfl) nofun

/-- What the forms that bind a name have in common. -/
theorem runForm_related_of_bindsName {form : Form} (hbinds : form.bindsName = true)
    {c i b : Meaning σ} {c' i' b' : Meaning τ}
    (hname : i.expr.iteratorName? = i'.expr.iteratorName?) (hc : Related R Eq c.value c'.value)
    (hbody : ∀ name, i.expr.iteratorName? = some name → ∀ item,
      Related R Eq (scoping.within name b.value item) (scoping'.within name b'.value item)) :
    Related R Eq (runForm scoping e [c, i, b] form) (runForm scoping' f [c', i', b'] form) := by
  cases form with
  | foreach =>
    refine runComprehension_related hname hc hbody ?_
    intro body body' h items
    refine .bind (forEach_related h items) ?_
    rintro vs _ rfl
    exact .pure rfl
  | filter =>
    refine runComprehension_related hname hc hbody ?_
    intro body body' h items
    refine .bind (keepIf_related h items) ?_
    rintro vs _ rfl
    exact .pure rfl
  | quantified q =>
    cases q <;>
    · refine runComprehension_related hname hc hbody ?_
      intro body body' h items
      refine .bind (findTruth_related _ h items) ?_
      rintro truth _ rfl
      exact .pure rfl
  | _ => exact nomatch hbinds

theorem runForm_related_of_miscounted {form : Form} (hbinds : form.bindsName = true)
    (hlength : ms.length = ns.length) (hcount : ms.length ≠ 3) :
    Related R Eq (runForm scoping e ms form) (runForm scoping' f ns form) := by
  cases form with
  | foreach => exact runComprehension_miscounted hlength hcount
  | filter => exact runComprehension_miscounted hlength hcount
  | quantified q => cases q <;> exact runComprehension_miscounted hlength hcount
  | _ => exact nomatch hbinds

/-- The forms that have nothing to do with names. -/
theorem runForm_related {form : Form} (hplain : form.usesNames = false)
    (h : ValuesRelated R ms ns) :
    Related R Eq (runForm scoping e ms form) (runForm scoping' f ns form) := by
  cases form with
  | contains eq => exact runContains_related eq h
  | and => exact runAnd_related h
  | or => exact runOr_related h
  | not => exact runNot_related h
  | ifElse => exact runIf_related h
  | substring => exact runSubstring_related h
  | join => exact runJoin_related h
  | subArray => exact runSubArray_related h
  | element => exact runElement_related h
  | shiftTime forward pattern => exact runShiftTime_related forward pattern h
  | shiftNow now forward => exact runShiftNow_related now forward h
  | convertFromUtc => exact runConvertFromUtc_related _ h
  | convertToUtc => exact runConvertToUtc_related _ h
  | unknown => exact .throw rfl
  | _ => exact nomatch hplain

/-- **A node depends on its children only through their outcomes.** -/
theorem runNode_related (hev : e.evaluator = f.evaluator) (h : ValuesRelated R ms ns)
    (hwhole : ∀ g, e.evaluator.strategy = .lambda g →
      ∀ s t, R s t → scoping.whole s = scoping'.whole t)
    (hform : ∀ form, e.evaluator.strategy = .special form → form.usesNames = true →
      Related R Eq (runForm scoping e ms form) (runForm scoping' f ns form)) :
    Related R Eq (runNode scoping e ms) (runNode scoping' f ns) := by
  unfold runNode
  rw [← hev]
  cases hs : e.evaluator.strategy with
  | apply g check =>
    refine .bind (Meaning.arguments_related check h) ?_
    rintro args _ rfl
    exact .pure rfl
  | applyWithError g check =>
    refine .bind (Meaning.arguments_related check h) ?_
    rintro args _ rfl
    exact .orFail _
  | sequence g check =>
    refine .bind (Meaning.arguments_related check h) ?_
    rintro args _ rfl
    cases args <;> exact .pure rfl
  | comparison g check =>
    refine .bind (Meaning.arguments_related check h).attempt ?_
    rintro _ _ (rfl | _)
    · exact .pure rfl
    · exact .pure rfl
  | timeTransform g => exact runTimeTransform_related g h
  | special form =>
    cases hn : form.usesNames with
    | true => exact hform form hs hn
    | false => exact runForm_related hn h
  | constant v => exact .pure rfl
  | lambda g =>
    refine .bind .get ?_
    intro s t hr
    rw [hwhole g hs s t hr]
    exact .orFail _

/-- The path that a node denotes depends on the values of its children, and on the path of the one
that it steps into. -/
theorem pathOf_related_of_owner {Q : List PathStep → List PathStep → Prop}
    (hev : e.evaluator = f.evaluator) (hname : e.propertyName? = f.propertyName?)
    (h : ValuesRelated R ms ns)
    (hproperty : e.isA .accessor = true →
      ∀ m ∈ ms[1]?, ∀ n ∈ ns[1]?, Related R Q m.path n.path)
    (helement : e.isA .element = true → ms.length = 2 →
      ∀ m ∈ ms[0]?, ∀ n ∈ ns[0]?, Related R Q m.path n.path)
    (happend : ∀ p q key owner owner', Q p q → Q (p ++ [⟨key, owner⟩]) (q ++ [⟨key, owner'⟩]))
    (hroot : e.isA .accessor = true → ms.length < 2 → ∀ name, e.propertyName? = some name →
      Q [⟨.name name, ""⟩] [⟨.name name, ""⟩]) :
    Related R Q (pathOf e ms) (pathOf f ns) := by
  have isA_eq : ∀ op, f.isA op = e.isA op := fun op => by simp only [isA, hev]
  unfold pathOf
  rw [← hname, isA_eq, isA_eq]
  cases ha : e.isA .accessor with
  | true =>
    simp only [if_true]
    cases hn : e.propertyName? with
    | none => exact .throw rfl
    | some name =>
      match ms, ns, h with
      | _ :: _ :: _, _ :: _ :: _, _ =>
        refine .bind (hproperty ha _ rfl _ rfl) ?_
        intro p q hq
        exact .pure (happend _ _ _ _ _ hq)
      | [_], [_], _ | [], [], _ => exact .pure (hroot ha (by simp) name hn)
  | false =>
    simp only [Bool.false_eq_true, if_false]
    cases he : e.isA .element with
    | false => exact .throw rfl
    | true =>
      match ms, ns, h with
      | [_, _], [_, _], .cons _ (.cons hi .nil) =>
        refine .bind hi ?_
        rintro v _ rfl
        cases keyOf? v with
        | none => exact .throw rfl
        | some key =>
          refine .bind (helement he rfl _ rfl _ rfl) ?_
          intro p q hq
          exact .pure (happend _ _ _ _ _ hq)
      | [], [], .nil => exact .throw rfl
      | [_], [_], _ => exact .throw rfl
      | _ :: _ :: _ :: _, _ :: _ :: _ :: _, _ => exact .throw rfl

/-- The path that a node denotes depends on the values and the paths of its children. -/
theorem pathOf_related {Q : List PathStep → List PathStep → Prop}
    (hev : e.evaluator = f.evaluator) (hname : e.propertyName? = f.propertyName?)
    (h : List.Forall₂ (MeaningsRelated R Q) ms ns)
    (happend : ∀ p q key owner owner', Q p q → Q (p ++ [⟨key, owner⟩]) (q ++ [⟨key, owner'⟩]))
    (hroot : e.isA .accessor = true → ms.length < 2 → ∀ name, e.propertyName? = some name →
      Q [⟨.name name, ""⟩] [⟨.name name, ""⟩]) :
    Related R Q (pathOf e ms) (pathOf f ns) := by
  have paths : ∀ i : Nat, ∀ m ∈ ms[i]?, ∀ n ∈ ns[i]?, Related R Q m.path n.path := by
    intro i m hm n hn
    obtain ⟨hi, rfl⟩ := List.getElem?_eq_some_iff.mp hm
    obtain ⟨hi', rfl⟩ := List.getElem?_eq_some_iff.mp hn
    exact (h.get hi hi').path
  exact pathOf_related_of_owner hev hname (h.imp fun _ _ hmn => hmn.value) (fun _ => paths 1)
    (fun _ _ => paths 0) happend hroot

/-- An operator that binds a name denotes no path. -/
theorem pathOf_related_of_comprehension {Q : List PathStep → List PathStep → Prop}
    (hev : e.evaluator = f.evaluator) (hc : e.isComprehension = true) :
    Related R Q (pathOf e ms) (pathOf f ns) := by
  have isA_eq : ∀ op, op.isComprehension = false → f.isA op = false ∧ e.isA op = false := by
    intro op hop
    have he := isA_of_isComprehension hc hop
    exact ⟨by rwa [isA, ← hev], he⟩
  unfold pathOf
  simp only [isA_eq .accessor rfl, isA_eq .element rfl, Bool.false_eq_true, if_false]
  exact .throw rfl

/-! ## The meaning of a tree -/

section Meaning

variable (scoping : Scoping σ) {enter enter' : Expr → Option (Action σ Value)} {name : String}
  {evaluator : Evaluator} {children : List Expr}

theorem runNode_of_form {form : Form} (h : evaluator.strategy = .special form)
    (ms : List (Meaning σ)) :
    runNode scoping (node name evaluator children) ms
      = runForm scoping (node name evaluator children) ms form := by
  simp only [runNode, Expr.evaluator, h]

theorem meanings_eq_map (enter : Expr → Option (Action σ Value)) (es : List Expr) :
    meanings scoping enter es = es.map (meaning scoping enter) := by
  induction es with
  | nil => rfl
  | cons e rest ih => simp only [meanings, List.map_cons, ih]

@[simp] theorem expr_meaning (enter : Expr → Option (Action σ Value)) (e : Expr) :
    (e.meaning scoping enter).expr = e := by
  cases e
  rfl

/-- A node is run on the meanings of its children, unless it is entered otherwise. -/
theorem meaning_eq (enter : Expr → Option (Action σ Value)) :
    (node name evaluator children).meaning scoping enter =
      ⟨node name evaluator children,
        (enter (node name evaluator children)).getD
          (runNode scoping (node name evaluator children) (children.map (meaning scoping enter))),
        pathOf (node name evaluator children) (children.map (meaning scoping enter))⟩ := by
  simp only [meaning, meanings_eq_map]

theorem meaning_node (h : enter (node name evaluator children) = none) :
    (node name evaluator children).meaning scoping enter =
      ⟨node name evaluator children,
        runNode scoping (node name evaluator children) (children.map (meaning scoping enter)),
        pathOf (node name evaluator children) (children.map (meaning scoping enter))⟩ := by
  rw [meaning_eq, h, Option.getD_none]

theorem meaning_congr
    (h : enter (node name evaluator children) = enter' (node name evaluator children))
    (hc : ∀ c ∈ children, c.meaning scoping enter = c.meaning scoping enter') :
    (node name evaluator children).meaning scoping enter
      = (node name evaluator children).meaning scoping enter' := by
  rw [meaning_eq, meaning_eq, h, List.map_congr_left hc]

theorem runNode_element (ambient : Ambient) (ms : List (Meaning σ)) :
    runNode scoping (node name (Operator.element.evaluator ambient) children) ms = runElement ms :=
  rfl

theorem runNode_setPathToValue (ambient : Ambient) (ms : List (Meaning σ)) :
    runNode scoping (node name (Operator.setPathToValue.evaluator ambient) children) ms
      = runSetPath scoping ms :=
  rfl

/-- A literal is its value and denotes no path, whatever is beneath it. -/
theorem meaning_constant {v : Value} (h : enter (node name (.constant v) children) = none) :
    (node name (.constant v) children).meaning scoping enter =
      ⟨node name (.constant v) children, pure v,
        throw (notSettable (node name (.constant v) children))⟩ := by
  rw [meaning_node scoping h]
  rfl

/-- A name alone is read from its scope, and is a path of one step. -/
theorem meaning_root {literal : Expr} {property : String}
    (hp : literal.literalText? = some property)
    (h : enter (node name .accessor [literal]) = none) :
    (node name .accessor [literal]).meaning scoping enter =
      ⟨node name .accessor [literal], do pure (scoping.read property (← get)),
        pure [⟨.name property, ""⟩]⟩ := by
  have hn : (node name .accessor [literal]).propertyName? = some property := hp
  have ha : (node name .accessor [literal]).isA .accessor = true := rfl
  rw [meaning_node scoping h, runNode_of_form scoping rfl]
  simp only [List.map_cons, List.map_nil, runForm, runAccessor, pathOf, hn, ha, if_true]

end Meaning

end Expr

end StateExpr
