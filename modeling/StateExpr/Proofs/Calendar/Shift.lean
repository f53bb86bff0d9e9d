import StateExpr.Proofs.Calendar.Ticks
import StateExpr.Proofs.Number.Text
import StateExpr.Proofs.Resolution
/-!
# Shifting timestamps

A shift by days, hours, minutes or seconds reads a timestamp in the strict form, moves its clock by
a whole number of seconds and writes it again.  Clocks of whole milliseconds lose nothing on the way
through the text, so a shift that follows another one moves the clock by the sum of both, and the
years that are kept are the only ones in which either of them can end.

Main statements: `Expr.shifting_outcome`, what one shift does, and `Expr.shifting_shifting`.
-/

namespace StateExpr

/-! ## Moving the clock -/

namespace Moment

variable {m after : Moment}

theorem timestamp_ofTimestamp (seconds : ℤ) (nanos : ℕ) :
    (ofTimestamp seconds nanos).timestamp = seconds := by
  unfold ofTimestamp timestamp
  dsimp only
  omega

theorem moveClock_moveClock (m : Moment) (a b : ℤ) :
    (m.moveClock a).moveClock b = m.moveClock (a + b) := by
  have hfirst : (m.moveClock a).timestamp = m.timestamp + a := timestamp_ofTimestamp _ _
  change ofTimestamp ((m.moveClock a).timestamp + b) m.nanos = _
  rw [hfirst, add_assoc]
  rfl

theorem Exact.moveClock (hm : m.Exact) (seconds : ℤ) : (m.moveClock seconds).Exact := by
  refine ⟨?_, hm.nanos, hm.millis⟩
  change ((m.timestamp + seconds) % 86400).toNat < 86400
  omega

/-- Outside of leap seconds a shift moves the clock, and the year decides whether it succeeds. -/
theorem Exact.addSeconds_eq (hm : m.Exact) (seconds : ℤ) :
    m.addSeconds seconds = (m.moveClock seconds).checked :=
  if_pos (.inl hm.nanos)

theorem Exact.moveClock_of_addSeconds (hm : m.Exact) {seconds : ℤ}
    (h : m.addSeconds seconds = some after) : m.moveClock seconds = after := by
  rw [hm.addSeconds_eq, checked] at h
  split at h
  · exact Option.some.inj h
  · cases h

/-- **A second shift goes on from where the first one ended.** -/
theorem Exact.addSeconds_addSeconds (hm : m.Exact) {a : ℤ} (h : m.addSeconds a = some after)
    (b : ℤ) : after.addSeconds b = m.addSeconds (a + b) := by
  obtain rfl := hm.moveClock_of_addSeconds h
  rw [(hm.moveClock a).addSeconds_eq, hm.addSeconds_eq, moveClock_moveClock]

end Moment

/-! ## Operators that shift -/

/-- The seconds in a unit of an operator that shifts timestamps. -/
def Operator.unitSeconds? : Operator → Option ℤ
  | addDays => some 86400
  | addHours => some 3600
  | addMinutes => some 60
  | addSeconds => some 1
  | _ => none

theorem Operator.isComprehension_of_unitSeconds? {op : Operator} {unit : ℤ}
    (h : op.unitSeconds? = some unit) : op.isComprehension = false := by
  cases op <;> first | rfl | cases h

/-- Such an operator shifts by its unit, as many times as it is told. -/
theorem Operator.evaluator_of_unitSeconds? {op : Operator} {unit : ℤ} (ambient : Ambient)
    (h : op.unitSeconds? = some unit) :
    (op.evaluator ambient).strategy =
      .timeTransform fun m amount => m.addSeconds (amount * unit) := by
  cases op <;> cases h
  · rfl
  · rfl
  · rfl
  · change Strategy.timeTransform TimeUnit.second.add = _
    congr 1
    funext m amount
    rw [mul_one]
    rfl

/-- An amount that a number holds exactly is read as it was written. -/
theorem saturateInt64_numberOfInt {k : ℤ} (hk : k.natAbs ≤ 2 ^ 53) :
    saturateInt64 (numberOfInt k) = k := by
  have hlog := log2_lt_of_lt (by decide) (show k.natAbs < 2 ^ 54 by omega)
  have hnearest : Dyadic.nearestWhole k.natAbs = k.natAbs := by
    rcases Nat.lt_or_eq_of_le hk with hlt | heq
    · exact Dyadic.nearestWhole_of_lt hlt
    · rw [heq]
      exact (Dyadic.nearestWhole_close (by decide)).2.2 (by decide)
  rw [saturateInt64_of_wholeValue (wholeValue?_numberOfInt (by omega)), hnearest,
    Int.sign_mul_natAbs]
  unfold clampInt64 int64Min int64Max
  omega

/-! ## One shift and two -/

/-- A text that stands for a year of four digits stands for no other. -/
theorem Timestamp.year_of_isoText_eq {m n : Moment}
    (hyear : 0 ≤ m.date.year ∧ m.date.year ≤ 9999) (h : isoText n = isoText m) :
    0 ≤ n.date.year ∧ n.date.year ≤ 9999 := by
  have hlt : m.date.year.toNat < 10 ^ 4 := by omega
  have hlength := length_paddedDigits hlt (by decide)
  obtain ⟨c, tail, hcons⟩ := List.exists_cons_of_length_pos (by omega : 0 <
    (paddedDigits 4 m.date.year.toNat).length)
  have hdigit : c.isDigit = true := by
    apply allDigits_paddedDigits 4 m.date.year.toNat
    rw [hcons]
    exact List.mem_cons_self
  have htext : ∃ rest, (isoText n).toList = c :: rest := by
    obtain ⟨rest, hrest⟩ := exists_toList_isoText m
    rw [h, hrest, yearText, if_pos hyear, padded_zero, hcons]
    exact ⟨_, rfl⟩
  obtain ⟨rest, htext⟩ := htext
  exact year_of_isoText htext hdigit

namespace Expr

/-- A timestamp shifted by a literal amount. -/
def shifting (ambient : Ambient) (op : Operator) (source : Expr) (amount : ℤ) : Expr :=
  withEvaluator (op.evaluator ambient) [source, constant (.ofInt amount)]

variable (ambient : Ambient) {op : Operator} {unit : ℤ} {source : Expr} {s s' : Value}

/-- A shift is run on its source and its amount. -/
theorem evaluate_shifting (hop : op.unitSeconds? = some unit) (source : Expr) (amount : ℤ) :
    ∃ amountPath, (shifting ambient op source amount).evaluate =
      runTimeTransform (shifting ambient op source amount)
        (fun m amount => m.addSeconds (amount * unit))
        [source.meaning .nested resolvingAction?,
          ⟨constant (.ofInt amount), pure (.ofInt amount), amountPath⟩] := by
  have hliteral : resolvingAction? (constant (.ofInt amount)) = none :=
    resolvingAction?_of_not_comprehension rfl
  unfold shifting
  rw [evaluate_withEvaluator ambient (Operator.isComprehension_of_unitSeconds? hop)]
  unfold constant withEvaluator at hliteral ⊢
  simp only [runNode, Expr.evaluator, op.evaluator_of_unitSeconds? ambient hop, List.map_cons,
    List.map_nil, meaning_constant _ hliteral]
  exact ⟨_, rfl⟩

theorem ofTimestamp_ok {σ α : Type} (x : α) : ofTimestamp (.ok x) = (pure x : Action σ α) := rfl

theorem ofTimestamp_readIso {σ : Type} {t : String} {m : Moment} (h : Timestamp.iso? t = some m) :
    ofTimestamp (Timestamp.readIso t) = (pure m : Action σ Moment) := by
  rw [Timestamp.readIso, h]
  rfl

/-- What is answered for the moment in which a shift ends, or for none. -/
def shiftAnswer (e : Expr) : Option Moment → Except EvalError Value
  | some after => .ok (.text (Timestamp.isoText after))
  | none => .error (.failure (notEvaluated e))

/-- A timestamp in the strict form and an amount are read, and the moment is written. -/
theorem runTimeTransform_iso {e : Expr} {ms : List (Meaning Value)} {t : String} {amount : ℤ}
    {start : Moment} (f : Moment → ℤ → Option Moment)
    (hargs : Meaning.arguments none ms s = (.ok [.text t, .ofInt amount], s'))
    (ht : Timestamp.iso? t = some start) (hamount : amount.natAbs ≤ 2 ^ 53) :
    runTimeTransform e f ms s = (e.shiftAnswer (f start amount), s') := by
  have htext : textAt? [.text t, .ofInt amount] 0 = some t := rfl
  have hnumber : ([.text t, .ofInt amount] : List Value)[1]?.bind Value.asNumber? =
      some (numberOfInt amount) := rfl
  have hwrite : ∀ after : Moment, ofTimestamp (Timestamp.writeAs none UserFormat.isoPattern
      (.utc after)) = (pure (Timestamp.isoText after) : Action Value String) := by
    intro after
    unfold Timestamp.writeAs Timestamp.write Timestamp.isoText Pattern.render?
    rw [items?_isoPattern]
    rfl
  have hformat : textAt? [.text t, .ofInt amount] 2 = none := rfl
  unfold runTimeTransform
  rw [Action.bind_apply, hargs]
  simp only [htext, hnumber, ofTimestamp_readIso ht, pure_bind, saturateInt64_numberOfInt hamount,
    hformat, hwrite]
  cases f start amount with
  | none => rfl
  | some after => rfl

/-- **A shift moves the clock of its source** by so many of its units, and fails when it ends in a
year that is not kept. -/
theorem shifting_outcome (hop : op.unitSeconds? = some unit) {t : String} {start : Moment}
    (hsource : source.evaluate.outcome s = (.ok (.text t), s'))
    (ht : Timestamp.iso? t = some start) {amount : ℤ} (hamount : amount.natAbs ≤ 2 ^ 53) :
    (shifting ambient op source amount).evaluate.outcome s =
      ((shifting ambient op source amount).shiftAnswer (start.addSeconds (amount * unit)), s') := by
  obtain ⟨amountPath, hrun⟩ := evaluate_shifting ambient hop source amount
  have hargs : Meaning.arguments none [source.meaning .nested resolvingAction?,
      ⟨constant (.ofInt amount), pure (.ofInt amount), amountPath⟩] s =
        (.ok [.text t, .ofInt amount], s') := by
    have hvalue : (source.meaning .nested resolvingAction?).value s = (.ok (.text t), s') := hsource
    unfold Meaning.arguments Meaning.argumentsFrom
    rw [Action.bind_apply, hvalue]
    rfl
  rw [hrun, Action.outcome, runTimeTransform_iso _ hargs ht hamount]

/-- A shift into a year of four digits ends in a moment that is read back from its text. -/
theorem exists_between (hop : op.unitSeconds? = some unit) {t : String} {start after : Moment}
    (hsource : source.evaluate.outcome s = (.ok (.text t), s'))
    (ht : Timestamp.iso? t = some start) (hexact : start.Exact) {amount : ℤ}
    (hamount : amount.natAbs ≤ 2 ^ 53)
    (h : ((shifting ambient op source amount).evaluate.outcome s).1 =
      .ok (.text (Timestamp.isoText after)))
    (hyear : 0 ≤ after.date.year ∧ after.date.year ≤ 9999) :
    ∃ between, start.addSeconds (amount * unit) = some between ∧
      Timestamp.iso? (Timestamp.isoText between) = some between ∧
      (shifting ambient op source amount).evaluate.outcome s =
        (.ok (.text (Timestamp.isoText between)), s') := by
  have hout := shifting_outcome ambient hop hsource ht hamount
  cases hadd : start.addSeconds (amount * unit) with
  | none =>
    rw [hout, hadd] at h
    cases h
  | some between =>
    rw [hadd] at hout
    rw [hout, shiftAnswer, Except.ok.injEq, Value.text.injEq] at h
    have hmoved := hexact.moveClock_of_addSeconds hadd ▸ hexact.moveClock (amount * unit)
    exact ⟨between, rfl, Timestamp.iso?_isoText hmoved.proper hmoved.millis
      (Timestamp.year_of_isoText_eq hyear h), hout⟩

/-- **Shifts compose.**  When a timestamp outside of leap seconds is shifted into a year of four
digits, a second shift gives what a single one by the sum of both amounts gives, or both fail; the
opposite shift gives the timestamp back. -/
theorem shifting_shifting (hop : op ∈ [.addDays, .addHours, .addMinutes, .addSeconds])
    {t : String} {start after : Moment} (ht : Timestamp.iso? t = some start)
    (hleap : start.nanos < 1000000000) {m n : ℤ} (hm : m.natAbs ≤ 2 ^ 53)
    (hn : n.natAbs ≤ 2 ^ 53) (hsum : (m + n).natAbs ≤ 2 ^ 53)
    (hfirst : ((shifting ambient op (constant (.text t)) m).evaluate.outcome s).1 =
      .ok (.text (Timestamp.isoText after)))
    (hyear : 0 ≤ after.date.year ∧ after.date.year ≤ 9999) :
    SameOutcome
      ((shifting ambient op (shifting ambient op (constant (.text t)) m) n).evaluate.outcome s)
      ((shifting ambient op (constant (.text t)) (m + n)).evaluate.outcome s) ∧
    (shifting ambient op (shifting ambient op (constant (.text t)) m) (-m)).evaluate.outcome s =
      (.ok (.text t), s) := by
  obtain ⟨unit, hunit⟩ : ∃ unit, op.unitSeconds? = some unit := by
    simp only [List.mem_cons, List.not_mem_nil, or_false] at hop
    rcases hop with rfl | rfl | rfl | rfl <;> exact ⟨_, rfl⟩
  have hexact := Time.exact_of_iso? ht hleap
  obtain ⟨htext, -, hstart⟩ := Timestamp.proper_of_iso? ht
  have hliteral : (constant (.text t)).evaluate.outcome s = (.ok (.text t), s) := rfl
  obtain ⟨between, hbetween, hread, hout⟩ :=
    exists_between ambient hunit hliteral ht hexact hm hfirst hyear
  have honce := shifting_outcome ambient hunit hliteral ht hsum
  have htwice := fun (k : ℤ) (hk : k.natAbs ≤ 2 ^ 53) =>
    shifting_outcome ambient hunit hout hread hk
  constructor
  · have failures : ∀ a b : String, (EvalError.failure a).kind = (EvalError.failure b).kind :=
      fun _ _ => rfl
    rw [htwice n hn, honce, hexact.addSeconds_addSeconds hbetween, ← add_mul]
    cases start.addSeconds ((m + n) * unit) with
    | none => exact ⟨.error (failures _ _), rfl⟩
    | some last => exact ⟨.ok rfl, rfl⟩
  · have hback : between.addSeconds (-m * unit) = some start := by
      rw [hexact.addSeconds_addSeconds hbetween, ← add_mul, add_neg_cancel, zero_mul,
        hexact.addSeconds_eq, Moment.moveClock_zero hexact.second,
        Moment.checked_of_four_digits hstart]
    rw [htwice (-m) (by omega), hback, shiftAnswer, htext]

/-- From a leap day over the end of the year to the next first of March, and back. -/
theorem shifting_over_leapDay :
    let ambient : Ambient := .still
    let source := constant (.text "2020-02-29T23:59:59.999Z")
    let once := shifting ambient .addDays source 366
    (once.evaluate.outcome .null).1 = .ok (.text "2021-03-01T23:59:59.999Z") ∧
      SameOutcome ((shifting ambient .addDays once (-1)).evaluate.outcome .null)
        ((shifting ambient .addDays source 365).evaluate.outcome .null) ∧
      (shifting ambient .addDays once (-366)).evaluate.outcome .null =
        (.ok (.text "2020-02-29T23:59:59.999Z"), .null) := by
  intro ambient source once
  have hiso : Timestamp.iso? "2020-02-29T23:59:59.999Z" = some ⟨18321, 86399, 999000000⟩ := by
    decide +kernel
  have hmoved : Moment.addSeconds ⟨18321, 86399, 999000000⟩ (366 * 86400) =
      some ⟨18687, 86399, 999000000⟩ := by
    decide +kernel
  have htext : Timestamp.isoText ⟨18687, 86399, 999000000⟩ = "2021-03-01T23:59:59.999Z" := by
    decide +kernel
  have hfirst : (once.evaluate.outcome .null).1 =
      .ok (.text (Timestamp.isoText ⟨18687, 86399, 999000000⟩)) := by
    have hop : Operator.addDays.unitSeconds? = some 86400 := rfl
    have hsource : source.evaluate.outcome .null =
        (.ok (.text "2020-02-29T23:59:59.999Z"), .null) := rfl
    have hexact : (366 : ℤ).natAbs ≤ 2 ^ 53 := by decide
    have hout := shifting_outcome ambient hop hsource hiso hexact
    rw [hmoved] at hout
    exact congrArg Prod.fst hout
  have hop : Operator.addDays ∈ [.addDays, .addHours, .addMinutes, .addSeconds] :=
    List.mem_cons_self
  obtain ⟨same, back⟩ := shifting_shifting ambient hop hiso (by decide) (m := 366) (n := -1)
    (by decide) (by decide) (by decide) hfirst (by decide)
  exact ⟨by rw [hfirst, htext], same, back⟩

end Expr

end StateExpr
