import StateExpr.Proofs.Calendar.Shift
import StateExpr.Proofs.Slices
/-!
# Shifts by units of time

A shift by months counts months and keeps the day of the month, as far as the month has one, and
the time of the day.  All other units are so many seconds.  What the calendar says for an amount is
computed exactly, whatever the amount, and only the years that are kept limit it: a moment outside
of them is no result.  So an amount whose negation has no 64 bits fails like those next to it, and
shifting back by an amount is shifting on by its negation.

Main statements: `TimeUnit.exists_later`, `shift?_eq_add` and `Expr.shifts_exact`.
-/

namespace StateExpr

/-- What does not fit 64 bits is far from zero. -/
theorem fitInt64_cases (n : ℤ) :
    fitInt64 n = some n ∨ fitInt64 n = none ∧ 9223372036854775808 ≤ n.natAbs := by
  unfold fitInt64 int64Min int64Max
  split
  · exact .inl rfl
  · exact .inr ⟨rfl, by omega⟩

/-! ## Months and seconds later -/

namespace Moment

/-- So many months later, at the same time of the day: on the same day of the month, or on the last
day of a shorter month. -/
structure MonthsLater (m : Moment) (months : ℤ) (after : Moment) : Prop where
  month : 12 * after.date.year + after.date.month = 12 * m.date.year + m.date.month + months
  day : after.date.day = min m.date.day (Date.lastDay after.date.year after.date.month)
  second : after.second = m.second
  nanos : after.nanos = m.nanos

/-- So many seconds later.  A leap second has the timestamp of the second before it, so leaving it
back takes one second more than the timestamps show. -/
structure SecondsLater (m : Moment) (seconds : ℤ) (after : Moment) : Prop where
  second : after.second < 86400
  exact : m.nanos < 1000000000 → after.timestamp = m.timestamp + seconds ∧ after.nanos = m.nanos
  close : m.timestamp + seconds ≤ after.timestamp ∧ after.timestamp ≤ m.timestamp + seconds + 1

variable {m after : Moment}

/-- The days that are kept lie in the years that are kept. -/
theorem inRange_iff : m.inRange = true ↔
    Date.minYear ≤ m.date.year ∧ m.date.year ≤ Date.maxYear := by
  have hkept := Date.kept_iff (Date.valid_ofDayNumber m.day)
  rw [Date.dayNumber_ofDayNumber] at hkept
  rw [inRange, decide_eq_true_iff]
  exact hkept

theorem eq_of_checked (h : m.checked = some after) : m = after := by
  unfold checked at h
  split at h
  · exact Option.some.inj h
  · cases h

/-- The moment some months later, whether its year is kept or not. -/
def afterMonths (m : Moment) (months : ℤ) : Moment :=
  ⟨(m.date.addMonths months).dayNumber, m.second, m.nanos⟩

theorem date_afterMonths (m : Moment) (months : ℤ) :
    (m.afterMonths months).date = m.date.addMonths months :=
  Date.ofDayNumber_dayNumber (Date.addMonths_valid (Date.valid_ofDayNumber m.day) months)

theorem monthsLater_afterMonths (m : Moment) (months : ℤ) :
    m.MonthsLater months (m.afterMonths months) := by
  refine ⟨?_, ?_, rfl, rfl⟩
  · rw [date_afterMonths]
    exact Date.addMonths_months m.date months
  · rw [date_afterMonths]
    exact Date.addMonths_day m.date months

/-- **Months that are added are counted**, from every moment. -/
theorem monthsLater_of_addMonths {months : ℤ} (h : m.addMonths months = some after) :
    m.MonthsLater months after := by
  unfold addMonths at h
  split at h
  · cases h
  · rw [← eq_of_checked h]
    exact monthsLater_afterMonths m months

/-- So many months lead out of the years that are kept. -/
theorem MonthsLater.not_inRange {months : ℤ} (h : m.MonthsLater months after)
    (hm : m.inRange = true) (hmonths : 2147483648 ≤ months.natAbs) : after.inRange = false := by
  have hcount := h.month
  obtain ⟨hfirst, hlast, -⟩ := Date.valid_ofDayNumber m.day
  obtain ⟨hfirst', hlast', -⟩ := Date.valid_ofDayNumber after.day
  change 1 ≤ m.date.month at hfirst
  change m.date.month ≤ 12 at hlast
  change 1 ≤ after.date.month at hfirst'
  change after.date.month ≤ 12 at hlast'
  rw [inRange_iff] at hm
  rw [Bool.eq_false_iff, ne_eq, inRange_iff]
  unfold Date.minYear Date.maxYear at *
  omega

/-- The guard of the amount refuses nothing that would be kept. -/
theorem addMonths_eq_checked (hm : m.inRange = true) (months : ℤ) :
    m.addMonths months = (m.afterMonths months).checked := by
  unfold addMonths
  split
  · rename_i hmonths
    have hout := (monthsLater_afterMonths m months).not_inRange hm hmonths
    rw [checked, hout]
    rfl
  · rfl

theorem second_moveClock_lt (m : Moment) (seconds : ℤ) : (m.moveClock seconds).second < 86400 := by
  change ((m.timestamp + seconds) % 86400).toNat < 86400
  omega

theorem timestamp_moveClock (m : Moment) (seconds : ℤ) :
    (m.moveClock seconds).timestamp = m.timestamp + seconds :=
  timestamp_ofTimestamp _ _

theorem secondsLater_moveClock (m : Moment) (seconds : ℤ) :
    m.SecondsLater seconds (m.moveClock seconds) := by
  have htime := m.timestamp_moveClock seconds
  exact ⟨m.second_moveClock_lt seconds, fun _ => ⟨htime, rfl⟩, by omega⟩

/-- **Seconds that are added are counted**, and no other bound holds than that of the years. -/
theorem exists_addSeconds (m : Moment) (seconds : ℤ) :
    ∃ after, m.SecondsLater seconds after ∧ m.addSeconds seconds = after.checked := by
  unfold addSeconds
  split
  · exact ⟨_, m.secondsLater_moveClock seconds, rfl⟩
  · rename_i hleap
    rw [not_or, not_lt] at hleap
    dsimp only
    -- the leap second itself is one of the seconds that are gone back
    generalize hsteps : (if seconds < 0 then seconds + 1 else seconds) = steps
    have hbounds : seconds ≤ steps ∧ steps ≤ seconds + 1 := by
      split at hsteps <;> omega
    generalize hstart : (⟨m.day, m.second, m.nanos - 1000000000⟩ : Moment) = start
    have hsame : start.timestamp = m.timestamp := by rw [← hstart, timestamp, timestamp]
    have htime := start.timestamp_moveClock steps
    refine ⟨_, ⟨start.second_moveClock_lt steps, fun hplain => ?_, by omega⟩, rfl⟩
    exact absurd hplain (Nat.not_lt.mpr hleap.1)

/-- So many seconds lead out of the years that are kept. -/
theorem SecondsLater.not_inRange {seconds : ℤ} (h : m.SecondsLater seconds after)
    (hm : m.inRange = true) (hsecond : m.second < 86400)
    (hseconds : 9223372036854775807 ≤ seconds.natAbs) : after.inRange = false := by
  have hfirst : Date.dayNumber ⟨Date.minYear, 1, 1⟩ = -96465292 := by decide
  have hlast : Date.dayNumber ⟨Date.maxYear, 12, 31⟩ = 95026236 := by decide
  obtain ⟨hafter, -, hclose⟩ := h
  unfold timestamp at hclose
  unfold inRange at *
  rw [decide_eq_true_iff] at hm
  rw [decide_eq_false_iff_not]
  omega

end Moment

/-! ## Units -/

namespace TimeUnit

/-- So many units later by the calendar, whether the year is kept or not. -/
def Later : TimeUnit → Moment → ℤ → Moment → Prop
  | second, m, amount, after => m.SecondsLater amount after
  | minute, m, amount, after => m.SecondsLater (amount * 60) after
  | hour, m, amount, after => m.SecondsLater (amount * 3600) after
  | day, m, amount, after => m.SecondsLater (amount * 86400) after
  | week, m, amount, after => m.SecondsLater (amount * 604800) after
  | month, m, amount, after => m.MonthsLater amount after
  | year, m, amount, after => m.MonthsLater (12 * amount) after

variable {m : Moment}

/-- A year is twelve months: when the months have no 64 bits there is no such year either. -/
theorem year_add_eq (m : Moment) (amount : ℤ) :
    year.add m amount = month.add m (12 * amount) := by
  change (fitInt64 (amount * 12)).bind m.addMonths = m.addMonths (12 * amount)
  rw [mul_comm 12]
  rcases fitInt64_cases (amount * 12) with hfit | ⟨hnone, hfar⟩
  · rw [hfit, Option.bind_some]
  · have hguard : m.addMonths (amount * 12) = none := if_pos (by omega)
    rw [hnone, hguard, Option.bind_none]

/-- **A unit is added as the calendar says**, and fails only outside of the years that are kept. -/
theorem exists_later (hm : m.inRange = true) (unit : TimeUnit) (amount : ℤ) :
    ∃ after, unit.Later m amount after ∧ unit.add m amount = after.checked := by
  cases unit with
  | second | minute | hour | day | week => exact m.exists_addSeconds _
  | month => exact ⟨_, m.monthsLater_afterMonths _, Moment.addMonths_eq_checked hm _⟩
  | year =>
    rw [year_add_eq]
    exact ⟨_, m.monthsLater_afterMonths _, Moment.addMonths_eq_checked hm _⟩

/-- Of all units the amounts at the ends of the integers of 64 bits lead out of these years. -/
theorem add_eq_none (hm : m.inRange = true) (hsecond : m.second < 86400) (unit : TimeUnit)
    {amount : ℤ} (hamount : 9223372036854775807 ≤ amount.natAbs) : unit.add m amount = none := by
  obtain ⟨after, hlater, hadd⟩ := exists_later hm unit amount
  have hout : after.inRange = false := by
    cases unit with
    | second | minute | hour | day | week =>
      exact Moment.SecondsLater.not_inRange hlater hm hsecond (by omega)
    | month | year => exact Moment.MonthsLater.not_inRange hlater hm (by omega)
  rw [hadd, Moment.checked, hout]
  rfl

end TimeUnit

/-! ## Operators -/

namespace Expr

variable {m : Moment} {unit : TimeUnit}

/-- **Going back is going on by the negation**, which may have more than 64 bits. -/
theorem shift?_eq_add (hm : m.inRange = true) (hsecond : m.second < 86400) (amount : ℤ)
    (forward : Bool) : shift? m unit amount forward =
      unit.add m (if forward then amount else -amount) := by
  unfold shift?
  generalize (if forward then amount else -amount) = shift
  rcases fitInt64_cases shift with hfit | ⟨hnone, hfar⟩
  · rw [hfit]
    rfl
  · rw [hnone, TimeUnit.add_eq_none hm hsecond unit (by omega)]
    rfl

/-! ## Back and on -/

/-- What is read of a number and of its negation are negations of each other, if it is read at all,
or lie at the ends of the integers of 64 bits. -/
theorem integers_of_opposite {v w : Value} {k : ℤ} (hv : v.whole? = some k)
    (hw : w.whole? = some (-k)) : (v.integer? = none ∧ w.integer? = none) ∨
      ∃ i j, v.integer? = some i ∧ w.integer? = some j ∧
        (j = -i ∨ 9223372036854775807 ≤ i.natAbs ∧ 9223372036854775807 ≤ j.natAbs) := by
  have hcases : k.natAbs ≤ 9223372036854775807 ∨ k = int64Min ∨ k = int64Max + 1 ∨
      9223372036854775808 < k.natAbs := by
    unfold int64Min int64Max
    omega
  obtain hnear | rfl | rfl | hfar := hcases
  · have hk : FitsInt64 k := by unfold FitsInt64 int64Min int64Max; omega
    have hk' : FitsInt64 (-k) := by unfold FitsInt64 int64Min int64Max; omega
    exact .inr ⟨k, -k, Value.integer?_of_fits hv hk, Value.integer?_of_fits hw hk', .inl rfl⟩
  · rw [Value.integer?_of_whole? hv, Value.integer?_of_whole? hw]
    exact .inr ⟨int64Min, int64Max, rfl, rfl, by decide⟩
  · rw [Value.integer?_of_whole? hv, Value.integer?_of_whole? hw]
    exact .inr ⟨int64Max, int64Min, rfl, rfl, by decide⟩
  · have hnone : ∀ {x : Value} {n : ℤ}, x.whole? = some n →
        9223372036854775808 < n.natAbs → x.integer? = none := by
      intro x n hx hn
      have hfits : ¬ FitsInt64 n := by unfold FitsInt64 int64Min int64Max; omega
      have hnext : n ≠ int64Max + 1 := by unfold int64Max; omega
      rw [Value.integer?_of_whole? hx, if_neg hfits, if_neg hnext]
    exact .inl ⟨hnone hv hfar, hnone hw (by omega)⟩

theorem shift?_opposite (hm : m.inRange = true) (hsecond : m.second < 86400) {i j : ℤ}
    (h : j = -i ∨ 9223372036854775807 ≤ i.natAbs ∧ 9223372036854775807 ≤ j.natAbs)
    (unit : TimeUnit) : shift? m unit i false = shift? m unit j true := by
  rw [shift?_eq_add hm hsecond, shift?_eq_add hm hsecond]
  change unit.add m (-i) = unit.add m j
  obtain rfl | ⟨hfar, hfar'⟩ := h
  · rfl
  · have hback : 9223372036854775807 ≤ (-i).natAbs := by omega
    rw [TimeUnit.add_eq_none hm hsecond unit hback, TimeUnit.add_eq_none hm hsecond unit hfar']

theorem kept_of_iso? {t : String} (h : Timestamp.iso? t = some m) :
    m.inRange = true ∧ m.second < 86400 := by
  obtain ⟨-, hproper, hyear⟩ := Timestamp.proper_of_iso? h
  have hchecked := Moment.checked_of_four_digits hyear
  refine ⟨?_, hproper.second⟩
  by_contra hout
  rw [Moment.checked, if_neg hout] at hchecked
  cases hchecked

variable {e e' : Expr}

/-- A format of its own leaves nothing to the pattern of the operator. -/
theorem writeShifted_of_format (shifted : Option Moment) (format pattern pattern' : String) :
    Action.Related Eq Eq (writeShifted e shifted (some format) pattern : Action Value Value)
      (writeShifted e' shifted (some format) pattern') := by
  cases shifted with
  | none => exact .throw rfl
  | some after => exact .refl _

theorem readIso_related (t : String) :
    Action.Related Eq (fun x y => x = y ∧ Timestamp.iso? t = some x)
      (ofTimestamp (Timestamp.readIso t) : Action Value Moment)
      (ofTimestamp (Timestamp.readIso t)) := by
  unfold Timestamp.readIso
  cases Timestamp.iso? t with
  | none => exact .throw rfl
  | some m => exact .pure ⟨rfl, rfl⟩

/-- Shifts by amounts that lead to the same moments do the same. -/
theorem shifts_related {i j : ℤ} {forward forward' : Bool}
    (h : ∀ m : Moment, m.inRange = true → m.second < 86400 → ∀ unit,
      shift? m unit i forward = shift? m unit j forward')
    (t name format pattern pattern' : String) :
    Action.Related Eq Eq
      (do
        let unit ← ofTimestamp (Timestamp.readUnit name)
        let moment ← ofTimestamp (Timestamp.readIso t)
        writeShifted e (shift? moment unit i forward) (some format) pattern : Action Value Value)
      (do
        let unit ← ofTimestamp (Timestamp.readUnit name)
        let moment ← ofTimestamp (Timestamp.readIso t)
        writeShifted e' (shift? moment unit j forward') (some format) pattern') := by
  refine .bind (.refl _) ?_
  rintro unit _ rfl
  refine .bind (readIso_related t) ?_
  rintro m _ ⟨rfl, hread⟩
  obtain ⟨hm, hsecond⟩ := kept_of_iso? hread
  rw [h m hm hsecond unit]
  exact writeShifted_of_format _ format pattern pattern'

/-- **Shifting back by an amount is shifting on by its negation**, whatever the unit and the format,
errors included. -/
theorem subtract_eq_add (ambient : Ambient) {cs ds : List Expr} {s s' a v w c : Value}
    {format : String} {k : ℤ} (hv : v.whole? = some k) (hw : w.whole? = some (-k))
    (hcs : Operands cs s [a, v, c, .text format] s')
    (hds : Operands ds s [a, w, c, .text format] s') :
    SameOutcome ((operation ambient .subtractFromTime cs).evaluate.outcome s)
      ((operation ambient .addToTime ds).evaluate.outcome s) := by
  have hfirst : ∀ x, textAt? [a, x, c, .text format] 0 = a.asText? := fun _ => rfl
  have hsecond : ∀ x, integerAt? [a, x, c, .text format] 1 = x.integer? := fun _ => rfl
  have hthird : ∀ x, textAt? [a, x, c, .text format] 2 = c.asText? := fun _ => rfl
  have hfourth : ∀ x, textAt? [a, x, c, .text format] 3 = some format := fun _ => rfl
  have hback : Operator.subtractFromTime.isComprehension = false := rfl
  have hon : Operator.addToTime.isComprehension = false := rfl
  rw [outcome_of_special hback rfl (fun _ _ => rfl) hcs,
    outcome_of_special hon rfl (fun _ _ => rfl) hds]
  simp only [hfirst, hsecond, hthird, hfourth]
  have failures : ∀ x y : String, (EvalError.argument x).kind = (EvalError.argument y).kind :=
    fun _ _ => rfl
  obtain ⟨hi, hj⟩ | ⟨i, j, hi, hj, hopposite⟩ := integers_of_opposite hv hw
  · rw [hi, hj]
    cases a.asText? with
    | none => exact ⟨.error (failures _ _), rfl⟩
    | some t => exact ⟨.error (failures _ _), rfl⟩
  · rw [hi, hj]
    cases a.asText? with
    | none => exact ⟨.error (failures _ _), rfl⟩
    | some t =>
      cases c.asText? with
      | none => exact ⟨.error (failures _ _), rfl⟩
      | some name =>
        refine shifts_related (fun m hm hkept unit => ?_) t name format _ _ s' s' rfl
        exact shift?_opposite hm hkept hopposite unit

/-! ## Results of shifts -/

/-- The operators that shift a timestamp by a named unit: whether they go on or back, and the
pattern that they write without a format. -/
inductive ShiftsTime : Operator → Bool → String → Prop where
  | on : ShiftsTime .addToTime true UserFormat.defaultPattern
  | back : ShiftsTime .subtractFromTime false UserFormat.isoPattern

theorem writeShifted_some (e : Expr) (after : Moment) (vs : List Value) (position : ℕ)
    (pattern : String) (s : Value) :
    writeShifted e (some after) (textAt? vs position) pattern s =
      ((Time.render vs position pattern (.utc after)).mapError .failure, s) := by
  have hwrite : (writeShifted e (some after) (textAt? vs position) pattern : Action Value Value) =
      ofTimestamp (Timestamp.writeAs (textAt? vs position) pattern (.utc after)) >>= fun text =>
        pure (.text text) := rfl
  rw [hwrite, Time.render, ← textAt?]
  cases Timestamp.writeAs (textAt? vs position) pattern (.utc after) <;> rfl

/-- **Such an operator shifts by exactly its amount**, and fails when this leads out of the years
that are kept. -/
theorem ShiftsTime.outcome {ambient : Ambient} {op : Operator} {forward : Bool} {pattern : String}
    (hop : ShiftsTime op forward pattern) {cs : List Expr} {s s' : Value} {vs : List Value}
    {t name : String} {amount : ℤ} (hcs : Operands cs s vs s') (ht : textAt? vs 0 = some t)
    (hamount : integerAt? vs 1 = some amount) (hname : textAt? vs 2 = some name)
    (hunit : TimeUnit.ofName? name = some unit) (hm : Timestamp.iso? t = some m) :
    ∃ after, unit.Later m (if forward then amount else -amount) after ∧
      (operation ambient op cs).evaluate.outcome s =
        (if after.inRange then (Time.render vs 3 pattern (.utc after)).mapError .failure
          else .error (.failure ((operation ambient op cs).display ++
            " is out of the datetime range.")), s') := by
  obtain ⟨hkept, hsecond⟩ := kept_of_iso? hm
  obtain ⟨after, hlater, hadd⟩ := TimeUnit.exists_later hkept unit
    (if forward then amount else -amount)
  rw [← shift?_eq_add hkept hsecond] at hadd
  refine ⟨after, hlater, ?_⟩
  have hcall : (operation ambient op cs).evaluate.outcome s =
      writeShifted (operation ambient op cs) after.checked (textAt? vs 3) pattern s' := by
    cases hop with
    | on | back =>
      rw [outcome_of_special rfl rfl (fun _ _ => rfl) hcs]
      simp only [ht, hamount, hname, Timestamp.readUnit, hunit, ofTimestamp_readIso hm,
        ofTimestamp_ok, pure_bind, hadd]
  rw [hcall, Moment.checked]
  cases after.inRange with
  | false => rfl
  | true => exact writeShifted_some _ after vs 3 pattern s'

/-- An integer of 64 bits and its negation are read as opposite numbers. -/
theorem exists_opposite {n : ℤ} (hn : FitsInt64 n) :
    ∃ k, (Value.ofInt n).whole? = some k ∧ (Value.ofInt (-n)).whole? = some (-k) := by
  have hsize : n.natAbs < 2 ^ 64 := by
    obtain ⟨hmin, hmax⟩ := hn
    unfold int64Min at hmin
    unfold int64Max at hmax
    omega
  refine ⟨_, Value.whole?_ofInt_of_lt hsize, ?_⟩
  rw [Value.whole?_ofInt_of_lt (by rwa [Int.natAbs_neg]), Int.natAbs_neg, Int.sign_neg, neg_mul]

/-- **Shifts are exact.**  Months are counted on, to the same day of the month or to the last one of
a shorter month, at the same time of the day, and a year is twelve of them.  Every unit is added as
the calendar says, by whatever amount, and fails just when the year is not kept.  With a format,
shifting back by a number is shifting on by its negation, for all integers of 64 bits and beyond.
Both operators shift by exactly their amount, or say that it leads out of range. -/
theorem shifts_exact (ambient : Ambient) :
    (∀ (m after : Moment) n, TimeUnit.month.add m n = some after → m.MonthsLater n after) ∧
    (∀ m n, TimeUnit.year.add m n = TimeUnit.month.add m (12 * n)) ∧
    (∀ m : Moment, m.inRange = true → ∀ (unit : TimeUnit) n,
      ∃ after, unit.Later m n after ∧ unit.add m n = after.checked) ∧
    (∀ cs ds s s' a v w c format k, v.whole? = some k → w.whole? = some (-k) →
      Operands cs s [a, v, c, .text format] s' → Operands ds s [a, w, c, .text format] s' →
      SameOutcome ((operation ambient .subtractFromTime cs).evaluate.outcome s)
        ((operation ambient .addToTime ds).evaluate.outcome s)) ∧
    (∀ n, FitsInt64 n →
      ∃ k, (Value.ofInt n).whole? = some k ∧ (Value.ofInt (-n)).whole? = some (-k)) ∧
    ∀ op forward pattern, ShiftsTime op forward pattern →
      ∀ cs s vs s' t amount name unit m, Operands cs s vs s' → textAt? vs 0 = some t →
        integerAt? vs 1 = some amount → textAt? vs 2 = some name →
        TimeUnit.ofName? name = some unit → Timestamp.iso? t = some m →
        ∃ after, unit.Later m (if forward then amount else -amount) after ∧
          (operation ambient op cs).evaluate.outcome s =
            (if after.inRange then (Time.render vs 3 pattern (.utc after)).mapError .failure
              else .error (.failure ((operation ambient op cs).display ++
                " is out of the datetime range.")), s') := by
  refine ⟨fun m after n => Moment.monthsLater_of_addMonths, TimeUnit.year_add_eq,
    fun m hm => TimeUnit.exists_later hm, ?_, fun n => exists_opposite, ?_⟩
  · intro cs ds s s' a v w c format k hv hw hcs hds
    exact subtract_eq_add ambient hv hw hcs hds
  · intro op forward pattern hop cs s vs s' t amount name unit m hcs ht hamount hname hunit hm
    exact hop.outcome hcs ht hamount hname hunit hm

/-- From the end of a month back to a shorter one, and by the least integer of 64 bits. -/
theorem shifts_exact_least :
    let ambient : Ambient := .still
    let source : Value := .text "2018-03-31T13:00:00.000Z"
    let format : Value := .text "yyyy-MM-dd"
    let start : Moment := ⟨17621, 46800, 0⟩
    let once := [source, .number 1, .text "Month", format]
    let e := operation ambient .subtractFromTime (once.map constant)
    start.MonthsLater (-1) ⟨17590, 46800, 0⟩ ∧
    (∃ after, TimeUnit.year.Later start int64Min after ∧
      TimeUnit.year.add start int64Min = after.checked) ∧
    SameOutcome
      ((operation ambient .subtractFromTime ([source, .ofInt int64Min, .text "Week",
        format].map constant)).evaluate.outcome .null)
      ((operation ambient .addToTime ([source, .ofInt (-int64Min), .text "Week",
        format].map constant)).evaluate.outcome .null) ∧
    ∃ after, TimeUnit.month.Later start (-1) after ∧
      e.evaluate.outcome .null =
        (if after.inRange then
            (Time.render once 3 UserFormat.isoPattern (.utc after)).mapError .failure
          else .error (.failure (e.display ++ " is out of the datetime range.")), .null) := by
  intro ambient source format start once e
  have hiso : Timestamp.iso? "2018-03-31T13:00:00.000Z" = some start := by decide +kernel
  obtain ⟨hmonths, -, hunits, hopposite, hintegers, houtcome⟩ := shifts_exact ambient
  obtain ⟨k, hk, hk'⟩ := hintegers int64Min (by decide)
  exact ⟨hmonths start _ (-1) (by decide +kernel), hunits start (by decide +kernel) .year int64Min,
    hopposite _ _ _ _ _ _ _ _ _ k hk hk' (.constant _ .null) (.constant _ .null),
    houtcome _ _ _ .back _ _ once _ _ _ _ _ _ (.constant once .null) rfl (by decide +kernel) rfl rfl
      hiso⟩

end Expr

end StateExpr
