import StateExpr.Function.Time
import StateExpr.Proofs.Calendar.Timestamp
import StateExpr.Proofs.Number.Whole
/-!
# Ticks and back

The ticks of a timestamp are sent as a number, which has room for 53 binary digits where the ticks
of recent times have 60.  The count arrives within 256 ticks, less than a millisecond, but division
toward zero drops a whole millisecond when it arrives nearer to 1970 than it was sent.

Main statements: `roundedTicks_close`, `integer?_exactTicks` and `Time.throughTicks_iff`.
-/

namespace StateExpr

/-! ## Whole milliseconds -/

namespace Moment

/-- Whole milliseconds outside a leap second. -/
structure Exact (m : Moment) : Prop where
  second : m.second < 86400
  nanos : m.nanos < 1000000000
  millis : m.nanos % 1000000 = 0

/-- The milliseconds of the years that four digits write. -/
theorem Exact.milliseconds_bounds {m : Moment} (hm : m.Exact)
    (hyear : 0 ≤ m.date.year ∧ m.date.year ≤ 9999) :
    -62167219200000 ≤ m.milliseconds ∧ m.milliseconds ≤ 253402300799999 := by
  have hday := Date.dayNumber_of_four_digits (Date.valid_ofDayNumber m.day) hyear
  rw [Date.dayNumber_ofDayNumber] at hday
  obtain ⟨hsecond, hnanos, hmillis⟩ := hm
  unfold milliseconds timestamp
  omega

/-- A count of milliseconds in these years is a moment. -/
theorem ofMilliseconds_of_bounds {ms : ℤ} (h : -62167219200000 ≤ ms ∧ ms ≤ 253402300799999) :
    ∃ m : Moment, ofMilliseconds ms = some m ∧ m.Exact ∧ m.milliseconds = ms := by
  refine ⟨ofTimestamp (ms / 1000) ((ms % 1000).toNat * 1000000), ?_, ?_, ?_⟩
  · unfold ofMilliseconds checked
    apply if_pos
    have hfirst : Date.dayNumber ⟨Date.minYear, 1, 1⟩ ≤ -719528 := by decide
    have hlast : 2932896 ≤ Date.dayNumber ⟨Date.maxYear, 12, 31⟩ := by decide
    unfold inRange ofTimestamp
    exact decide_eq_true ⟨by dsimp only; omega, by dsimp only; omega⟩
  · unfold ofTimestamp
    refine ⟨?_, ?_, ?_⟩
    all_goals
      dsimp only
      omega
  · unfold ofTimestamp milliseconds timestamp
    dsimp only
    omega

/-- A moment of whole milliseconds is told by their count. -/
theorem Exact.eq_of_milliseconds {m n : Moment} (hm : m.Exact) (hn : n.Exact)
    (h : m.milliseconds = n.milliseconds) : m = n := by
  obtain ⟨mday, msecond, mnanos⟩ := m
  obtain ⟨nday, nsecond, nnanos⟩ := n
  obtain ⟨hsecond, hnanos, hmillis⟩ := hm
  obtain ⟨hsecond', hnanos', hmillis'⟩ := hn
  unfold milliseconds timestamp at h
  dsimp only at *
  congr 1 <;> omega

theorem Exact.proper {m : Moment} (hm : m.Exact) : m.Proper := ⟨hm.second, .inl hm.nanos⟩

end Moment

/-! ## Ticks as a number -/

/-- The ticks of a count of milliseconds. -/
def exactTicks (ms : ℤ) : ℤ := ms * 10000 + 621355968000000000

/-- The ticks as they arrive where a number is read: a multiple of the last binary place. -/
def roundedTicks (ms : ℤ) : ℤ :=
  (exactTicks ms).sign * (Dyadic.nearestWhole (exactTicks ms).natAbs : ℤ)

/-- Rounding did not bring the ticks nearer to those of 1970. -/
def RoundedAway (ms : ℤ) : Prop :=
  (0 ≤ ms → exactTicks ms ≤ roundedTicks ms) ∧ (ms < 0 → roundedTicks ms ≤ exactTicks ms)

instance (ms : ℤ) : Decidable (RoundedAway ms) :=
  inferInstanceAs (Decidable ((0 ≤ ms → exactTicks ms ≤ roundedTicks ms) ∧
    (ms < 0 → roundedTicks ms ≤ exactTicks ms)))

section

variable {ms : ℤ} (h : -62167219200000 ≤ ms ∧ ms ≤ 253402300799999)
include h

theorem natAbs_exactTicks_lt : (exactTicks ms).natAbs < 2 ^ 62 := by
  unfold exactTicks
  omega

/-- Rounding loses less than a millisecond, and nothing every 32 milliseconds. -/
theorem roundedTicks_close : (roundedTicks ms - exactTicks ms).natAbs ≤ 256 ∧
    (32 ∣ ms → roundedTicks ms = exactTicks ms) := by
  obtain ⟨lower, upper, hexact⟩ := Dyadic.nearestWhole_close (natAbs_exactTicks_lt h)
  unfold roundedTicks
  rcases lt_trichotomy (exactTicks ms) 0 with hneg | hzero | hpos
  · rw [Int.sign_eq_neg_one_of_neg hneg, neg_one_mul]
    refine ⟨by omega, ?_⟩
    intro hdvd
    rw [hexact (by unfold exactTicks; omega)]
    omega
  · rw [hzero, Int.sign_zero, zero_mul]
    exact ⟨by decide, fun _ => rfl⟩
  · rw [Int.sign_eq_one_of_pos hpos, one_mul]
    refine ⟨by omega, ?_⟩
    intro hdvd
    rw [hexact (by unfold exactTicks; omega)]
    omega

/-- A number of ticks is read as the rounded count. -/
theorem integer?_exactTicks : (Value.ofInt (exactTicks ms)).integer? = some (roundedTicks ms) := by
  have hlt := natAbs_exactTicks_lt h
  have hclose := (roundedTicks_close h).1
  have hlog := log2_lt_of_lt (by decide) hlt
  change int64Value? (numberOfInt (exactTicks ms)) = _
  unfold int64Value?
  rw [wholeValue?_numberOfInt (by omega)]
  change (if int64Min ≤ roundedTicks ms ∧ roundedTicks ms ≤ int64Max + 1 then
    some (clampInt64 (roundedTicks ms)) else none) = _
  unfold clampInt64 int64Min int64Max
  rw [if_pos (by omega)]
  congr 1
  omega

/-- Division toward zero loses a millisecond when the ticks were rounded toward 1970. -/
theorem tdiv_roundedTicks : (roundedTicks ms - 621355968000000000).tdiv 10000 =
    if RoundedAway ms then ms else if 0 ≤ ms then ms - 1 else ms + 1 := by
  obtain ⟨hclose, hexact⟩ := roundedTicks_close h
  have hzero : ms = 0 → roundedTicks ms = exactTicks ms := by
    rintro rfl
    exact hexact (dvd_zero 32)
  have hvalue : exactTicks ms = ms * 10000 + 621355968000000000 := rfl
  have hside : RoundedAway ms ↔ (0 ≤ ms → exactTicks ms ≤ roundedTicks ms) ∧
      (ms < 0 → roundedTicks ms ≤ exactTicks ms) := Iff.rfl
  by_cases hnonneg : 0 ≤ roundedTicks ms - 621355968000000000
  · rw [Int.tdiv_eq_ediv_of_nonneg hnonneg]
    split_ifs with haway hpos <;> rw [hside] at haway <;> omega
  · obtain ⟨n, hn⟩ : ∃ n : ℤ, roundedTicks ms - 621355968000000000 = -n := ⟨_, (neg_neg _).symm⟩
    rw [hn, Int.neg_tdiv, Int.tdiv_eq_ediv_of_nonneg (by omega)]
    split_ifs with haway hpos <;> rw [hside] at haway <;> omega

end

/-! ## There and back -/

namespace Time

theorem iso_of_iso? {s : String} {m : Moment} (h : Timestamp.iso? s = some m) :
    iso [.text s] 0 = .ok m := by
  change withMessage (Timestamp.readIso s) = _
  rw [Timestamp.readIso, h]
  rfl

theorem ticks_of_iso? {s : String} {m : Moment} (h : Timestamp.iso? s = some m)
    (hbounds : -62167219200000 ≤ m.milliseconds ∧ m.milliseconds ≤ 253402300799999) :
    ticks [.text s] = .ok (.ofInt (exactTicks m.milliseconds)) := by
  have hfit : m.ticks? = some (exactTicks m.milliseconds) := by
    unfold Moment.ticks?
    have hfirst : fitInt64 (m.milliseconds * Moment.ticksPerMillisecond) =
        some (m.milliseconds * 10000) := by
      rw [fitInt64_eq_some_iff]
      unfold Moment.ticksPerMillisecond int64Min int64Max
      omega
    rw [hfirst]
    apply fitInt64_eq_some_iff.mpr
    unfold exactTicks Moment.epochTicks int64Min int64Max
    omega
  unfold ticks
  rw [iso_of_iso? h]
  simp only [bind, Except.bind, hfit]
  rfl

/-- A moment is written in the strict form where no format is given. -/
theorem render_isoText (v : Value) (m : Moment) :
    render [v] 1 UserFormat.isoPattern (.utc m) = .ok (.text (Timestamp.isoText m)) := by
  change (withMessage (Timestamp.write UserFormat.isoPattern (.utc m))).map Value.text = _
  unfold Timestamp.write Timestamp.isoText Pattern.render?
  rw [items?_isoPattern]
  rfl

theorem formatTicks_exactTicks {ms : ℤ}
    (h : -62167219200000 ≤ ms ∧ ms ≤ 253402300799999) {m : Moment}
    (hm : Moment.ofMilliseconds ((roundedTicks ms - 621355968000000000).tdiv 10000) = some m) :
    formatTicks [.ofInt (exactTicks ms)] = .ok (.text (Timestamp.isoText m)) := by
  have hclose := (roundedTicks_close h).1
  have hfit : fitInt64 (roundedTicks ms - Moment.epochTicks) =
      some (roundedTicks ms - 621355968000000000) := by
    rw [fitInt64_eq_some_iff]
    unfold exactTicks at hclose
    unfold Moment.epochTicks int64Min int64Max
    omega
  have hticks : Moment.ofTicks (roundedTicks ms) = some m := by
    rw [Moment.ofTicks, hfit]
    exact hm
  have harg : argument [.ofInt (exactTicks ms)] 0 = .ofInt (exactTicks ms) := rfl
  rw [formatTicks, harg, integer?_exactTicks h]
  dsimp only
  rw [hticks]
  exact render_isoText _ m

/-- A text in the strict form through its ticks and back. -/
def throughTicks (s : String) : Except String Value := do formatTicks [← ticks [.text s]]

/-- What comes back is the text of the moment whose milliseconds are read from the ticks. -/
theorem throughTicks_eq {s : String} {m near : Moment} (h : Timestamp.iso? s = some m)
    (hm : m.Exact)
    (hnear : Moment.ofMilliseconds
      ((roundedTicks m.milliseconds - 621355968000000000).tdiv 10000) = some near) :
    throughTicks s = .ok (.text (Timestamp.isoText near)) := by
  have hbounds := hm.milliseconds_bounds (Timestamp.proper_of_iso? h).2.2
  rw [throughTicks, ticks_of_iso? h hbounds]
  exact formatTicks_exactTicks hbounds hnear

/-- Timestamps in the strict form hold whole milliseconds. -/
theorem exact_of_iso? {s : String} {m : Moment} (h : Timestamp.iso? s = some m)
    (hleap : m.nanos < 1000000000) : m.Exact :=
  ⟨(Timestamp.proper_of_iso? h).2.1.second, hleap, Timestamp.millis_of_iso? h⟩

/-- **A timestamp comes back from its ticks unless they were rounded toward 1970**, and then the
millisecond next to it on that side comes back.  The count arrives within 256 ticks, and as it was
sent for every multiple of 32 milliseconds. -/
theorem throughTicks_iff {s : String} {m : Moment} (h : Timestamp.iso? s = some m)
    (hleap : m.nanos < 1000000000) :
    (throughTicks s = .ok (.text s) ↔ RoundedAway m.milliseconds) ∧
    (¬ RoundedAway m.milliseconds → ∃ near,
      Moment.ofMilliseconds (if 0 ≤ m.milliseconds then m.milliseconds - 1
        else m.milliseconds + 1) = some near ∧
      throughTicks s = .ok (.text (Timestamp.isoText near))) ∧
    (32 ∣ m.milliseconds → throughTicks s = .ok (.text s)) ∧
    (roundedTicks m.milliseconds - exactTicks m.milliseconds).natAbs ≤ 256 := by
  have hm := exact_of_iso? h hleap
  obtain ⟨htext, -, hyear⟩ := Timestamp.proper_of_iso? h
  have hbounds := hm.milliseconds_bounds hyear
  obtain ⟨hclose, hexact⟩ := roundedTicks_close hbounds
  have hread := tdiv_roundedTicks hbounds
  have hkept : RoundedAway m.milliseconds → throughTicks s = .ok (.text s) := by
    intro haway
    rw [if_pos haway] at hread
    obtain ⟨near, hnear, hexactNear, hms⟩ := Moment.ofMilliseconds_of_bounds hbounds
    obtain rfl := hexactNear.eq_of_milliseconds hm hms
    rw [throughTicks_eq h hm (by rw [hread, hnear]), htext]
  have hlost : ¬ RoundedAway m.milliseconds → ∃ near,
      Moment.ofMilliseconds (if 0 ≤ m.milliseconds then m.milliseconds - 1
        else m.milliseconds + 1) = some near ∧
      throughTicks s = .ok (.text (Timestamp.isoText near)) ∧ Timestamp.isoText near ≠ s := by
    intro htoward
    rw [if_neg htoward] at hread
    generalize hnext : (if 0 ≤ m.milliseconds then m.milliseconds - 1
      else m.milliseconds + 1) = next at hread ⊢
    have hnextBounds : -62167219200000 ≤ next ∧ next ≤ 253402300799999 := by
      split_ifs at hnext <;> omega
    obtain ⟨near, hnear, hexactNear, hms⟩ := Moment.ofMilliseconds_of_bounds hnextBounds
    refine ⟨near, hnear, throughTicks_eq h hm (by rw [hread, hnear]), ?_⟩
    intro hsame
    rw [← hsame] at h
    obtain rfl := Timestamp.eq_of_iso?_isoText hexactNear.proper hexactNear.millis h
    split_ifs at hnext <;> omega
  have hiff : throughTicks s = .ok (.text s) ↔ RoundedAway m.milliseconds := by
    refine ⟨?_, hkept⟩
    intro hsame
    by_contra htoward
    obtain ⟨near, -, hthrough, hne⟩ := hlost htoward
    rw [hsame, Except.ok.injEq, Value.text.injEq] at hthrough
    exact hne hthrough.symm
  refine ⟨hiff, ?_, ?_, hclose⟩
  · intro htoward
    obtain ⟨near, hnear, hthrough, -⟩ := hlost htoward
    exact ⟨near, hnear, hthrough⟩
  · intro hdvd
    rw [hiff, RoundedAway, hexact hdvd]
    exact ⟨fun _ => le_rfl, fun _ => le_rfl⟩

theorem throughTicks_full_hour :
    throughTicks "2018-03-15T13:00:00.000Z" = .ok (.text "2018-03-15T13:00:00.000Z") := by
  have hiso : Timestamp.iso? "2018-03-15T13:00:00.000Z" = some ⟨17605, 46800, 0⟩ := by
    decide +kernel
  exact (throughTicks_iff hiso (by decide)).2.2.1 (by decide)

/-- One millisecond later the ticks are rounded toward 1970. -/
theorem throughTicks_millisecond_lost :
    throughTicks "2018-03-15T13:00:00.001Z" = .ok (.text "2018-03-15T13:00:00.000Z") := by
  have hiso : Timestamp.iso? "2018-03-15T13:00:00.001Z" = some ⟨17605, 46800, 1000000⟩ := by
    decide +kernel
  have hnear : Moment.ofMilliseconds ((roundedTicks
      (Moment.milliseconds ⟨17605, 46800, 1000000⟩) - 621355968000000000).tdiv 10000) =
        some ⟨17605, 46800, 0⟩ := by
    decide +kernel
  have htext : Timestamp.isoText ⟨17605, 46800, 0⟩ = "2018-03-15T13:00:00.000Z" := by
    decide +kernel
  rw [throughTicks_eq hiso (exact_of_iso? hiso (by decide)) hnear, htext]

end Time

end StateExpr
