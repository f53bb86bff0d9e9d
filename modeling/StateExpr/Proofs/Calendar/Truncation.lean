import Mathlib.Data.Prod.Lex
import Mathlib.Order.Bounds.Basic
import StateExpr.Proofs.Calendar.Timestamp
import StateExpr.Proofs.Calendar.Units
/-!
# Truncation

A moment is truncated by setting one part of its reading after the other to the least it can be.
Each of these steps is refused when it leads to no reading of the clock or out of the years that are
kept, which never happens here; and what comes out is the greatest boundary that is not after the
moment.  That coarser and finer truncations agree then follows from what a greatest boundary is.

Main statements: `Moment.cuts_startOfHour?`, `Moment.cuts_startOfDay?`,
`Moment.cuts_startOfMonth?`, the laws of `Moment.Cuts`, and `Moment.truncation_consistent`.
-/

namespace StateExpr

namespace Moment

variable {m n : Moment}

/-! ## Order -/

/-- The place of a moment among all of them: its day, then the second, then the nanoseconds. -/
def place (m : Moment) : ℤ ×ₗ ℕ ×ₗ ℕ := toLex (m.day, toLex (m.second, m.nanos))

theorem place_injective : Function.Injective place := by
  rintro ⟨day, second, nanos⟩ ⟨day', second', nanos'⟩ h
  obtain ⟨hday, h⟩ := Prod.mk.inj (toLex.injective h)
  obtain ⟨hsecond, hnanos⟩ := Prod.mk.inj (toLex.injective h)
  subst hday hsecond hnanos
  rfl

instance : LinearOrder Moment := LinearOrder.lift' place place_injective

theorem le_iff : m ≤ n ↔ m.day < n.day ∨ m.day = n.day ∧
    (m.second < n.second ∨ m.second = n.second ∧ m.nanos ≤ n.nanos) := by
  change place m ≤ place n ↔ _
  rw [place, place, Prod.Lex.toLex_le_toLex, Prod.Lex.toLex_le_toLex]

/-! ## Setting one part -/

/-- A reading on a day that is kept is kept. -/
theorem checked_of_day (hm : m.inRange = true) (second nanos : ℕ) :
    (⟨m.day, second, nanos⟩ : Moment).checked = some ⟨m.day, second, nanos⟩ :=
  if_pos hm

theorem startOfHour?_eq (hm : m.inRange = true) : m.startOfHour? = some m.startOfHour := by
  have hminute : m.withMinute? 0 = some ⟨m.day, m.hour * 3600 + 0 * 60 + m.second % 60, m.nanos⟩ :=
    (if_pos (by decide)).trans (checked_of_day hm _ _)
  have hsecond (s n : ℕ) : withSecond? ⟨m.day, s, n⟩ 0 = some ⟨m.day, s / 60 * 60 + 0, n⟩ :=
    (if_pos (by decide)).trans (checked_of_day hm _ _)
  have hnanos (s n : ℕ) : withNanosecond? ⟨m.day, s, n⟩ 0 = some ⟨m.day, s, 0⟩ :=
    (if_pos (by decide)).trans (checked_of_day hm _ _)
  have hhour : (m.hour * 3600 + 0 * 60 + m.second % 60) / 60 * 60 + 0 = m.hour * 3600 := by omega
  simp only [startOfHour?, Option.bind_eq_bind, hminute, Option.bind_some, hsecond, hnanos, hhour]
  rfl

theorem startOfDay?_eq (hm : m.inRange = true) : m.startOfDay? = some m.startOfDay := by
  have hhour : m.withHour? 0 = some ⟨m.day, 0 * 3600 + m.second % 3600, m.nanos⟩ :=
    (if_pos (by decide)).trans (checked_of_day hm _ _)
  have hrest := startOfHour?_eq (m := ⟨m.day, 0 * 3600 + m.second % 3600, m.nanos⟩) hm
  have hday : startOfHour ⟨m.day, 0 * 3600 + m.second % 3600, m.nanos⟩ = m.startOfDay := by
    unfold startOfHour startOfDay hour
    dsimp only
    congr 1
    omega
  rw [startOfDay?, hhour, ← hday, ← hrest]
  rfl

/-- The first day of the month of a date. -/
def firstOfMonth (m : Moment) : Date := { m.date with day := 1 }

theorem valid_firstOfMonth (m : Moment) : m.firstOfMonth.Valid := by
  obtain ⟨hfirst, hlast, hday, hlength⟩ := Date.valid_ofDayNumber m.day
  exact ⟨hfirst, hlast, Nat.le_refl 1, hday.trans hlength⟩

theorem date_startOfMonth (m : Moment) : m.startOfMonth.date = m.firstOfMonth :=
  Date.ofDayNumber_dayNumber m.valid_firstOfMonth

theorem inRange_startOfMonth (hm : m.inRange = true) : m.startOfMonth.inRange = true := by
  rw [inRange_iff] at hm ⊢
  rw [date_startOfMonth]
  exact hm

theorem startOfMonth?_eq (hm : m.inRange = true) : m.startOfMonth? = some m.startOfMonth := by
  have hkept := inRange_startOfMonth hm
  have hdate : m.firstOfMonth.checked = some m.firstOfMonth :=
    if_pos ⟨m.valid_firstOfMonth, inRange_iff.mp hm⟩
  have hday : m.withDay? 1 = some ⟨m.startOfMonth.day, m.second, m.nanos⟩ := by
    rw [withDay?]
    change (m.firstOfMonth.checked >>= _) = _
    rw [hdate]
    exact checked_of_day hkept _ _
  rw [startOfMonth?, hday]
  exact startOfDay?_eq (m := ⟨m.startOfMonth.day, m.second, m.nanos⟩) hkept

/-! ## Boundaries -/

/-- A full hour. -/
def AtHour (m : Moment) : Prop := m.second % 3600 = 0 ∧ m.nanos = 0

/-- The start of a day. -/
def AtDay (m : Moment) : Prop := m.second = 0 ∧ m.nanos = 0

/-- The start of a month. -/
def AtMonth (m : Moment) : Prop := m.date.day = 1 ∧ m.AtDay

theorem AtDay.atHour (h : m.AtDay) : m.AtHour := ⟨by rw [h.1], h.2⟩

theorem AtDay.proper (h : m.AtDay) : m.Proper :=
  ⟨by rw [h.1]; decide, .inl (by rw [h.2]; decide)⟩

/-- The first day of a month is the only first day since then. -/
theorem day_le_of_first (hday : n.date.day = 1) (hle : n.day ≤ m.day) :
    n.day ≤ m.startOfMonth.day := by
  by_contra hlater
  have hm : m.date.Valid := Date.valid_ofDayNumber m.day
  have hnumber : ∀ k, Date.dayNumber { m.date with day := k } = m.startOfMonth.day + (k - 1) := by
    intro k
    change Date.dayNumber _ = Date.dayNumber _ + _
    unfold Date.dayNumber
    dsimp only
    omega
  have hself : m.startOfMonth.day + (m.date.day - 1 : ℤ) = m.day :=
    (hnumber m.date.day).symm.trans (Date.dayNumber_ofDayNumber m.day)
  -- a later day of the month has a later number in it
  obtain ⟨k, hk⟩ : ∃ k : ℕ, n.day = m.startOfMonth.day + (k + 1 - 1 : ℤ) ∧ 0 < k :=
    ⟨(n.day - m.startOfMonth.day).toNat, by omega⟩
  have hvalid : Date.Valid { m.date with day := k + 1 } := by
    obtain ⟨hfirst, hlast, -, hlength⟩ := hm
    exact ⟨hfirst, hlast, by dsimp only; omega, by dsimp only; omega⟩
  have hdate : n.date = { m.date with day := k + 1 } := by
    have := Date.ofDayNumber_dayNumber hvalid
    rw [hnumber, Nat.cast_succ, ← hk.1] at this
    exact this
  rw [hdate] at hday
  dsimp only at hday
  omega

/-! ## Greatest boundaries -/

/-- Truncation succeeds and gives the greatest boundary that is not after the moment, in a year that
is kept. -/
def Cuts (f : Moment → Option Moment) (Boundary : Moment → Prop) : Prop :=
  ∀ m : Moment, m.Proper → m.inRange = true →
    ∃ s, f m = some s ∧ s.inRange = true ∧ IsGreatest {b | b.Proper ∧ Boundary b ∧ b ≤ m} s

theorem cuts_startOfHour? : Cuts startOfHour? AtHour := by
  intro m hm hkept
  have hsecond := hm.second
  refine ⟨_, startOfHour?_eq hkept, hkept, ⟨?_, ?_, ?_⟩, ?_⟩
  · refine ⟨?_, .inl (Nat.succ_pos _)⟩
    change m.second / 3600 * 3600 < 86400
    omega
  · exact ⟨Nat.mul_mod_left _ _, rfl⟩
  · rw [le_iff]
    change m.day < m.day ∨ m.day = m.day ∧
      (m.second / 3600 * 3600 < m.second ∨ m.second / 3600 * 3600 = m.second ∧ 0 ≤ m.nanos)
    omega
  · rintro b ⟨-, ⟨hhour, hnanos⟩, hle⟩
    rw [le_iff] at hle ⊢
    change b.day < m.day ∨ b.day = m.day ∧
      (b.second < m.second / 3600 * 3600 ∨ b.second = m.second / 3600 * 3600 ∧ b.nanos ≤ 0)
    omega

theorem cuts_startOfDay? : Cuts startOfDay? AtDay := by
  intro m hm hkept
  have hday : m.startOfDay.AtDay := ⟨rfl, rfl⟩
  refine ⟨_, startOfDay?_eq hkept, hkept, ⟨hday.proper, hday, ?_⟩, ?_⟩
  · rw [le_iff]
    change m.day < m.day ∨ m.day = m.day ∧ (0 < m.second ∨ 0 = m.second ∧ 0 ≤ m.nanos)
    omega
  · rintro b ⟨-, ⟨hsecond, hnanos⟩, hle⟩
    rw [le_iff] at hle ⊢
    change b.day < m.day ∨ b.day = m.day ∧ (b.second < 0 ∨ b.second = 0 ∧ b.nanos ≤ 0)
    omega

theorem cuts_startOfMonth? : Cuts startOfMonth? AtMonth := by
  intro m hm hkept
  have hday : m.startOfMonth.AtDay := ⟨rfl, rfl⟩
  refine ⟨_, startOfMonth?_eq hkept, inRange_startOfMonth hkept,
    ⟨hday.proper, ⟨?_, hday⟩, ?_⟩, ?_⟩
  · rw [date_startOfMonth]
    rfl
  · have hfirst : m.startOfMonth.day ≤ m.day := by
      have hself := Date.dayNumber_ofDayNumber m.day
      have hdate := (Date.valid_ofDayNumber m.day).2.2.1
      unfold startOfMonth date
      unfold Date.dayNumber at hself ⊢
      dsimp only at hself ⊢
      omega
    rw [le_iff, hday.1, hday.2]
    omega
  · rintro b ⟨-, ⟨hfirst, hsecond, hnanos⟩, hle⟩
    have hbefore : b.day ≤ m.day := by
      rw [le_iff] at hle
      omega
    have hmonth := day_le_of_first hfirst hbefore
    rw [le_iff, hday.1, hday.2]
    omega

section Laws

variable {f g : Moment → Option Moment} {Boundary Finer : Moment → Prop} {s t : Moment}

/-- A boundary is not cut once more. -/
theorem Cuts.of_boundary (hf : Cuts f Boundary) (hm : m.Proper) (hkept : m.inRange = true)
    (h : Boundary m) : f m = some m := by
  obtain ⟨s, hs, -, hgreatest⟩ := hf m hm hkept
  have hself : IsGreatest {b | b.Proper ∧ Boundary b ∧ b ≤ m} m :=
    ⟨⟨hm, h, le_refl m⟩, fun b hb => hb.2.2⟩
  rw [hs, hgreatest.unique hself]

variable (hcoarser : ∀ b, Boundary b → Finer b)
include hcoarser

/-- What is cut coarser is not after what is cut finer. -/
theorem Cuts.le_of_coarser (hs : IsGreatest {b | b.Proper ∧ Boundary b ∧ b ≤ m} s)
    (ht : IsGreatest {b | b.Proper ∧ Finer b ∧ b ≤ m} t) : s ≤ t :=
  ht.2 ⟨hs.1.1, hcoarser s hs.1.2.1, hs.1.2.2⟩

/-- Cutting finer first makes no difference. -/
theorem Cuts.absorbs (hf : Cuts f Boundary) (ht : IsGreatest {b | b.Proper ∧ Finer b ∧ b ≤ m} t)
    (hkept : t.inRange = true) (hs : IsGreatest {b | b.Proper ∧ Boundary b ∧ b ≤ m} s) :
    f t = some s := by
  obtain ⟨u, hu, -, hgreatest⟩ := hf t ht.1.1 hkept
  have hsame : {b | b.Proper ∧ Boundary b ∧ b ≤ t} = {b | b.Proper ∧ Boundary b ∧ b ≤ m} := by
    ext b
    refine and_congr_right fun hb => and_congr_right fun hboundary => ?_
    exact ⟨fun h => h.trans ht.1.2.2, fun h => ht.2 ⟨hb, hcoarser b hboundary, h⟩⟩
  rw [hsame] at hgreatest
  rw [hu, hgreatest.unique hs]

end Laws

end Moment

/-- A truncation that succeeds is what the operator writes. -/
theorem Time.startOf_eq_render {f : Moment → Option Moment} {args : List Value} {m s : Moment}
    (hread : iso args 0 = .ok m) (hs : f m = some s) :
    startOf f args = render args 1 UserFormat.defaultPattern (.utc s) := by
  unfold startOf
  rw [hread]
  simp only [bind, Except.bind, hs]

namespace Moment

/-- **Truncations agree.**  Every moment in a year that is kept, those of four digits and leap
seconds included, can be truncated to its month, its day and its hour, and each time the result is
the greatest such boundary that is not after it.  The coarser the unit the earlier the result, a
second truncation changes nothing, and a coarser one absorbs a finer one before it.  The operators
write these boundaries. -/
theorem truncation_consistent {m : Moment} (hm : m.Proper)
    (hyear : Date.minYear ≤ m.date.year ∧ m.date.year ≤ Date.maxYear) :
    ∃ month day hour, m.startOfMonth? = some month ∧ m.startOfDay? = some day ∧
      m.startOfHour? = some hour ∧
      month ≤ day ∧ day ≤ hour ∧ hour ≤ m ∧
      IsGreatest {b | b.Proper ∧ b.AtMonth ∧ b ≤ m} month ∧
      IsGreatest {b | b.Proper ∧ b.AtDay ∧ b ≤ m} day ∧
      IsGreatest {b | b.Proper ∧ b.AtHour ∧ b ≤ m} hour ∧
      month.startOfMonth? = some month ∧ day.startOfDay? = some day ∧
      hour.startOfHour? = some hour ∧
      day.startOfMonth? = some month ∧ hour.startOfDay? = some day ∧
      ∀ args, Time.iso args 0 = .ok m →
        Time.startOf startOfMonth? args =
          Time.render args 1 UserFormat.defaultPattern (.utc month) ∧
        Time.startOf startOfDay? args = Time.render args 1 UserFormat.defaultPattern (.utc day) ∧
        Time.startOf startOfHour? args =
          Time.render args 1 UserFormat.defaultPattern (.utc hour) := by
  have hkept := inRange_iff.mpr hyear
  obtain ⟨month, hmonth, hmonthKept, hmonthGreatest⟩ := cuts_startOfMonth? m hm hkept
  obtain ⟨day, hday, hdayKept, hdayGreatest⟩ := cuts_startOfDay? m hm hkept
  obtain ⟨hour, hhour, hhourKept, hhourGreatest⟩ := cuts_startOfHour? m hm hkept
  have hmonthDay (b : Moment) (h : b.AtMonth) : b.AtDay := h.2
  have hdayHour (b : Moment) (h : b.AtDay) : b.AtHour := h.atHour
  refine ⟨month, day, hour, hmonth, hday, hhour, ?_, ?_, hhourGreatest.1.2.2, hmonthGreatest,
    hdayGreatest, hhourGreatest, ?_, ?_, ?_, ?_, ?_, ?_⟩
  · exact Cuts.le_of_coarser hmonthDay hmonthGreatest hdayGreatest
  · exact Cuts.le_of_coarser hdayHour hdayGreatest hhourGreatest
  · exact cuts_startOfMonth?.of_boundary hmonthGreatest.1.1 hmonthKept hmonthGreatest.1.2.1
  · exact cuts_startOfDay?.of_boundary hdayGreatest.1.1 hdayKept hdayGreatest.1.2.1
  · exact cuts_startOfHour?.of_boundary hhourGreatest.1.1 hhourKept hhourGreatest.1.2.1
  · exact Cuts.absorbs hmonthDay cuts_startOfMonth? hdayGreatest hdayKept hmonthGreatest
  · exact Cuts.absorbs hdayHour cuts_startOfDay? hhourGreatest hhourKept hdayGreatest
  · intro args hread
    exact ⟨Time.startOf_eq_render hread hmonth, Time.startOf_eq_render hread hday,
      Time.startOf_eq_render hread hhour⟩

/-- The middle of a leap second at the end of the year zero. -/
theorem truncation_of_leap_second :
    let m : Moment := ⟨-719163, 86399, 1500000000⟩
    m.Proper ∧ m.date = ⟨0, 12, 31⟩ ∧ m.startOfMonth? = some ⟨-719193, 0, 0⟩ ∧
      m.startOfDay? = some ⟨-719163, 0, 0⟩ ∧ m.startOfHour? = some ⟨-719163, 82800, 0⟩ ∧
      IsGreatest {b | b.Proper ∧ b.AtMonth ∧ b ≤ m} ⟨-719193, 0, 0⟩ ∧
      startOfMonth? ⟨-719163, 0, 0⟩ = some ⟨-719193, 0, 0⟩ := by
  intro m
  have hm : m.Proper := ⟨by decide, .inr (by decide)⟩
  have hdate : m.date = ⟨0, 12, 31⟩ := by decide +kernel
  obtain ⟨month, day, hour, hmonth, hday, hhour, -, -, -, hgreatest, -, -, -, -, -, habsorbs, -⟩ :=
    truncation_consistent hm (by rw [hdate]; decide)
  obtain rfl : month = ⟨-719193, 0, 0⟩ := by
    apply Option.some.inj
    rw [← hmonth]
    decide +kernel
  obtain rfl : day = ⟨-719163, 0, 0⟩ := by
    apply Option.some.inj
    rw [← hday]
    decide +kernel
  refine ⟨hm, hdate, hmonth, hday, ?_, hgreatest, habsorbs⟩
  decide +kernel

end Moment

end StateExpr
