import StateExpr.Calendar.Date
import Mathlib.Algebra.Order.Ring.Int
/-!
# Days and dates

A year holds the days from its first one up to that of the next year, a month those of its year
that the table of the months before it names.  Both are found by dividing and counting, so each day
has exactly one date of the calendar.

Main statements: `dayNumber_ofDayNumber`, `valid_ofDayNumber` and `ofDayNumber_dayNumber`.
-/

namespace StateExpr.Date

/-! ## Years -/

theorem isLeap_iff {year : ℤ} :
    isLeap year = true ↔ 4 ∣ year ∧ (¬ 100 ∣ year ∨ 400 ∣ year) := by
  simp only [isLeap, Bool.and_eq_true, Bool.or_eq_true, beq_iff_eq, bne_iff_ne, ne_eq]
  omega

/-- The length of a year. -/
def daysInYear (year : ℤ) : ℕ := if isLeap year then 366 else 365

theorem daysBeforeYear_succ (year : ℤ) :
    daysBeforeYear (year + 1) = daysBeforeYear year + daysInYear year := by
  unfold daysBeforeYear daysInYear
  split
  · rename_i h
    rw [isLeap_iff] at h
    dsimp only
    omega
  · rename_i h
    rw [isLeap_iff] at h
    dsimp only
    omega

theorem daysBeforeYear_mono {a b : ℤ} (h : a ≤ b) : daysBeforeYear a ≤ daysBeforeYear b := by
  unfold daysBeforeYear
  dsimp only
  omega

/-- Days before a year by its place in its cycle, its century and its four years. -/
theorem daysBeforeYear_eq (cycle century four rest : ℤ) (hcentury : 0 ≤ century ∧ century ≤ 3)
    (hfour : 0 ≤ four ∧ four ≤ 24) (hrest : 0 ≤ rest ∧ rest ≤ 3) :
    daysBeforeYear (400 * cycle + 100 * century + 4 * four + rest + 1) =
      146097 * cycle + 36524 * century + 1461 * four + 365 * rest := by
  unfold daysBeforeYear
  dsimp only
  omega

/-- The year that is computed for a day holds it. -/
theorem yearOfDay_bounds (z : ℤ) :
    daysBeforeYear (yearOfDay z) ≤ z ∧ z < daysBeforeYear (yearOfDay z + 1) := by
  unfold yearOfDay
  dsimp only
  generalize hcycle : z / 146097 = cycle
  generalize hcentury : min (z % 146097 / 36524) 3 = century
  generalize hfour : (z % 146097 - century * 36524) / 1461 = four
  generalize hrest : min ((z % 146097 - century * 36524) % 1461 / 365) 3 = rest
  have hcentury' : 0 ≤ century ∧ century ≤ 3 := by omega
  have hfour' : 0 ≤ four ∧ four ≤ 24 := by omega
  have hrest' : 0 ≤ rest ∧ rest ≤ 3 := by omega
  rw [daysBeforeYear_succ (_ + rest + 1), daysBeforeYear_eq _ _ _ _ hcentury' hfour' hrest']
  have hleap : rest = 3 → (four ≠ 24 ∨ century = 3) →
      isLeap (400 * cycle + 100 * century + 4 * four + rest + 1) = true := by
    intro h3 hlast
    rw [isLeap_iff]
    omega
  unfold daysInYear
  split
  · push_cast
    omega
  · push_cast
    rename_i hcommon
    by_cases h3 : rest = 3
    · by_cases hlast : four ≠ 24 ∨ century = 3
      · exact absurd (hleap h3 hlast) hcommon
      · omega
    · omega

theorem yearOfDay_eq {z year : ℤ} (h : daysBeforeYear year ≤ z)
    (h' : z < daysBeforeYear (year + 1)) : yearOfDay z = year := by
  obtain ⟨lower, upper⟩ := yearOfDay_bounds z
  by_contra hne
  rcases lt_or_gt_of_ne hne with hlt | hgt
  · have := daysBeforeYear_mono (show yearOfDay z + 1 ≤ year by omega)
    omega
  · have := daysBeforeYear_mono (show year + 1 ≤ yearOfDay z by omega)
    omega

/-! ## Months -/

/-- Days before a month by whether the year has a 29th of February. -/
def daysBeforeIn (leap : Bool) (month : ℕ) : ℕ :=
  daysBefore.getD (month - 1) 365 + if leap && decide (2 < month) then 1 else 0

theorem daysBeforeMonth_eq (year : ℤ) (month : ℕ) :
    daysBeforeMonth year month = daysBeforeIn (isLeap year) month := rfl

/-- The length of a month, name by name. -/
def monthLength (leap : Bool) (month : ℕ) : ℕ :=
  if month = 2 then (if leap then 29 else 28)
  else if month = 4 ∨ month = 6 ∨ month = 9 ∨ month = 11 then 30
  else 31

/-- The last day of a month by the rule of the calendar: in every fourth year February has a 29th,
but of the centuries only in every fourth. -/
def lastDay (year : ℤ) (month : ℕ) : ℕ :=
  if month = 2 then (if 4 ∣ year ∧ (¬ 100 ∣ year ∨ 400 ∣ year) then 29 else 28)
  else if month = 4 ∨ month = 6 ∨ month = 9 ∨ month = 11 then 30
  else 31

theorem monthLength_isLeap (year : ℤ) (month : ℕ) :
    monthLength (isLeap year) month = lastDay year month := by
  simp only [monthLength, lastDay, isLeap_iff]

theorem lastDay_le (year : ℤ) (month : ℕ) : lastDay year month ≤ 31 := by
  unfold lastDay
  split_ifs <;> omega

theorem daysBeforeIn_succ : ∀ (leap : Bool) (month : Fin 13), 1 ≤ month.val →
    daysBeforeIn leap (month + 1) = daysBeforeIn leap month + monthLength leap month := by
  decide

theorem daysInMonth_eq {year : ℤ} {month : ℕ} (h : 1 ≤ month ∧ month ≤ 12) :
    daysInMonth year month = lastDay year month := by
  have hnext := daysBeforeIn_succ (isLeap year) ⟨month, by omega⟩ h.1
  dsimp only at hnext
  rw [daysInMonth, daysBeforeMonth_eq, daysBeforeMonth_eq, hnext, Nat.add_sub_cancel_left,
    monthLength_isLeap]

theorem valid_iff {d : Date} : d.Valid ↔
    1 ≤ d.month ∧ d.month ≤ 12 ∧ 1 ≤ d.day ∧ d.day ≤ lastDay d.year d.month := by
  constructor
  · rintro ⟨hfirst, hlast, hday, hlength⟩
    exact ⟨hfirst, hlast, hday, daysInMonth_eq ⟨hfirst, hlast⟩ ▸ hlength⟩
  · rintro ⟨hfirst, hlast, hday, hlength⟩
    exact ⟨hfirst, hlast, hday, (daysInMonth_eq ⟨hfirst, hlast⟩).symm ▸ hlength⟩

/-- The month that is computed for a day of the year holds it. -/
theorem monthOfDay_bounds : ∀ (leap : Bool) (n : Fin 366), (n.val < if leap then 366 else 365) →
    let month := ((List.range 12).filter fun m => daysBeforeIn leap (m + 1) ≤ n.val).length
    1 ≤ month ∧ month ≤ 12 ∧ daysBeforeIn leap month ≤ n.val ∧
      n.val < daysBeforeIn leap month + monthLength leap month := by
  decide +kernel

/-- The months of a year lie inside it, and a day of a month is in no other. -/
theorem monthOfDay_eq : ∀ (leap : Bool) (month : Fin 13), 1 ≤ month.val →
    daysBeforeIn leap month + monthLength leap month ≤ (if leap then 366 else 365) ∧
    ∀ day : Fin 31, day.val < monthLength leap month →
      ((List.range 12).filter fun m =>
        daysBeforeIn leap (m + 1) ≤ daysBeforeIn leap month + day.val).length = month.val := by
  decide +kernel

/-! ## Days -/

/-- The date of a day: its year and its month hold it. -/
theorem ofDayNumber_spec (n : ℤ) :
    (ofDayNumber n).Valid ∧ (ofDayNumber n).dayNumber = n := by
  obtain ⟨lower, upper⟩ := yearOfDay_bounds (n + epochDays)
  rw [daysBeforeYear_succ] at upper
  generalize hyear : yearOfDay (n + epochDays) = year at lower upper
  generalize hdays : (n + epochDays - daysBeforeYear year).toNat = days
  have hbound : days < daysInYear year := by omega
  have hlt : days < 366 := by
    unfold daysInYear at hbound
    split at hbound <;> omega
  obtain ⟨hfirst, hlast, hbefore, hwithin⟩ := monthOfDay_bounds (isLeap year) ⟨days, hlt⟩ hbound
  change 1 ≤ monthOfDay year days at hfirst
  change monthOfDay year days ≤ 12 at hlast
  change daysBeforeIn (isLeap year) (monthOfDay year days) ≤ days at hbefore
  change days < daysBeforeIn (isLeap year) (monthOfDay year days) +
    monthLength (isLeap year) (monthOfDay year days) at hwithin
  have hdate : ofDayNumber n = ⟨year, monthOfDay year days,
      days - daysBeforeMonth year (monthOfDay year days) + 1⟩ := by
    unfold ofDayNumber
    dsimp only
    rw [hyear, hdays]
  rw [hdate, daysBeforeMonth_eq]
  constructor
  · rw [monthLength_isLeap] at hwithin
    rw [valid_iff]
    dsimp only
    omega
  · unfold dayNumber
    dsimp only
    rw [daysBeforeMonth_eq]
    omega

theorem dayNumber_ofDayNumber (n : ℤ) : (ofDayNumber n).dayNumber = n := (ofDayNumber_spec n).2

theorem valid_ofDayNumber (n : ℤ) : (ofDayNumber n).Valid := (ofDayNumber_spec n).1

theorem dayNumber_add_epochDays {d : Date} (h : 1 ≤ d.day) : d.dayNumber + epochDays =
    daysBeforeYear d.year + (daysBeforeIn (isLeap d.year) d.month + (d.day - 1) : ℕ) := by
  unfold dayNumber
  rw [daysBeforeMonth_eq]
  push_cast
  omega

/-- The year of a date holds its day. -/
theorem dayNumber_bounds {d : Date} (h : d.Valid) :
    daysBeforeYear d.year ≤ d.dayNumber + epochDays ∧
      d.dayNumber + epochDays < daysBeforeYear (d.year + 1) := by
  obtain ⟨hfirst, hlast, hday, hlength⟩ := valid_iff.mp h
  have hinside := (monthOfDay_eq (isLeap d.year) ⟨d.month, by omega⟩ hfirst).1
  dsimp only at hinside
  rw [monthLength_isLeap] at hinside
  rw [dayNumber_add_epochDays hday, daysBeforeYear_succ, daysInYear]
  omega

/-- **A date is the date of its day.** -/
theorem ofDayNumber_dayNumber {d : Date} (h : d.Valid) : ofDayNumber d.dayNumber = d := by
  obtain ⟨hfirst, hlast, hday, hlength⟩ := valid_iff.mp h
  obtain ⟨hstart, hend⟩ := dayNumber_bounds h
  have hshort := lastDay_le d.year d.month
  have hmonth : monthOfDay d.year (daysBeforeIn (isLeap d.year) d.month + (d.day - 1)) = d.month :=
    (monthOfDay_eq (isLeap d.year) ⟨d.month, by omega⟩ hfirst).2 ⟨d.day - 1, by omega⟩
      (by rw [monthLength_isLeap]; dsimp only; omega)
  unfold ofDayNumber
  dsimp only
  rw [yearOfDay_eq hstart hend, dayNumber_add_epochDays hday, add_sub_cancel_left,
    Int.toNat_natCast, hmonth, daysBeforeMonth_eq, Nat.add_sub_cancel_left, Nat.sub_add_cancel hday]

/-- The days of the years that four digits write. -/
theorem dayNumber_of_four_digits {d : Date} (h : d.Valid) (hyear : 0 ≤ d.year ∧ d.year ≤ 9999) :
    -719528 ≤ d.dayNumber ∧ d.dayNumber ≤ 2932896 := by
  obtain ⟨hstart, hend⟩ := dayNumber_bounds h
  have hfirst := daysBeforeYear_mono hyear.1
  have hlast := daysBeforeYear_mono (show d.year + 1 ≤ 10000 by omega)
  have hends : daysBeforeYear 0 = -366 ∧ daysBeforeYear 10000 = 3652059 := by decide
  unfold epochDays at hstart hend
  omega

/-- A year has begun on a day when the day lies in it or in a later one. -/
theorem daysBeforeYear_le_iff {d : Date} (h : d.Valid) (year : ℤ) :
    daysBeforeYear year ≤ d.dayNumber + epochDays ↔ year ≤ d.year := by
  obtain ⟨hstart, hend⟩ := dayNumber_bounds h
  constructor
  · intro hyear
    by_contra hlater
    have hmono := daysBeforeYear_mono (show d.year + 1 ≤ year by omega)
    omega
  · intro hyear
    have hmono := daysBeforeYear_mono hyear
    omega

/-- The days that are kept are those of the years that are kept. -/
theorem kept_iff {d : Date} (h : d.Valid) :
    dayNumber ⟨minYear, 1, 1⟩ ≤ d.dayNumber ∧ d.dayNumber ≤ dayNumber ⟨maxYear, 12, 31⟩ ↔
      minYear ≤ d.year ∧ d.year ≤ maxYear := by
  have hfirst : dayNumber ⟨minYear, 1, 1⟩ = daysBeforeYear minYear - epochDays := by decide
  have hlast : dayNumber ⟨maxYear, 12, 31⟩ = daysBeforeYear (maxYear + 1) - epochDays - 1 := by
    decide
  have hbegun := daysBeforeYear_le_iff h minYear
  have hover := daysBeforeYear_le_iff h (maxYear + 1)
  rw [hfirst, hlast]
  omega

/-! ## Months on -/

theorem lastDay_pos (year : ℤ) (month : ℕ) : 1 ≤ lastDay year month := by
  unfold lastDay
  split_ifs <;> omega

/-- The months since the start of year zero grow by what is added. -/
theorem addMonths_months (d : Date) (months : ℤ) :
    12 * (d.addMonths months).year + (d.addMonths months).month =
      12 * d.year + d.month + months := by
  unfold addMonths
  dsimp only
  omega

theorem addMonths_day (d : Date) (months : ℤ) : (d.addMonths months).day =
    min d.day (lastDay (d.addMonths months).year (d.addMonths months).month) := by
  have hmonth : 1 ≤ (d.addMonths months).month ∧ (d.addMonths months).month ≤ 12 := by
    unfold addMonths
    dsimp only
    omega
  rw [← daysInMonth_eq hmonth]
  rfl

theorem addMonths_valid {d : Date} (h : d.Valid) (months : ℤ) : (d.addMonths months).Valid := by
  have hday := h.2.2.1
  have hlast := lastDay_pos (d.addMonths months).year (d.addMonths months).month
  rw [valid_iff, addMonths_day]
  refine ⟨?_, ?_, by omega, Nat.min_le_right _ _⟩
  all_goals
    unfold addMonths
    dsimp only
    omega

end StateExpr.Date
