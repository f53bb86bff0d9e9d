import StateExpr.Calendar.Fault
import StateExpr.Proofs.Calendar.Date
import StateExpr.Proofs.Number.Digits
import Mathlib.Data.List.TakeDrop
import Mathlib.Data.List.TakeWhile
/-!
# The strict form of timestamps

A canonical timestamp is seven numbers in fixed places.  The numbers of a legal one name a moment,
and a proper moment in a year of four digits has such numbers; both ways are inverse to each other,
milliseconds being all that is written.  The strict parser reads a timestamp of RFC 3339 and
compares what would be written for it with the text, so the offset has to be zero and every number
has to have its width.  Clocks of zones write the same numbers with their offset behind.

Main statements: `Timestamp.rfc3339?_charsWith`, `Timestamp.rfc3339?_spec` and
`Timestamp.iso?_inverts_isoText`.
-/

namespace StateExpr

/-! ## The canonical form -/

/-- The numbers of a canonical timestamp. -/
structure IsoFields where
  year : ℕ
  month : ℕ
  day : ℕ
  hour : ℕ
  minute : ℕ
  second : ℕ
  millis : ℕ

namespace IsoFields

/-- A day of the calendar and a time of that day; second 60 is a leap second. -/
structure Legal (f : IsoFields) : Prop where
  year : f.year ≤ 9999
  month : 1 ≤ f.month ∧ f.month ≤ 12
  day : 1 ≤ f.day ∧ f.day ≤ Date.lastDay f.year f.month
  hour : f.hour ≤ 23
  minute : f.minute ≤ 59
  second : f.second ≤ 60
  millis : f.millis ≤ 999

/-- The letter of universal time behind a point and three places. -/
def fractionChars (f : IsoFields) : List Char := '.' :: (paddedDigits 3 f.millis ++ ['Z'])

/-- The clock, as in `HH:mm:ss.fffZ`. -/
def clockChars (f : IsoFields) : List Char :=
  paddedDigits 2 f.hour ++ ':' ::
    (paddedDigits 2 f.minute ++ ':' :: (paddedDigits 2 f.second ++ f.fractionChars))

/-- The form `YYYY-MM-DDTHH:mm:ss.fffZ`. -/
def chars (f : IsoFields) : List Char :=
  paddedDigits 4 f.year ++ '-' ::
    (paddedDigits 2 f.month ++ '-' :: (paddedDigits 2 f.day ++ 'T' :: f.clockChars))

/-- The form with a text for the zone behind it, which may be another than universal time. -/
def charsWith (f : IsoFields) (zone : List Char) : List Char :=
  paddedDigits 4 f.year ++ '-' :: (paddedDigits 2 f.month ++ '-' :: (paddedDigits 2 f.day ++ 'T' ::
    (paddedDigits 2 f.hour ++ ':' :: (paddedDigits 2 f.minute ++ ':' ::
      (paddedDigits 2 f.second ++ '.' :: (paddedDigits 3 f.millis ++ zone))))))

theorem chars_eq_charsWith (f : IsoFields) : f.chars = f.charsWith ['Z'] := rfl

def date (f : IsoFields) : Date := ⟨f.year, f.month, f.day⟩

/-- The moment that the numbers name; a leap second runs on behind the second before it. -/
def moment (f : IsoFields) : Moment :=
  let leap := if f.second = 60 then 1 else 0
  ⟨f.date.dayNumber, f.hour * 3600 + f.minute * 60 + (f.second - leap),
    f.millis * 1000000 + leap * 1000000000⟩

end IsoFields

/-- A second of the day, and nanoseconds beyond a billion only in the last second of a minute. -/
structure Moment.Proper (m : Moment) : Prop where
  second : m.second < 86400
  nanos : m.nanos < 1000000000 ∨ m.nanos < 2000000000 ∧ m.second % 60 = 59

/-- The numbers that are written for a moment. -/
def Moment.isoFields (m : Moment) : IsoFields where
  year := m.date.year.toNat
  month := m.date.month
  day := m.date.day
  hour := m.hour
  minute := m.minute
  second := m.second % 60 + m.nanos / 1000000000
  millis := m.nanos % 1000000000 / 1000000

/-! ## Numbers and moments -/

theorem IsoFields.Legal.valid {f : IsoFields} (h : f.Legal) : f.date.Valid :=
  Date.valid_iff.mpr ⟨h.month.1, h.month.2, h.day.1, h.day.2⟩

theorem IsoFields.Legal.proper {f : IsoFields} (h : f.Legal) : f.moment.Proper := by
  have hhour := h.hour
  have hminute := h.minute
  have hsecond := h.second
  have hmillis := h.millis
  unfold moment
  by_cases hleap : f.second = 60
  · rw [if_pos hleap]
    refine ⟨?_, .inr ⟨?_, ?_⟩⟩
    all_goals
      dsimp only
      omega
  · rw [if_neg hleap]
    refine ⟨?_, .inl ?_⟩
    all_goals
      dsimp only
      omega

theorem IsoFields.Legal.date_moment {f : IsoFields} (h : f.Legal) : f.moment.date = f.date :=
  Date.ofDayNumber_dayNumber h.valid

/-- What is written for the moment of the numbers are the numbers. -/
theorem IsoFields.Legal.isoFields_moment {f : IsoFields} (h : f.Legal) :
    f.moment.isoFields = f := by
  have hhour := h.hour
  have hminute := h.minute
  have hsecond := h.second
  have hmillis := h.millis
  unfold Moment.isoFields
  rw [h.date_moment]
  obtain ⟨year, month, day, hour, minute, second, millis⟩ := f
  unfold moment date Moment.hour Moment.minute
  dsimp only at *
  by_cases hleap : second = 60
  · rw [if_pos hleap]
    congr 1 <;> omega
  · rw [if_neg hleap]
    congr 1 <;> omega

section

variable {m : Moment} (hm : m.Proper) (hyear : 0 ≤ m.date.year ∧ m.date.year ≤ 9999)
include hm hyear

theorem Moment.Proper.legal : m.isoFields.Legal := by
  obtain ⟨hsecond, hnanos⟩ := hm
  obtain ⟨hfirst, hlast, hday, hlength⟩ := Date.valid_iff.mp (Date.valid_ofDayNumber m.day)
  refine ⟨?_, ⟨hfirst, hlast⟩, ⟨hday, ?_⟩, ?_, ?_, ?_, ?_⟩
  · change m.date.year.toNat ≤ 9999
    omega
  · change m.date.day ≤ Date.lastDay (m.date.year.toNat : ℤ) m.date.month
    rw [Int.toNat_of_nonneg hyear.1]
    exact hlength
  · change m.second / 3600 ≤ 23
    omega
  · change m.second / 60 % 60 ≤ 59
    omega
  · change m.second % 60 + m.nanos / 1000000000 ≤ 60
    omega
  · change m.nanos % 1000000000 / 1000000 ≤ 999
    omega

/-- Whole milliseconds are not lost. -/
theorem Moment.Proper.moment_isoFields (hmillis : m.nanos % 1000000 = 0) :
    m.isoFields.moment = m := by
  obtain ⟨hsecond, hnanos⟩ := hm
  have hdate : m.isoFields.date = m.date := by
    unfold IsoFields.date Moment.isoFields
    dsimp only
    rw [Int.toNat_of_nonneg hyear.1]
  have hday : m.date.dayNumber = m.day := Date.dayNumber_ofDayNumber m.day
  unfold IsoFields.moment
  rw [hdate, hday]
  obtain ⟨day, second, nanos⟩ := m
  unfold isoFields hour minute
  dsimp only at *
  by_cases hleap : second % 60 + nanos / 1000000000 = 60
  · rw [if_pos hleap]
    congr 1 <;> omega
  · rw [if_neg hleap]
    congr 1 <;> omega

end

/-! ## Writing -/

theorem padded_zero (width n : ℕ) : padded width .zero n = paddedDigits width n := rfl

theorem twoPlaces_zero {n : ℕ} (h : n < 100) : twoPlaces .zero n = paddedDigits 2 n := by
  have hall : ∀ n : Fin 100, twoPlaces .zero n.val = paddedDigits 2 n.val := by decide +kernel
  exact hall ⟨n, h⟩

open Pattern PatternItem in
/-- The pieces of the canonical form, with any piece for the zone behind it. -/
def Pattern.isoItems (zone : PatternItem) : List PatternItem :=
  isoDate ++ literal 'T' :: (clock ++ [text (.fractionDigits 1 true), zone])

theorem items?_isoPattern :
    Pattern.items? UserFormat.isoPattern = some (Pattern.isoItems (.literal 'Z')) := by
  decide +kernel

theorem items?_defaultPattern : Pattern.items? UserFormat.defaultPattern =
    some (Pattern.isoItems (.text (.offset .colon))) := by
  decide +kernel

/-- A clock reading by the pieces of the canonical form. -/
theorem Pattern.flatMap_isoItems (s : Stamp) (zone : PatternItem) :
    (isoItems zone).flatMap (PatternItem.render s) =
      yearText .zero s.moment.date.year ++ '-' :: (twoPlaces .zero s.moment.date.month ++ '-' ::
        (twoPlaces .zero s.moment.date.day ++ 'T' :: (twoPlaces .zero s.moment.hour ++ ':' ::
          (twoPlaces .zero s.moment.minute ++ ':' ::
            (twoPlaces .zero (s.moment.second % 60 + s.moment.nanos / 1000000000) ++ '.' ::
              (padded 3 .zero (s.moment.nanos % 1000000000 / 1000000) ++ zone.render s)))))) := by
  simp [isoItems, isoDate, clock, zeroed, PatternItem.render, NumberField.render, TextField.render]

/-- In years of four digits the canonical form is written. -/
theorem Moment.Proper.flatMap_isoItems {s : Stamp} (hm : s.moment.Proper)
    (hyear : 0 ≤ s.moment.date.year ∧ s.moment.date.year ≤ 9999) (zone : PatternItem) :
    (Pattern.isoItems zone).flatMap (PatternItem.render s) =
      s.moment.isoFields.charsWith (zone.render s) := by
  have hlegal := hm.legal hyear
  have hmonth := hlegal.month
  have hday := hlegal.day
  have hlength := Date.lastDay_le s.moment.isoFields.year s.moment.isoFields.month
  have hhour := hlegal.hour
  have hminute := hlegal.minute
  have hsecond := hlegal.second
  unfold isoFields at *
  dsimp only at *
  rw [Pattern.flatMap_isoItems, yearText, if_pos hyear, padded_zero, padded_zero,
    twoPlaces_zero (by omega), twoPlaces_zero (by omega), twoPlaces_zero (by omega),
    twoPlaces_zero (by omega), twoPlaces_zero (by omega)]
  rfl

/-- The text of an instant by the pieces of its pattern. -/
theorem Timestamp.toList_isoText (m : Moment) : (isoText m).toList =
    (Pattern.isoItems (.literal 'Z')).flatMap (PatternItem.render (.utc m)) := by
  unfold isoText Pattern.render?
  rw [items?_isoPattern, Option.map_some, Option.getD_some, Pattern.renderItems,
    String.toList_ofList]

/-- The year stands in front. -/
theorem Timestamp.exists_toList_isoText (m : Moment) :
    ∃ rest, (isoText m).toList = yearText .zero m.date.year ++ rest := by
  rw [toList_isoText, Pattern.flatMap_isoItems]
  exact ⟨_, rfl⟩

theorem Moment.Proper.toList_isoText {m : Moment} (hm : m.Proper)
    (hyear : 0 ≤ m.date.year ∧ m.date.year ≤ 9999) :
    (Timestamp.isoText m).toList = m.isoFields.chars := by
  have hstamp : (Stamp.utc m).moment.Proper := hm
  rw [Timestamp.toList_isoText, hstamp.flatMap_isoItems hyear]
  rfl

/-! ## Reading -/

theorem Moment.moveClock_zero {m : Moment} (hm : m.second < 86400) : m.moveClock 0 = m := by
  obtain ⟨day, second, nanos⟩ := m
  unfold moveClock ofTimestamp timestamp
  dsimp only at *
  congr 1 <;> omega

/-- Whole minutes leave the second of the minute alone. -/
theorem Moment.Proper.moveClock {m : Moment} (hm : m.Proper) {seconds : ℤ} (h : 60 ∣ seconds) :
    (m.moveClock seconds).Proper := by
  obtain ⟨hsecond, hnanos⟩ := hm
  unfold Moment.moveClock ofTimestamp timestamp
  refine ⟨?_, ?_⟩
  · dsimp only
    omega
  · dsimp only
    omega

/-- Years of four digits are kept. -/
theorem Moment.checked_of_four_digits {m : Moment}
    (hyear : 0 ≤ m.date.year ∧ m.date.year ≤ 9999) : m.checked = some m := by
  apply if_pos
  have hday := Date.dayNumber_of_four_digits (Date.valid_ofDayNumber m.day) hyear
  rw [Date.dayNumber_ofDayNumber] at hday
  have hfirst : Date.dayNumber ⟨Date.minYear, 1, 1⟩ ≤ -719528 := by decide
  have hlast : 2932896 ≤ Date.dayNumber ⟨Date.maxYear, 12, 31⟩ := by decide
  exact decide_eq_true ⟨by omega, by omega⟩

namespace Timestamp

theorem takeDigits?_paddedDigits {width n : ℕ} (h : n < 10 ^ width) (hw : 0 < width)
    (rest : List Char) :
    takeDigits? width width (paddedDigits width n ++ rest) = some (n, rest) := by
  have hlength := length_paddedDigits h hw
  have hdigits : ((paddedDigits width n ++ rest).take width).takeWhile Char.isDigit =
      paddedDigits width n := by
    rw [List.take_left' hlength, List.takeWhile_eq_self_iff]
    exact allDigits_paddedDigits width n
  unfold takeDigits?
  rw [hdigits]
  dsimp only
  rw [hlength, if_neg (Nat.lt_irrefl width), digitsValue_paddedDigits,
    List.drop_left' hlength]

theorem takeChar?_cons (c : Char) (rest : List Char) : takeChar? c (c :: rest) = some rest :=
  if_pos rfl

/-- Three places are milliseconds. -/
theorem takeOptionalFraction?_millis {f : IsoFields} (h : f.Legal) {zone : List Char}
    (hzone : NoDigitHead zone) :
    takeOptionalFraction? ('.' :: (paddedDigits 3 f.millis ++ zone)) =
      some (f.millis * 1000000, zone) := by
  have hmillis := h.millis
  have hlength := length_paddedDigits (show f.millis < 10 ^ 3 by omega) (by decide)
  have hspan : spanDigits (paddedDigits 3 f.millis ++ zone) = (paddedDigits 3 f.millis, zone) :=
    spanDigits_append (allDigits_paddedDigits 3 f.millis) hzone
  have hkept : (paddedDigits 3 f.millis).take 9 = paddedDigits 3 f.millis :=
    List.take_of_length_le (by omega)
  have hne : (paddedDigits 3 f.millis).isEmpty = false := by
    rw [List.isEmpty_eq_false_iff]
    exact List.ne_nil_of_length_pos (by omega)
  rw [takeOptionalFraction?, takeFraction?, hspan]
  dsimp only
  rw [hne, hkept, hlength, digitsValue_paddedDigits]
  rfl

theorem moment?_fields {f : IsoFields} (h : f.Legal) :
    moment? f.year f.month f.day f.hour f.minute f.second (f.millis * 1000000) =
      some f.moment := by
  have hchecked : (⟨f.year, f.month, f.day⟩ : Date).checked = some f.date := by
    apply if_pos
    have hyear := h.year
    refine ⟨h.valid, ?_, ?_⟩
    · change (-262143 : ℤ) ≤ f.year
      omega
    · change (f.year : ℤ) ≤ 262142
      omega
  unfold moment?
  rw [hchecked, Option.bind_eq_bind, Option.bind_some,
    if_pos ⟨by have := h.hour; omega, by have := h.minute; omega, h.second⟩]
  rfl

/-- A moment in universal time is its own instant. -/
theorem withOffset?_zero {m : Moment} (hm : m.second < 86400)
    (hyear : 0 ≤ m.date.year ∧ m.date.year ≤ 9999) : withOffset? m 0 = some ⟨m, some m⟩ := by
  unfold withOffset?
  rw [neg_zero, Moment.moveClock_zero hm, Moment.checked_of_four_digits hyear]
  rfl

/-- What tells the zone does not start with a digit. -/
theorem noDigitHead_of_takeOffset3339? {zone rest : List Char} {offset : ℤ}
    (h : takeOffset3339? zone = some (offset, rest)) : NoDigitHead zone := by
  cases zone with
  | nil => exact noDigitHead_nil
  | cons c tail =>
    refine NoDigitHead.cons ?_ tail
    unfold takeOffset3339? at h
    dsimp only at h
    split at h
    · rename_i hc
      rcases hc with rfl | rfl <;> rfl
    · split at h
      · rename_i hc
        subst hc
        rfl
      · split at h
        · rename_i hc
          rcases hc with rfl | hc
          · rfl
          · rw [Bool.eq_false_iff, ne_eq, Char.isDigit_iff_toNat, hc]
            decide
        · cases h

/-- **The canonical form is read as the moment that its numbers name**, and a text for the zone as
its offset. -/
theorem rfc3339?_charsWith {f : IsoFields} (h : f.Legal) {zone : List Char} {offset : ℤ}
    (hzone : takeOffset3339? zone = some (offset, [])) (hoffset : offset.natAbs < 86400) :
    rfc3339? (f.charsWith zone) = withOffset? f.moment offset := by
  have hyear := h.year
  have hmonth := h.month
  have hday := h.day
  have hlength := Date.lastDay_le f.year f.month
  have hhour := h.hour
  have hminute := h.minute
  have hsecond := h.second
  have hhead := noDigitHead_of_takeOffset3339? hzone
  rw [rfc3339?, IsoFields.charsWith, Option.bind_eq_bind,
    takeDigits?_paddedDigits (show f.year < 10 ^ 4 by omega) (by decide), Option.bind_some]
  simp only [Option.bind_eq_bind]
  rw [takeChar?_cons, Option.bind_some,
    takeDigits?_paddedDigits (show f.month < 10 ^ 2 by omega) (by decide), Option.bind_some,
    takeChar?_cons, Option.bind_some,
    takeDigits?_paddedDigits (show f.day < 10 ^ 2 by omega) (by decide), Option.bind_some]
  dsimp only
  rw [if_pos (.inl rfl), Option.bind_some,
    takeDigits?_paddedDigits (show f.hour < 10 ^ 2 by omega) (by decide), Option.bind_some,
    takeChar?_cons, Option.bind_some,
    takeDigits?_paddedDigits (show f.minute < 10 ^ 2 by omega) (by decide), Option.bind_some,
    takeChar?_cons, Option.bind_some,
    takeDigits?_paddedDigits (show f.second < 10 ^ 2 by omega) (by decide), Option.bind_some,
    takeOptionalFraction?_millis h hhead, Option.bind_some, hzone, Option.bind_some,
    moment?_fields h, Option.bind_some]
  exact if_pos ⟨rfl, hoffset⟩

theorem rfc3339?_chars {f : IsoFields} (h : f.Legal) :
    rfc3339? f.chars = some ⟨f.moment, some f.moment⟩ := by
  have hdate : 0 ≤ f.moment.date.year ∧ f.moment.date.year ≤ 9999 := by
    rw [h.date_moment]
    exact ⟨Int.natCast_nonneg f.year, Int.ofNat_le.mpr h.year⟩
  have hzone : takeOffset3339? ['Z'] = some (0, []) := rfl
  rw [f.chars_eq_charsWith, rfc3339?_charsWith h hzone (by decide),
    withOffset?_zero h.proper.second hdate]

/-! ## What is read is proper -/

theorem takeFraction?_lt {cs rest : List Char} {n : ℕ} (h : takeFraction? cs = some (n, rest)) :
    n < 1000000000 := by
  unfold takeFraction? at h
  dsimp only at h
  split at h
  · cases h
  · have hdigits : AllDigits (spanDigits cs).1 := by
      unfold spanDigits AllDigits
      rw [List.span_eq_takeWhile_dropWhile]
      exact fun c hc => List.mem_takeWhile_imp hc
    have hlt := (hdigits.take 9).digitsValue_lt
    have hlength : ((spanDigits cs).1.take 9).length ≤ 9 := List.length_take_le 9 _
    generalize (spanDigits cs).1.take 9 = kept at *
    rw [Option.some.injEq, Prod.mk.injEq] at h
    rw [← h.1]
    calc digitsValue kept * 10 ^ (9 - kept.length)
        < 10 ^ kept.length * 10 ^ (9 - kept.length) :=
          Nat.mul_lt_mul_of_pos_right hlt (Nat.pow_pos (by decide))
      _ = 1000000000 := by rw [← pow_add, Nat.add_sub_cancel' hlength]; rfl

theorem takeOptionalFraction?_lt {cs rest : List Char} {n : ℕ}
    (h : takeOptionalFraction? cs = some (n, rest)) : n < 1000000000 := by
  unfold takeOptionalFraction? at h
  split at h
  · exact takeFraction?_lt h
  · cases h
    decide

/-- An offset is in whole minutes. -/
theorem takeOffset?_dvd {separator : List Char → Option (List Char)} {negative : Bool}
    {cs rest : List Char} {offset : ℤ}
    (h : takeOffset? separator negative cs = some (offset, rest)) : 60 ∣ offset := by
  simp only [takeOffset?, Option.bind_eq_bind, Option.bind_eq_some_iff] at h
  obtain ⟨hours, -, cs, -, minutes, -, h⟩ := h
  split at h
  · rw [Option.some.injEq, Prod.mk.injEq] at h
    rw [← h.1]
    split <;> omega
  · cases h

theorem takeOffset3339?_dvd {cs rest : List Char} {offset : ℤ}
    (h : takeOffset3339? cs = some (offset, rest)) : 60 ∣ offset := by
  unfold takeOffset3339? at h
  split at h
  · cases h
  · split at h
    · cases h
      exact ⟨0, rfl⟩
    · split at h
      · exact takeOffset?_dvd h
      · split at h
        · exact takeOffset?_dvd h
        · cases h

theorem moment?_proper {year : ℤ} {month day hour minute second nanos : ℕ} {m : Moment}
    (h : moment? year month day hour minute second nanos = some m) (hnanos : nanos < 1000000000) :
    m.Proper := by
  simp only [moment?, Option.bind_eq_bind, Option.bind_eq_some_iff] at h
  obtain ⟨date, -, h⟩ := h
  split at h
  · rename_i hbounds
    rw [Option.some.injEq] at h
    rw [← h]
    by_cases hleap : second = 60
    · rw [if_pos hleap]
      refine ⟨?_, .inr ⟨?_, ?_⟩⟩
      all_goals
        dsimp only
        omega
    · rw [if_neg hleap]
      refine ⟨?_, .inl ?_⟩
      all_goals
        dsimp only
        omega
  · cases h

theorem withOffset?_proper {clock m : Moment} {offset : ℤ} {w : Written} (hclock : clock.Proper)
    (hoffset : 60 ∣ offset) (h : withOffset? clock offset = some w) (hm : w.instant = some m) :
    m.Proper := by
  unfold withOffset? Moment.checked at h
  split at h
  · rw [Option.map_some, Option.some.injEq] at h
    rw [← h, Option.some.injEq] at hm
    rw [← hm]
    exact hclock.moveClock (by omega)
  · cases h

theorem takeDigits?_head {low high n : ℕ} {cs rest : List Char} (hlow : 0 < low)
    (h : takeDigits? low high cs = some (n, rest)) :
    ∃ c tail, cs = c :: tail ∧ c.isDigit = true := by
  unfold takeDigits? at h
  dsimp only at h
  split at h
  · cases h
  · rename_i hlength
    cases cs with
    | nil =>
      rw [List.take_nil, List.takeWhile_nil, List.length_nil] at hlength
      exact absurd hlow hlength
    | cons c tail =>
      refine ⟨c, tail, rfl, ?_⟩
      by_contra hdigit
      cases high with
      | zero => exact hlength hlow
      | succ high =>
        rw [List.take_succ_cons, List.takeWhile_cons_of_neg hdigit] at hlength
        exact hlength hlow

theorem rfc3339?_spec {cs : List Char} {w : Written} {m : Moment} (h : rfc3339? cs = some w)
    (hm : w.instant = some m) : m.Proper ∧ ∃ c tail, cs = c :: tail ∧ c.isDigit = true := by
  unfold rfc3339? at h
  obtain ⟨⟨year, cs₁⟩, hyear, h⟩ := Option.bind_eq_some_iff.mp h
  obtain ⟨cs₂, -, h⟩ := Option.bind_eq_some_iff.mp h
  obtain ⟨⟨month, cs₃⟩, -, h⟩ := Option.bind_eq_some_iff.mp h
  obtain ⟨cs₄, -, h⟩ := Option.bind_eq_some_iff.mp h
  obtain ⟨⟨day, cs₅⟩, -, h⟩ := Option.bind_eq_some_iff.mp h
  cases cs₅ with
  | nil => cases h
  | cons c rest =>
    dsimp only at h
    split at h
    · obtain ⟨cs₆, -, h⟩ := Option.bind_eq_some_iff.mp h
      obtain ⟨⟨hour, cs₇⟩, -, h⟩ := Option.bind_eq_some_iff.mp h
      obtain ⟨cs₈, -, h⟩ := Option.bind_eq_some_iff.mp h
      obtain ⟨⟨minute, cs₉⟩, -, h⟩ := Option.bind_eq_some_iff.mp h
      obtain ⟨cs₁₀, -, h⟩ := Option.bind_eq_some_iff.mp h
      obtain ⟨⟨second, cs₁₁⟩, -, h⟩ := Option.bind_eq_some_iff.mp h
      obtain ⟨⟨nanos, cs₁₂⟩, hnanos, h⟩ := Option.bind_eq_some_iff.mp h
      obtain ⟨⟨offset, cs₁₃⟩, hoffset, h⟩ := Option.bind_eq_some_iff.mp h
      dsimp only at h
      split at h
      · obtain ⟨clock, hclock, h⟩ := Option.bind_eq_some_iff.mp h
        have hproper := moment?_proper hclock (takeOptionalFraction?_lt hnanos)
        exact ⟨withOffset?_proper hproper (takeOffset3339?_dvd hoffset) h hm,
          takeDigits?_head (by decide) hyear⟩
      · cases h
    · cases h

/-! ## The strict form -/

/-- The text of a canonical timestamp. -/
def canonical (f : IsoFields) : String := String.ofList f.chars

theorem isoText_moment {f : IsoFields} (h : f.Legal) : isoText f.moment = canonical f := by
  have hyear : 0 ≤ f.moment.date.year ∧ f.moment.date.year ≤ 9999 := by
    rw [h.date_moment]
    exact ⟨Int.natCast_nonneg f.year, Int.ofNat_le.mpr h.year⟩
  have hchars := h.proper.toList_isoText hyear
  rw [h.isoFields_moment] at hchars
  rw [canonical, ← hchars, String.ofList_toList]

theorem iso?_canonical {f : IsoFields} (h : f.Legal) : iso? (canonical f) = some f.moment := by
  have hchars : (canonical f).toList = f.chars := String.toList_ofList
  rw [iso?, hchars, rfc3339?_chars h]
  exact if_pos (isoText_moment h)

/-- Years that four digits do not write have a sign in front. -/
theorem yearText_head {year : ℤ} (h : ¬ (0 ≤ year ∧ year ≤ 9999)) :
    ∃ c tail, yearText .zero year = c :: tail ∧ c.isDigit = false := by
  unfold yearText
  rw [if_neg h]
  by_cases hneg : year < 0
  · exact ⟨'-', _, by rw [paddedSigned, if_pos hneg]; rfl, by decide⟩
  · exact ⟨'+', _, by rw [paddedSigned, if_neg hneg]; rfl, by decide⟩

/-- What is written with a digit in front lies in a year of four digits. -/
theorem year_of_isoText {m : Moment} {c : Char} {tail : List Char}
    (h : (isoText m).toList = c :: tail) (hc : c.isDigit = true) :
    0 ≤ m.date.year ∧ m.date.year ≤ 9999 := by
  by_contra hyear
  obtain ⟨d, rest, hsign, hdigit⟩ := yearText_head hyear
  obtain ⟨more, htext⟩ := exists_toList_isoText m
  rw [htext, hsign, List.cons_append] at h
  obtain rfl : d = c := (List.cons.inj h).1
  rw [hdigit] at hc
  cases hc

/-- What is accepted is a moment in a year of four digits. -/
theorem proper_of_iso? {s : String} {m : Moment} (h : iso? s = some m) :
    isoText m = s ∧ m.Proper ∧ 0 ≤ m.date.year ∧ m.date.year ≤ 9999 := by
  obtain ⟨w, hw, h⟩ := Option.bind_eq_some_iff.mp h
  obtain ⟨instant, hinstant, h⟩ := Option.bind_eq_some_iff.mp h
  split at h
  · rename_i htext
    obtain rfl := Option.some.inj h
    obtain ⟨hproper, c, tail, hcons, hdigit⟩ := rfc3339?_spec hw hinstant
    rw [← htext] at hcons
    exact ⟨htext, hproper, year_of_isoText hcons hdigit⟩
  · cases h

/-- What is written for whole milliseconds is accepted. -/
theorem iso?_isoText {m : Moment} (hproper : m.Proper) (hmillis : m.nanos % 1000000 = 0)
    (hyear : 0 ≤ m.date.year ∧ m.date.year ≤ 9999) : iso? (isoText m) = some m := by
  have htext : isoText m = canonical m.isoFields := by
    rw [canonical, ← hproper.toList_isoText hyear, String.ofList_toList]
  rw [htext, iso?_canonical (hproper.legal hyear), hproper.moment_isoFields hyear hmillis]

/-- A moment is the only one that its text is accepted as. -/
theorem eq_of_iso?_isoText {m n : Moment} (hproper : m.Proper) (hmillis : m.nanos % 1000000 = 0)
    (h : iso? (isoText m) = some n) : m = n := by
  obtain ⟨w, hw, hrest⟩ := Option.bind_eq_some_iff.mp h
  obtain ⟨instant, hinstant, -⟩ := Option.bind_eq_some_iff.mp hrest
  obtain ⟨-, c, tail, hcons, hdigit⟩ := rfc3339?_spec hw hinstant
  have hread := iso?_isoText hproper hmillis (year_of_isoText hcons hdigit)
  rw [h] at hread
  exact (Option.some.inj hread).symm

theorem iso?_eq_some_iff {s : String} {m : Moment} :
    iso? s = some m ↔ ∃ f : IsoFields, f.Legal ∧ canonical f = s ∧ f.moment = m := by
  constructor
  · intro h
    obtain ⟨htext, hproper, hyear⟩ := proper_of_iso? h
    have hlegal := hproper.legal hyear
    have hcanonical : canonical m.isoFields = s := by
      rw [canonical, ← hproper.toList_isoText hyear, htext, String.ofList_toList]
    have hread := iso?_canonical hlegal
    rw [hcanonical, h] at hread
    exact ⟨m.isoFields, hlegal, hcanonical, (Option.some.inj hread).symm⟩
  · rintro ⟨f, hlegal, rfl, rfl⟩
    exact iso?_canonical hlegal

/-- What is accepted are whole milliseconds. -/
theorem millis_of_iso? {s : String} {m : Moment} (h : iso? s = some m) : m.nanos % 1000000 = 0 := by
  obtain ⟨f, -, -, rfl⟩ := iso?_eq_some_iff.mp h
  change (f.millis * 1000000 + (if f.second = 60 then 1 else 0) * 1000000000) % 1000000 = 0
  omega

theorem graphic_charsWith (f : IsoFields) {zone : List Char} (hzone : ∀ c ∈ zone, Graphic c) :
    ∀ c ∈ f.charsWith zone, Graphic c := by
  have hpadded (width n : ℕ) : ∀ c ∈ paddedDigits width n, Graphic c :=
    (allDigits_paddedDigits width n).graphic
  have hstep (width n : ℕ) {c : Char} {rest : List Char} (hc : Graphic c)
      (hrest : ∀ c ∈ rest, Graphic c) : ∀ d ∈ paddedDigits width n ++ c :: rest, Graphic d := by
    intro d hd
    rcases List.mem_append.mp hd with hd | hd
    · exact hpadded width n d hd
    · exact List.forall_mem_cons.mpr ⟨hc, hrest⟩ d hd
  unfold IsoFields.charsWith
  refine hstep 4 f.year (by decide) (hstep 2 f.month (by decide) (hstep 2 f.day (by decide)
    (hstep 2 f.hour (by decide) (hstep 2 f.minute (by decide) (hstep 2 f.second (by decide) ?_)))))
  exact List.forall_mem_append.mpr ⟨hpadded 3 f.millis, hzone⟩

/-- The strict form is read alike where any form is read. -/
theorem lenient?_of_iso? {s : String} {m : Moment} (h : iso? s = some m) : lenient? s = some m := by
  obtain ⟨f, hlegal, rfl, rfl⟩ := iso?_eq_some_iff.mp h
  have hchars : trimChars (canonical f).toList = f.chars := by
    have hgraphic := graphic_charsWith f (List.forall_mem_singleton.mpr (by decide : Graphic 'Z'))
    rw [canonical, String.toList_ofList, f.chars_eq_charsWith, trimChars_of_graphic hgraphic]
  unfold lenient? written?
  dsimp only
  rw [hchars, rfc3339?_chars hlegal]
  rfl

/-- **The strict parser accepts the canonical form and nothing else**, and reading and writing are
inverse to each other: on accepted texts, and on moments of whole milliseconds in years of four
digits. -/
theorem iso?_inverts_isoText :
    (∀ s m, iso? s = some m ↔ ∃ f : IsoFields, f.Legal ∧ canonical f = s ∧ f.moment = m) ∧
    (∀ s m, iso? s = some m → isoText m = s ∧ lenient? s = some m) ∧
    ∀ m : Moment, m.Proper → m.nanos % 1000000 = 0 → 0 ≤ m.date.year → m.date.year ≤ 9999 →
      iso? (isoText m) = some m := by
  refine ⟨fun s m => iso?_eq_some_iff, ?_, ?_⟩
  · intro s m h
    exact ⟨(proper_of_iso? h).1, lenient?_of_iso? h⟩
  · intro m hproper hmillis hfirst hlast
    exact iso?_isoText hproper hmillis ⟨hfirst, hlast⟩

/-- The middle of the leap second at the end of 2016. -/
theorem iso?_isoText_leapSecond :
    iso? (isoText ⟨17166, 86399, 1500000000⟩) = some ⟨17166, 86399, 1500000000⟩ := by
  have hproper : Moment.Proper ⟨17166, 86399, 1500000000⟩ := ⟨by decide, .inr (by decide)⟩
  exact iso?_inverts_isoText.2.2 _ hproper (by decide) (by decide) (by decide)

end Timestamp

end StateExpr
