import StateExpr.Calendar.Speech
import StateExpr.Proofs.Calendar.Ticks
import StateExpr.Proofs.Pieces
/-!
# Dates in words

A date near the reference date is told as the day next to it or by its weekday in one of three
weeks, and any other date in full.  Weeks start on Sunday, so that a weekday of a week is one day,
and dates in full name their day, month and year.  No two wordings share a text, hence a text tells
one date.

Main statements: `Speech.exists_wording`, `Speech.Wording.eq_of_text` and
`Expr.readBack_unambiguous`.
-/

namespace StateExpr

/-! ## Weeks -/

namespace Date

/-- The Sunday that the week of the date starts on. -/
def weekStart (d : Date) : ℤ := d.dayNumber - d.weekday

theorem weekday_lt (d : Date) : d.weekday < 7 := by
  unfold weekday
  omega

/-- Sundays are whole weeks apart. -/
theorem dvd_weekStart (d : Date) : 7 ∣ d.weekStart + 4 := by
  unfold weekStart weekday
  omega

/-- The week of a date holds it: it starts at most six days before. -/
theorem weekStart_eq_of_bounds {d e : Date} {weeks : ℤ}
    (h : 7 * weeks ≤ d.dayNumber - e.weekStart ∧ d.dayNumber - e.weekStart < 7 * weeks + 7) :
    d.weekStart = e.weekStart + 7 * weeks := by
  have hd := d.dvd_weekStart
  have he := e.dvd_weekStart
  have hday := d.weekday_lt
  unfold weekStart at *
  omega

theorem eq_of_dayNumber {d e : Date} (hd : d.Valid) (he : e.Valid)
    (h : d.dayNumber = e.dayNumber) : d = e := by
  rw [← ofDayNumber_dayNumber hd, h, ofDayNumber_dayNumber he]

end Date

namespace Speech

/-! ## Wordings -/

/-- The weeks that have a word. -/
inductive Week where
  | last | this | next
deriving DecidableEq

/-- What stands in front of a weekday of the week. -/
def Week.word : Week → String
  | last => "last "
  | this => "this "
  | next => "next "

/-- How many weeks it is from the week of the reference date. -/
def Week.distance : Week → ℤ
  | last => -1
  | this => 0
  | next => 1

/-- The ways to tell a date. -/
inductive Wording where
  | today | tomorrow | yesterday
  | inWeek (week : Week) (weekday : ℕ)
  | full (date : Date)
deriving DecidableEq

namespace Wording

def text : Wording → String
  | today => "today"
  | tomorrow => "tomorrow"
  | yesterday => "yesterday"
  | inWeek week weekday => week.word ++ weekdayName weekday
  | full date => fullDate date

/-- The weekday is one, and the date is one of the calendar. -/
def Legal : Wording → Prop
  | inWeek _ weekday => weekday < 7
  | full date => date.Valid
  | _ => True

/-- What is said of a date on the reference date. -/
def Says (reference date : Date) : Wording → Prop
  | today => date.dayNumber = reference.dayNumber
  | tomorrow => date.dayNumber = reference.dayNumber + 1
  | yesterday => date.dayNumber = reference.dayNumber - 1
  | inWeek week weekday =>
    date.weekday = weekday ∧ date.weekStart = reference.weekStart + 7 * week.distance
  | full told => date = told

variable {reference d e : Date} {w w' : Wording}

/-- A wording is true of one date. -/
theorem Says.unique (hd : d.Valid) (he : e.Valid) (h : w.Says reference d)
    (h' : w.Says reference e) : d = e := by
  cases w with
  | today | tomorrow | yesterday => exact Date.eq_of_dayNumber hd he (h.trans h'.symm)
  | inWeek week weekday =>
    obtain ⟨hweekday, hweek⟩ := h
    obtain ⟨hweekday', hweek'⟩ := h'
    apply Date.eq_of_dayNumber hd he
    unfold Date.weekStart at hweek hweek'
    omega
  | full told => exact h.trans h'.symm

/-! ## Texts of wordings -/

/-- The wordings that are no date in full. -/
def named : List Wording :=
  [today, tomorrow, yesterday] ++
    [Week.last, .this, .next].flatMap fun week => (List.range 7).map (inWeek week)

theorem nodup_named : (named.map text).Nodup := by decide +kernel

theorem noDigits_named : ∀ w ∈ named, (spanDigits w.text.toList).1 = [] := by decide +kernel

theorem Legal.mem_named (h : w.Legal) : w ∈ named ∨ ∃ date, w = full date := by
  cases w with
  | today | tomorrow | yesterday => exact .inl (by decide)
  | inWeek week weekday =>
    have hall : ∀ i < 7, inWeek week i ∈ named := by cases week <;> decide
    exact .inl (hall weekday h)
  | full date => exact .inr ⟨date, rfl⟩

end Wording

/-! ## Dates in full -/

theorem toList_fullDate (d : Date) : (fullDate d).toList = Nat.toDigits 10 d.day ++
    ((dayEnding d.day).toList ++
      ' ' :: ((monthName d.month).toList ++ ' ' :: (toString d.year).toList)) := by
  have hday : (toString d.day).toList = Nat.toDigits 10 d.day := by
    rw [Nat.toString_eq_ofList_toDigits, String.toList_ofList]
  have hspace : " ".toList = [' '] := rfl
  unfold fullDate
  simp only [String.toList_append, hday, hspace, List.append_assoc, List.cons_append,
    List.nil_append]

theorem spanDigits_fullDate (d : Date) : spanDigits (fullDate d).toList =
    (Nat.toDigits 10 d.day, (dayEnding d.day).toList ++
      ' ' :: ((monthName d.month).toList ++ ' ' :: (toString d.year).toList)) := by
  have hending : NoDigitHead ((dayEnding d.day).toList ++
      ' ' :: ((monthName d.month).toList ++ ' ' :: (toString d.year).toList)) := by
    unfold dayEnding
    split <;> exact .cons (by decide) _
  rw [toList_fullDate, spanDigits_append (allDigits_toDigits _) hending]

/-- Names of months have no space in them and differ. -/
theorem monthName_spec : ∀ i < 13, ' ' ∉ (monthName i).toList ∧
    ∀ j < 13, 1 ≤ i → 1 ≤ j → monthName i = monthName j → i = j := by
  decide +kernel

/-- **A date in full is one date.** -/
theorem fullDate_injective {d e : Date} (hd : d.Valid) (he : e.Valid)
    (h : fullDate d = fullDate e) : d = e := by
  obtain ⟨hfirst, hlast, -⟩ := hd
  obtain ⟨hfirst', hlast', -⟩ := he
  have hspan := spanDigits_fullDate d
  rw [h, spanDigits_fullDate e, Prod.mk.injEq] at hspan
  obtain ⟨hdigits, hbehind⟩ := hspan
  have hday : e.day = d.day := by
    rw [← digitsValue_toDigits e.day, hdigits, digitsValue_toDigits]
  rw [hday] at hbehind
  have hrest := (List.cons.inj (List.append_cancel_left hbehind)).2
  obtain ⟨hspace, hnames⟩ := monthName_spec d.month (by omega)
  obtain ⟨hspace', -⟩ := monthName_spec e.month (by omega)
  -- no month has a space in its name, so that the year stands behind the first one
  have hsplit := Search.splitFirst?_append hspace' (toString e.year).toList
  rw [hrest, Search.splitFirst?_append hspace, Option.some.injEq, Prod.mk.injEq] at hsplit
  have hmonth : d.month = e.month :=
    hnames e.month (by omega) hfirst hfirst' (String.toList_inj.mp hsplit.1)
  have hyear : d.year = e.year := Int.repr_inj.mp (String.toList_inj.mp hsplit.2)
  obtain ⟨year, month, day⟩ := d
  obtain ⟨year', month', day'⟩ := e
  simp_all

/-! ## Texts -/

namespace Wording

variable {w w' : Wording}

/-- **No two wordings share a text.** -/
theorem eq_of_text (hw : w.Legal) (hw' : w'.Legal) (h : w.text = w'.text) : w = w' := by
  have hdistinct : ∀ u ∈ named, ∀ date, u.text ≠ (full date).text := by
    intro u hu date heq
    have hnone := noDigits_named u hu
    rw [heq, text, spanDigits_fullDate] at hnone
    exact Nat.toDigits_ne_nil hnone
  obtain hmem | ⟨d, rfl⟩ := hw.mem_named
  · obtain hmem' | ⟨e, rfl⟩ := hw'.mem_named
    · exact List.inj_on_of_nodup_map nodup_named hmem hmem' h
    · exact absurd h (hdistinct w hmem e)
  · obtain hmem' | ⟨e, rfl⟩ := hw'.mem_named
    · exact absurd h.symm (hdistinct w' hmem' d)
    · rw [fullDate_injective hw hw' h]

end Wording

/-- **Every date is told by a wording that is true of it.** -/
theorem exists_wording (reference : Date) {date : Date} (h : date.Valid) :
    ∃ w : Wording, w.Legal ∧ w.Says reference date ∧ w.text = readBack reference date := by
  have hweekday := date.weekday_lt
  have hsays (week : Week) (h : 7 * week.distance ≤ date.dayNumber - reference.weekStart ∧
      date.dayNumber - reference.weekStart < 7 * week.distance + 7) :
      (Wording.inWeek week date.weekday).Says reference date :=
    ⟨rfl, Date.weekStart_eq_of_bounds h⟩
  have hreference : date.dayNumber - reference.dayNumber + reference.weekday =
      date.dayNumber - reference.weekStart := by
    unfold Date.weekStart
    omega
  unfold readBack
  dsimp only
  rw [hreference]
  split_ifs with htoday htomorrow hyesterday hthis hnext hlast
  · exact ⟨.today, trivial, by unfold Wording.Says; omega, rfl⟩
  · exact ⟨.tomorrow, trivial, by unfold Wording.Says; omega, rfl⟩
  · exact ⟨.yesterday, trivial, by unfold Wording.Says; omega, rfl⟩
  · exact ⟨.inWeek .this _, hweekday, hsays .this (by dsimp only [Week.distance]; omega), rfl⟩
  · exact ⟨.inWeek .next _, hweekday, hsays .next (by dsimp only [Week.distance]; omega), rfl⟩
  · exact ⟨.inWeek .last _, hweekday, hsays .last (by dsimp only [Week.distance]; omega), rfl⟩
  · exact ⟨.full date, h, rfl, rfl⟩

/-- A text that tells a date says what its wording says. -/
theorem says_of_readBack {reference date : Date} (h : date.Valid) {w : Wording} (hw : w.Legal)
    (htext : readBack reference date = w.text) : w.Says reference date := by
  obtain ⟨u, hu, hsays, hu'⟩ := exists_wording reference h
  obtain rfl := Wording.eq_of_text hu hw (hu'.trans htext)
  exact hsays

/-- **Two dates are never told alike.** -/
theorem readBack_injective {reference d e : Date} (hd : d.Valid) (he : e.Valid)
    (h : readBack reference d = readBack reference e) : d = e := by
  obtain ⟨w, hw, hsays, htext⟩ := exists_wording reference hd
  exact hsays.unique hd he (says_of_readBack he hw (h.symm.trans htext.symm))

end Speech

/-! ## The operator -/

namespace Expr

theorem returns_dateReadBack {ambient : Ambient} {s t : String} {m n : Moment}
    (hs : Timestamp.iso? s = some m) (ht : Timestamp.iso? t = some n) :
    Returns ambient .dateReadBack [.text s, .text t]
      (.text (Speech.readBack m.date n.date)) := by
  have hchecked : Checked (some .string) 0 [.text s, .text t] :=
    checked_texts (fun _ _ _ => rfl) 0 [s, t]
  have hreference : Time.iso [.text s, .text t] 0 = .ok m := Time.iso_of_iso? hs
  have htarget : Time.iso [.text s, .text t] 1 = .ok n := Time.iso_of_iso? ht
  apply (callGives_of_applyWithError rfl rfl hchecked).returns
  rw [Time.readBack, hreference, htarget]
  rfl

/-- **Dates in words are unambiguous.**  Seen from a reference date, two dates of the calendar are
never told alike.  Each is told by a wording that is true of it, and what a text says is true of
every date that it tells: a weekday is that of the date, in the week that is named.  So the operator
gives different texts for timestamps of different dates. -/
theorem readBack_unambiguous (ambient : Ambient) :
    (∀ reference d e : Date, d.Valid → e.Valid → d ≠ e →
      Speech.readBack reference d ≠ Speech.readBack reference e) ∧
    (∀ reference d : Date, d.Valid → ∃ w : Speech.Wording, w.Legal ∧
      Speech.readBack reference d = w.text) ∧
    (∀ (reference d : Date) (w : Speech.Wording), d.Valid → w.Legal →
      Speech.readBack reference d = w.text → w.Says reference d) ∧
    ∀ s t u m n k, Timestamp.iso? s = some m → Timestamp.iso? t = some n →
      Timestamp.iso? u = some k → n.date ≠ k.date →
      ∃ a b, Returns ambient .dateReadBack [.text s, .text t] (.text a) ∧
        Returns ambient .dateReadBack [.text s, .text u] (.text b) ∧ a ≠ b := by
  refine ⟨?_, ?_, ?_, ?_⟩
  · intro reference d e hd he hne h
    exact hne (Speech.readBack_injective hd he h)
  · intro reference d hd
    obtain ⟨w, hw, -, htext⟩ := Speech.exists_wording reference hd
    exact ⟨w, hw, htext.symm⟩
  · intro reference d w hd hw htext
    exact Speech.says_of_readBack hd hw htext
  · intro s t u m n k hs ht hu hne
    refine ⟨_, _, returns_dateReadBack hs ht, returns_dateReadBack hs hu, fun h => hne ?_⟩
    exact Speech.readBack_injective (Date.valid_ofDayNumber _) (Date.valid_ofDayNumber _) h

/-- Seen from a Thursday, the Saturdays of its week and of the next one. -/
theorem readBack_unambiguous_saturdays :
    let ambient : Ambient := .still
    let reference : Date := ⟨2018, 3, 15⟩
    let d : Date := ⟨2018, 3, 17⟩
    let e : Date := ⟨2018, 3, 24⟩
    let wording : Speech.Wording := .inWeek .next 6
    Speech.readBack reference d ≠ Speech.readBack reference e ∧
    (∃ w : Speech.Wording, w.Legal ∧ Speech.readBack reference d = w.text) ∧
    Speech.readBack reference e = "next Saturday" ∧ wording.Says reference e ∧
    ∃ a b,
      Returns ambient .dateReadBack
        [.text "2018-03-15T13:00:00.000Z", .text "2018-03-17T00:00:00.000Z"] (.text a) ∧
      Returns ambient .dateReadBack
        [.text "2018-03-15T13:00:00.000Z", .text "2018-03-24T23:59:60.000Z"] (.text b) ∧
      a ≠ b := by
  intro ambient reference d e wording
  have hd : d.Valid := by decide
  have he : e.Valid := by decide
  have hlegal : wording.Legal := (by decide : 6 < 7)
  have htext : Speech.readBack reference e = wording.text := by decide +kernel
  obtain ⟨hdistinct, hwording, htrue, hcalls⟩ := readBack_unambiguous ambient
  refine ⟨hdistinct reference d e hd he (by decide), hwording reference d hd, by decide +kernel,
    htrue reference e wording he hlegal htext, ?_⟩
  exact hcalls _ _ _ ⟨17605, 46800, 0⟩ ⟨17607, 0, 0⟩ ⟨17614, 86399, 1000000000⟩
    (by decide +kernel) (by decide +kernel) (by decide +kernel) (by decide +kernel)

end Expr

end StateExpr
