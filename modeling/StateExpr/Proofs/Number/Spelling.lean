import StateExpr.Json.Number
import StateExpr.Proofs.Number.Digits
/-!
# Decimals as they are spelled

A `Spelling` lists the parts of a written decimal.  Two readers take such a text apart: the one of
the expression language, which rounds the exact decimal once, and the one of JSON, which keeps a
significand of 64 bits.  What each makes of a legal spelling is said by the parts alone.

Main statements: `Spelling.Legal.readNumber?_text` and `Spelling.Legal.takeNumber?_text`.
-/

namespace StateExpr

/-- A decimal as it is spelled: a sign, digits, digits behind a point unless there are none, and
the sign and digits of an exponent. -/
structure Spelling where
  negative : Bool
  whole : List Char
  fraction : List Char
  exponent : Option (Bool × List Char)

namespace Spelling

/-- The point and the digits behind it. -/
def fractionText (s : Spelling) : List Char :=
  if s.fraction.isEmpty then [] else '.' :: s.fraction

/-- The letter, the sign and the digits of the exponent. -/
def exponentText (s : Spelling) : List Char :=
  match s.exponent with
  | none => []
  | some (negative, digits) => 'e' :: (if negative then '-' else '+') :: digits

/-- The text without its sign. -/
def magnitudeText (s : Spelling) : List Char := s.whole ++ (s.fractionText ++ s.exponentText)

def text (s : Spelling) : List Char :=
  if s.negative then '-' :: s.magnitudeText else s.magnitudeText

/-- The power of ten that the exponent names. -/
def power (s : Spelling) : Int :=
  match s.exponent with
  | none => 0
  | some (negative, digits) => if negative then -(digitsValue digits : Int) else digitsValue digits

/-- Digits where digits belong, and no zero in front of others. -/
structure Legal (s : Spelling) : Prop where
  whole : AllDigits s.whole
  leading : s.whole = ['0'] ∨ ∃ c cs, s.whole = c :: cs ∧ c ≠ '0'
  fraction : AllDigits s.fraction
  exponent : ∀ p ∈ s.exponent, AllDigits p.2 ∧ p.2 ≠ []

/-- A text that a numeral in front of it does not run into. -/
def NoNumeralHead (cs : List Char) : Prop :=
  NoDigitHead cs ∧ ∀ c ∈ cs.head?, c ≠ '.' ∧ c ≠ 'e' ∧ c ≠ 'E'

theorem noNumeralHead_nil : NoNumeralHead [] := by
  refine ⟨noDigitHead_nil, ?_⟩
  intro c hc
  cases hc

theorem noNumeralHead_cons {c : Char} (hdigit : c.isDigit = false)
    (h : c ≠ '.' ∧ c ≠ 'e' ∧ c ≠ 'E') (cs : List Char) : NoNumeralHead (c :: cs) := by
  refine ⟨.cons hdigit cs, ?_⟩
  intro b hb
  simp only [List.head?_cons, Option.mem_def, Option.some.injEq] at hb
  exact hb ▸ h

/-! ## Reading a decimal -/

theorem noDigitHead_exponentText (s : Spelling) {rest : List Char} (hr : NoDigitHead rest) :
    NoDigitHead (s.exponentText ++ rest) := by
  unfold exponentText
  split
  · exact hr
  · exact NoDigitHead.cons (by decide) _

theorem noDigitHead_fractionText (s : Spelling) {rest : List Char} (hr : NoDigitHead rest) :
    NoDigitHead (s.fractionText ++ (s.exponentText ++ rest)) := by
  unfold fractionText
  split
  · exact s.noDigitHead_exponentText hr
  · exact NoDigitHead.cons (by decide) _

theorem Legal.whole_ne_nil {s : Spelling} (h : s.Legal) : s.whole ≠ [] := by
  rcases h.leading with hzero | ⟨c, cs, hcons, -⟩
  · rw [hzero]
    exact List.cons_ne_nil _ _
  · rw [hcons]
    exact List.cons_ne_nil _ _

theorem readExponent?_sign (negative : Bool) {digits : List Char} (hd : AllDigits digits)
    (hne : digits ≠ []) : readExponent? ((if negative then '-' else '+') :: digits) =
      some (if negative then -(digitsValue digits : Int) else digitsValue digits) := by
  have hspan := spanDigits_append hd noDigitHead_nil
  rw [List.append_nil] at hspan
  have hsign : takeSign ((if negative then '-' else '+') :: digits) = (negative, digits) := by
    cases negative <;> rfl
  unfold readExponent?
  rw [hsign]
  dsimp only
  rw [hspan]
  simp [hne]

section

variable {s : Spelling} (h : s.Legal)
include h

theorem Legal.readMagnitude?_magnitudeText : readMagnitude? s.magnitudeText =
    some (nearestNumber (digitsValue (s.whole ++ s.fraction)) (s.power - s.fraction.length)) := by
  have hwhole := spanDigits_append h.whole (s.noDigitHead_fractionText noDigitHead_nil)
  have hfraction := spanDigits_append h.fraction (s.noDigitHead_exponentText noDigitHead_nil)
  rw [List.append_nil] at hwhole hfraction
  have hne := h.whole_ne_nil
  have hexponent := h.exponent
  unfold readMagnitude? magnitudeText
  rw [hwhole]
  obtain ⟨negative, whole, fraction, exponent⟩ := s
  dsimp only at hfraction hne hexponent ⊢
  unfold fractionText power
  cases fraction with
  | nil =>
    cases exponent with
    | none => simp [exponentText, hne]
    | some p =>
      obtain ⟨hdigits, hdigits'⟩ := hexponent p rfl
      simp [exponentText, hne, readExponent?_sign p.1 hdigits hdigits']
  | cons c cs =>
    cases exponent with
    | none =>
      simp only [exponentText, List.append_nil] at hfraction
      simp [exponentText, hfraction]
    | some p =>
      obtain ⟨hdigits, hdigits'⟩ := hexponent p rfl
      simp only [exponentText, List.cons_append] at hfraction
      simp [exponentText, hfraction, readExponent?_sign p.1 hdigits hdigits']

/-- A text of digits has no sign in front. -/
theorem Legal.exists_head (rest : List Char) :
    ∃ c cs, s.magnitudeText ++ rest = c :: cs ∧ c.isDigit = true := by
  unfold magnitudeText
  rcases h.leading with hzero | ⟨c, cs, hcons, -⟩
  · rw [hzero]
    exact ⟨'0', _, rfl, by decide⟩
  · have hdigit := h.whole c (by rw [hcons]; exact List.mem_cons_self)
    rw [hcons]
    exact ⟨c, _, rfl, hdigit⟩

theorem Legal.readNumber?_text : readNumber? s.text =
    some (if s.negative then
        -(nearestNumber (digitsValue (s.whole ++ s.fraction)) (s.power - s.fraction.length))
      else nearestNumber (digitsValue (s.whole ++ s.fraction)) (s.power - s.fraction.length)) := by
  have hsign : takeSign s.text = (s.negative, s.magnitudeText) := by
    unfold text
    by_cases hneg : s.negative = true
    · rw [if_pos hneg, hneg]
      rfl
    · obtain ⟨c, cs, hcons, hdigit⟩ := h.exists_head []
      rw [List.append_nil] at hcons
      rw [if_neg hneg, hcons, eq_false_of_ne_true hneg]
      unfold takeSign
      split
      · rename_i heq
        cases heq
        exact absurd hdigit (by decide)
      · rename_i heq
        cases heq
        exact absurd hdigit (by decide)
      · rfl
  unfold readNumber?
  rw [hsign]
  dsimp only
  rw [h.readMagnitude?_magnitudeText]
  rfl

end

/-! ## Reading JSON -/

/-- The significand that a reader of JSON keeps, and whether it is an integer as it stands. -/
def significand (s : Spelling) : Bool × Json.Significand :=
  let (start, fits) := Json.wholeDigits true ⟨0, 0⟩ s.whole
  let kept := if s.fraction.isEmpty then start else Json.fractionDigits start s.fraction
  (fits && s.fraction.isEmpty && s.exponent.isNone, ⟨kept.digits, kept.exponent + s.power⟩)

/-- The numeral that a reader of JSON makes of it. -/
def numeral? (s : Spelling) : Option Json.Numeral :=
  let (exact, significand) := s.significand
  if exact then
    some (if s.negative then .negative significand.digits else .whole significand.digits)
  else significand.number?.map fun x => .real (if s.negative then -x else x)

theorem takeExponent?_sign (negative : Bool) {digits rest : List Char} (hd : AllDigits digits)
    (hne : digits ≠ []) (hr : NoDigitHead rest) :
    Json.takeExponent? ((if negative then '-' else '+') :: (digits ++ rest)) =
      some (if negative then -(digitsValue digits : Int) else digitsValue digits, rest) := by
  have hsign : takeSign ((if negative then '-' else '+') :: (digits ++ rest)) =
      (negative, digits ++ rest) := by
    cases negative <;> rfl
  unfold Json.takeExponent?
  rw [hsign]
  dsimp only
  rw [spanDigits_append hd hr]
  simp [hne]

section

variable {s : Spelling} (h : s.Legal) {rest : List Char} (hr : NoNumeralHead rest)
include h hr

theorem Legal.takeMagnitude?_magnitudeText :
    Json.takeMagnitude? (s.magnitudeText ++ rest) =
      some (s.significand.1, s.significand.2, rest) := by
  have hwhole := spanDigits_append h.whole (s.noDigitHead_fractionText hr.1)
  have hfraction := spanDigits_append h.fraction (s.noDigitHead_exponentText hr.1)
  have hexponent := h.exponent
  have hleading := h.leading
  unfold Json.takeMagnitude? magnitudeText
  rw [List.append_assoc, List.append_assoc, hwhole]
  obtain ⟨negative, whole, fraction, exponent⟩ := s
  dsimp only at hfraction hleading hexponent ⊢
  split
  · simp at hleading
  · simp at hleading
  · unfold fractionText significand power
    cases fraction with
    | nil =>
      cases exponent with
      | none =>
        cases rest with
        | nil => simp [exponentText]
        | cons b bs =>
          obtain ⟨hdot, hlower, hupper⟩ := hr.2 b rfl
          simp [exponentText, hdot, hlower, hupper]
      | some p =>
        obtain ⟨hdigits, hdigits'⟩ := hexponent p rfl
        simp [exponentText, takeExponent?_sign p.1 hdigits hdigits' hr.1]
    | cons c cs =>
      cases exponent with
      | none =>
        simp only [exponentText, List.nil_append, List.cons_append] at hfraction
        cases rest with
        | nil =>
          rw [List.append_nil] at hfraction
          simp [exponentText, hfraction]
        | cons b bs =>
          obtain ⟨-, hlower, hupper⟩ := hr.2 b rfl
          simp [exponentText, hfraction, hlower, hupper]
      | some p =>
        obtain ⟨hdigits, hdigits'⟩ := hexponent p rfl
        simp only [exponentText, List.cons_append] at hfraction
        simp [exponentText, hfraction, takeExponent?_sign p.1 hdigits hdigits' hr.1]

/-- A numeral in front of a text is taken off it. -/
theorem Legal.takeNumber?_text :
    Json.takeNumber? (s.text ++ rest) = s.numeral?.map (·, rest) := by
  have hmagnitude := h.takeMagnitude?_magnitudeText hr
  unfold Json.takeNumber? text numeral?
  by_cases hneg : s.negative = true
  · rw [if_pos hneg]
    by_cases hexact : s.significand.1 = true
    · simp [hmagnitude, hneg, hexact]
    · cases hnumber : s.significand.2.number? <;> simp [hmagnitude, hneg, hexact, hnumber]
  · obtain ⟨c, cs, hcons, hdigit⟩ := h.exists_head rest
    have hc : c ≠ '-' := by
      rintro rfl
      exact absurd hdigit (by decide)
    rw [if_neg hneg]
    rw [hcons] at hmagnitude ⊢
    by_cases hexact : s.significand.1 = true
    · simp [hmagnitude, hneg, hexact, hc]
    · cases hnumber : s.significand.2.number? <;> simp [hmagnitude, hneg, hexact, hc, hnumber]

end

end Spelling

end StateExpr
