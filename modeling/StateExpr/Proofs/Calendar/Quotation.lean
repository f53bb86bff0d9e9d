import StateExpr.Proofs.Calendar.Format
/-!
# Text in user formats

A user format can hold text that stands for itself: in quotes, in square brackets, and behind
backslashes.  Such text passes two readers, that of the format and that of the pattern which the
format becomes.  To the first one its letters mean nothing because of where they stand, and to the
second one nothing but a percent sign means anything, which is written twice.

Main statements: `UserFormat.Quoted.pieces`, `UserFormat.Quoted.write` and
`Expr.quoted_text_verbatim`.
-/

namespace StateExpr

namespace UserFormat

open Pattern (Pieces)

/-- A format that consists of quotations and of characters behind backslashes, and the text in
them. -/
inductive Quoted : List Char → List Char → Prop where
  | nil : Quoted [] []
  | quotation {opening close : Char} {text format more : List Char}
      (hopening : closing? opening = some close) (hclose : close ∉ text)
      (behind : Quoted format more) :
      Quoted (opening :: (text ++ close :: format)) (text ++ more)
  | escape (c : Char) {format more : List Char} (behind : Quoted format more) :
      Quoted ('\\' :: c :: format) (c :: more)

/-- Each character of a text behind a backslash. -/
def backslashed (text : String) : String := String.ofList (text.toList.flatMap fun c => ['\\', c])

variable {opening close : Char} {text rest : List Char}

/-- Inside a quotation all characters but the closing one are literals. -/
theorem translate_quoted (hclose : close ∉ text) :
    translate (.quoted close) (text ++ close :: rest) =
      text.flatMap literal ++ translate .outside rest := by
  induction text with
  | nil => simp [translate]
  | cons c text ih =>
    have hne : c ≠ close := fun h => hclose (h ▸ List.mem_cons_self)
    have hrest : close ∉ text := fun h => hclose (List.mem_cons_of_mem c h)
    rw [List.cons_append, translate, if_neg hne, ih hrest, List.flatMap_cons, List.append_assoc]

theorem translate_quotation (hopening : closing? opening = some close) (hclose : close ∉ text) :
    translate .outside (opening :: (text ++ close :: rest)) =
      text.flatMap literal ++ translate .outside rest := by
  rw [translate, enter, hopening]
  exact translate_quoted hclose

theorem pieces_literals (text : List Char) :
    Pieces (text.flatMap literal) (text.map .literal) := by
  induction text with
  | nil => exact .nil
  | cons c text ih => exact (pieces_literal c).append ih

theorem renderItems_literals (text : List Char) (stamp : Stamp) :
    Pattern.renderItems stamp (text.map .literal) = String.ofList text := by
  unfold Pattern.renderItems
  induction text with
  | nil => rfl
  | cons c text ih => simp_all [PatternItem.render]

namespace Quoted

variable {format : List Char}

/-- **Quoted text becomes a pattern of literals.** -/
theorem pieces (h : Quoted format text) : Pieces (translate .outside format) (text.map .literal) := by
  induction h with
  | nil => exact .nil
  | quotation hopening hclose behind ih =>
    rw [translate_quotation hopening hclose, List.map_append]
    exact (pieces_literals _).append ih
  | escape c behind ih => exact (pieces_literal c).append ih

theorem length_ne_one (h : Quoted format text) : format.length ≠ 1 := by
  cases h <;> simp

/-- No name of a fixed pattern is a quotation. -/
theorem toPattern_eq {format : String} (h : Quoted format.toList text) :
    toPattern format = String.ofList (translate .outside format.toList) := by
  have hname : ∀ name : String, name.toList.length = 1 → format ≠ name := by
    rintro name hlength rfl
    exact h.length_ne_one hlength
  rw [toPattern, if_neg (not_or.mpr ⟨hname "o" rfl, hname "O" rfl⟩), if_neg (hname "s" rfl)]

/-- **Quoted text is written as it is, at every moment.** -/
theorem write {format t : String} (h : Quoted format.toList t.toList) (stamp : Stamp) :
    Timestamp.write (toPattern format) stamp = .ok t := by
  have hitems : Pattern.items? (toPattern format) = some (t.toList.map .literal) := by
    refine Pieces.items? ?_
    rw [h.toPattern_eq, String.toList_ofList]
    exact h.pieces
  rw [Timestamp.write, Pattern.render?, hitems, Option.map_some, renderItems_literals,
    String.ofList_toList]

theorem enclosed (hopening : closing? opening = some close) (hclose : close ∉ text) :
    Quoted (opening :: (text ++ [close])) text := by
  have h := quotation hopening hclose .nil
  rwa [List.append_nil] at h

theorem backslashed (t : String) : Quoted (UserFormat.backslashed t).toList t.toList := by
  rw [UserFormat.backslashed, String.toList_ofList]
  induction t.toList with
  | nil => exact .nil
  | cons c text ih => exact .escape c ih

end Quoted

end UserFormat

namespace Expr

variable {ambient : Ambient} {format t : String}

/-- The format shows a text and nothing of the moment: the text is written for every clock reading,
and the operators that write a moment give it whenever they give something without a format. -/
def ShowsText (ambient : Ambient) (format t : String) : Prop :=
  (∀ stamp, Timestamp.write (UserFormat.toPattern format) stamp = .ok t) ∧
    ∀ op ∈ formatting, ∀ v r, Returns ambient op [v, .text format] r ↔
      r = .text t ∧ ∃ r', Returns ambient op [v] r'

theorem eq_text_of_writesMoment {f : List Value → Except String Value} (hf : Time.WritesMoment f)
    (h : ∀ stamp, Timestamp.write (UserFormat.toPattern format) stamp = .ok t) {v r : Value}
    (hr : f [v, .text format] = .ok r) : r = .text t := by
  obtain ⟨pattern, moment, -, hf⟩ := hf
  rw [hf] at hr
  change (moment v >>= fun m => Time.render [v, .text format] 1 pattern (.utc m)) = .ok r at hr
  cases hm : moment v with
  | error message =>
    rw [hm] at hr
    cases hr
  | ok m =>
    rw [hm] at hr
    change (Time.withMessage (Timestamp.write (UserFormat.toPattern format) (.utc m))).map .text
      = .ok r at hr
    rw [h] at hr
    cases hr
    rfl

/-- What is written for every clock reading is what the operators give. -/
theorem showsText_of_write
    (h : ∀ stamp, Timestamp.write (UserFormat.toPattern format) stamp = .ok t) :
    ShowsText ambient format t := by
  refine ⟨h, fun op hop v r => ?_⟩
  have hname : format ≠ "o" ∧ format ≠ "O" :=
    UserFormat.items?_toPattern_iff.mp (Timestamp.write_eq_ok_iff.mp ⟨t, h (.utc ⟨0, 0, 0⟩)⟩)
  have hwrites : WritesMoment ambient op := writesMoment_of_mem hop
  obtain ⟨f, check, hstrategy, hf, hcheck⟩ := hwrites
  have hplain := isComprehension_of_mem_formatting hop
  simp only [returns_iff_of_applyWithError hplain hstrategy, checked_format_iff hcheck]
  constructor
  · rintro ⟨hchecked, hr⟩
    obtain ⟨⟨r', hr'⟩, -⟩ := (hf.ok_iff v format).mp ⟨r, hr⟩
    exact ⟨eq_text_of_writesMoment hf h hr, r', hchecked, hr'⟩
  · rintro ⟨rfl, r', hchecked, hr'⟩
    obtain ⟨r, hr⟩ := (hf.ok_iff v format).mpr ⟨⟨r', hr'⟩, hname⟩
    exact ⟨hchecked, eq_text_of_writesMoment hf h hr ▸ hr⟩

/-- **Quoted text is shown as it is.**  A text in single or double quotes or in square brackets that
does not close them, and a text with each character behind a backslash, is shown unchanged, whatever
letters, percent signs and other quotes are in it.  So is what several quotations hold one behind
the other. -/
theorem quoted_text_verbatim (ambient : Ambient) (t : String) :
    ('\'' ∉ t.toList → ShowsText ambient ("'" ++ t ++ "'") t) ∧
    ('"' ∉ t.toList → ShowsText ambient ("\"" ++ t ++ "\"") t) ∧
    (']' ∉ t.toList → ShowsText ambient ("[" ++ t ++ "]") t) ∧
    ShowsText ambient (UserFormat.backslashed t) t ∧
    ∀ format : String, UserFormat.Quoted format.toList t.toList → ShowsText ambient format t := by
  have hshows : ∀ format : String, UserFormat.Quoted format.toList t.toList →
      ShowsText ambient format t := fun format h => showsText_of_write h.write
  have henclosed : ∀ opening close : Char, UserFormat.closing? opening = some close →
      close ∉ t.toList → UserFormat.Quoted (opening :: (t.toList ++ [close])) t.toList :=
    fun opening close => UserFormat.Quoted.enclosed
  refine ⟨fun h => hshows _ ?_, fun h => hshows _ ?_, fun h => hshows _ ?_,
    hshows _ (.backslashed t), hshows⟩
  · simpa using henclosed '\'' '\'' rfl h
  · simpa using henclosed '"' '"' rfl h
  · simpa using henclosed '[' ']' rfl h

/-- Format letters, percent signs, other quotes and backslashes inside of quotations. -/
theorem quoted_text_verbatim_nested :
    let ambient : Ambient := .still
    let shown : String → String → Prop := fun format t =>
      Returns ambient .formatEpoch [.number 0, .text format] (.text t)
    shown ("'" ++ "%Y \"HH\" [100%] \\" ++ "'") "%Y \"HH\" [100%] \\" ∧
      shown ("\"" ++ "o'%%[" ++ "\"") "o'%%[" ∧ shown ("[" ++ "'%.7f\"[" ++ "]") "'%.7f\"[" ∧
      shown (UserFormat.backslashed "%'y") "%'y" ∧ shown "'%a'[m]\\%" "%am%" := by
  intro ambient shown
  have hfirst : (Time.formatEpoch [.number 0]).isOk = true := by decide +kernel
  have hplain : ∃ r, Returns ambient .formatEpoch [.number 0] r := by
    cases hr : Time.formatEpoch [.number 0] with
    | error message =>
      rw [hr] at hfirst
      cases hfirst
    | ok r => exact ⟨r, (returns_iff_of_applyWithError rfl rfl).mpr ⟨checked_none 0 _, hr⟩⟩
  have hshown : ∀ format t, ShowsText ambient format t → shown format t :=
    fun format t h => (h.2 .formatEpoch (by decide) (.number 0) _).mpr ⟨rfl, hplain⟩
  have hmixed : UserFormat.Quoted "'%a'[m]\\%".toList "%am%".toList := by
    have hbrackets : UserFormat.Quoted "[m]\\%".toList "m%".toList :=
      .quotation rfl (by decide : ']' ∉ ['m']) (.escape '%' .nil)
    exact .quotation rfl (by decide : '\'' ∉ ['%', 'a']) hbrackets
  exact ⟨hshown _ _ ((quoted_text_verbatim ambient _).1 (by decide)),
    hshown _ _ ((quoted_text_verbatim ambient _).2.1 (by decide)),
    hshown _ _ ((quoted_text_verbatim ambient _).2.2.1 (by decide)),
    hshown _ _ (quoted_text_verbatim ambient _).2.2.2.1,
    hshown _ _ ((quoted_text_verbatim ambient _).2.2.2.2 _ hmixed)⟩

end Expr

end StateExpr
