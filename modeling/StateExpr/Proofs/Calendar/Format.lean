import StateExpr.Proofs.Calendar.Ticks
import StateExpr.Proofs.Calls
/-!
# User formats as patterns

A pattern is read piece by piece, so what is read of two patterns one behind the other is read of
both.  Each run of a format letter becomes a specifier that ends where it says, whatever stands
behind it, and all other characters of a user format become literals.  So every user format is a
pattern, but for the name `o` of a fixed one with seven places of the second, of which patterns know
three, six and nine.

Main statements: `Pattern.Pieces.items?`, `UserFormat.exists_pieces` and
`Expr.user_formats_render`.
-/

namespace StateExpr

/-! ## Patterns piece by piece -/

namespace Pattern

/-- The pieces of a pattern whose specifiers are the same whatever stands behind them. -/
inductive Pieces : List Char → List PatternItem → Prop where
  | nil : Pieces [] []
  | literal {c : Char} {cs : List Char} {items : List PatternItem} (hc : c ≠ '%')
      (behind : Pieces cs items) : Pieces (c :: cs) (.literal c :: items)
  | specifier {body cs : List Char} {items more : List PatternItem}
      (hbody : ∀ rest, specifier? (body ++ rest) = some (items, rest)) (behind : Pieces cs more) :
      Pieces ('%' :: (body ++ cs)) (items ++ more)

namespace Pieces

variable {as bs : List Char} {items more : List PatternItem}

/-- **What has pieces is read as them.** -/
theorem itemsFrom? (h : Pieces as items) {fuel : ℕ} (hfuel : as.length ≤ fuel) :
    itemsFrom? fuel as = some items := by
  induction h generalizing fuel with
  | nil => cases fuel <;> rfl
  | literal hc behind ih =>
    rw [List.length_cons] at hfuel
    obtain ⟨n, rfl⟩ : ∃ n, fuel = n + 1 := ⟨fuel - 1, by omega⟩
    rw [Pattern.itemsFrom?, ih (by omega)]
    · rfl
    · exact hc
  | specifier hbody behind ih =>
    rw [List.length_cons, List.length_append] at hfuel
    obtain ⟨n, rfl⟩ : ∃ n, fuel = n + 1 := ⟨fuel - 1, by omega⟩
    rw [Pattern.itemsFrom?, hbody, Option.bind_eq_bind, Option.bind_some]
    dsimp only
    rw [ih (by omega)]
    rfl

theorem items? {pattern : String} (h : Pieces pattern.toList items) :
    items? pattern = some items :=
  h.itemsFrom? (Nat.le_refl _)

theorem append (h : Pieces as items) (h' : Pieces bs more) :
    Pieces (as ++ bs) (items ++ more) := by
  induction h with
  | nil => exact h'
  | literal hc behind ih => exact .literal hc ih
  | specifier hbody behind ih =>
    rw [List.cons_append, List.append_assoc, List.append_assoc]
    exact .specifier hbody ih

theorem of_specifier {body : List Char}
    (h : ∀ rest, specifier? (body ++ rest) = some (items, rest)) : Pieces ('%' :: body) items := by
  have hpieces := specifier h nil
  rwa [List.append_nil, List.append_nil] at hpieces

end Pieces

end Pattern

/-! ## User formats -/

namespace UserFormat

open Pattern (Pieces)

theorem pieces_literal (c : Char) : Pieces (literal c) [.literal c] := by
  unfold literal
  split
  · rename_i hc
    subst hc
    exact .of_specifier fun rest => rfl
  · rename_i hc
    exact .literal hc .nil

/-- The specifiers that runs of format letters become. -/
def specifiers : List String :=
  ["%y", "%Y", "%-m", "%m", "%b", "%B", "%-d", "%d", "%a", "%A", "%j", "%-H", "%H", "%-I", "%I",
    "%-M", "%M", "%-S", "%S", "%3f", "%6f", "%9f", "%p", "%P", "%:::z", "%:z", "%z"]

theorem specifier?_mem {c : Char} {run : ℕ} {text : String} (h : specifier? c run = some text) :
    text ∈ specifiers := by
  unfold specifier? at h
  -- by letter, and then by the length of the run
  repeat' split at h
  all_goals
    cases h
    try decide

/-- Patterns know these specifiers, whatever stands behind them. -/
theorem exists_specifier : ∀ text ∈ specifiers, ∃ body items, text.toList = '%' :: body ∧
    ∀ rest, Pattern.specifier? (body ++ rest) = some (items, rest) := by
  unfold specifiers
  repeat' refine List.forall_mem_cons.mpr ⟨⟨_, _, rfl, fun _ => rfl⟩, ?_⟩
  exact nofun

theorem exists_pieces_ofRun (c : Char) (run : ℕ) : ∃ items, Pieces (ofRun c run) items := by
  unfold ofRun
  cases h : specifier? c run with
  | some text =>
    obtain ⟨body, items, htext, hbody⟩ := exists_specifier text (specifier?_mem h)
    dsimp only
    rw [htext]
    exact ⟨items, .of_specifier hbody⟩
  | none =>
    clear h
    dsimp only
    induction run with
    | zero => exact ⟨[], .nil⟩
    | succ run ih =>
      obtain ⟨items, hitems⟩ := ih
      rw [List.replicate_succ, List.flatMap_cons]
      exact ⟨_, (pieces_literal c).append hitems⟩

/-- **What is written for a format has pieces**, from any place in it on. -/
theorem exists_pieces (place : Place) (cs : List Char) :
    ∃ items, Pieces (translate place cs) items := by
  induction cs generalizing place with
  | nil =>
    cases place with
    | inRun c run => exact exists_pieces_ofRun c run
    | outside | quoted | escaped => exact ⟨[], .nil⟩
  | cons c rest ih =>
    cases place with
    | outside => exact ih (enter c)
    | escaped =>
      obtain ⟨items, hitems⟩ := ih .outside
      exact ⟨_, (pieces_literal c).append hitems⟩
    | quoted close =>
      rw [translate]
      split
      · exact ih .outside
      · obtain ⟨items, hitems⟩ := ih (.quoted close)
        exact ⟨_, (pieces_literal c).append hitems⟩
    | inRun d run =>
      rw [translate]
      split
      · exact ih (.inRun d (run + 1))
      · obtain ⟨items, hitems⟩ := exists_pieces_ofRun d run
        obtain ⟨more, hmore⟩ := ih (enter c)
        exact ⟨_, hitems.append hmore⟩

/-- **All formats but the names of the pattern with seven places of the second are patterns.** -/
theorem items?_toPattern_iff {format : String} :
    (∃ items, Pattern.items? (toPattern format) = some items) ↔ format ≠ "o" ∧ format ≠ "O" := by
  unfold toPattern
  split
  · rename_i hname
    have hnone : Pattern.items? "%Y-%m-%dT%H:%M:%S%.7f%:z" = none := by decide +kernel
    rw [hnone]
    exact iff_of_false nofun fun h => hname.elim h.1 h.2
  · rename_i hname
    refine iff_of_true ?_ (not_or.mp hname)
    split
    · exact Option.isSome_iff_exists.mp (by decide +kernel)
    · obtain ⟨items, hitems⟩ := exists_pieces .outside format.toList
      refine ⟨items, Pieces.items? ?_⟩
      rwa [String.toList_ofList]

end UserFormat

/-! ## Moments in user formats -/

theorem Timestamp.write_eq_ok_iff {pattern : String} {stamp : Stamp} :
    (∃ text, write pattern stamp = .ok text) ↔ ∃ items, Pattern.items? pattern = some items := by
  unfold write Pattern.render?
  cases Pattern.items? pattern with
  | none => exact iff_of_false nofun nofun
  | some items => exact iff_of_true ⟨_, rfl⟩ ⟨_, rfl⟩

namespace Time

/-- The function finds a moment by its first argument and writes it in the user format behind that,
or by a pattern of its own. -/
def WritesMoment (f : List Value → Except String Value) : Prop :=
  ∃ (pattern : String) (moment : Value → Except String Moment),
    (∃ items, Pattern.items? pattern = some items) ∧
    ∀ args, f args = moment (argument args 0) >>= fun m => render args 1 pattern (.utc m)

theorem render_eq_ok_iff {args : List Value} {position : ℕ} {pattern : String} {stamp : Stamp} :
    (∃ r, render args position pattern stamp = .ok r) ↔
      ∃ text, Timestamp.writeAs (args[position]?.bind Value.asText?) pattern stamp = .ok text := by
  unfold render withMessage
  cases Timestamp.writeAs (args[position]?.bind Value.asText?) pattern stamp with
  | error fault => exact iff_of_false nofun nofun
  | ok text => exact iff_of_true ⟨_, rfl⟩ ⟨_, rfl⟩

/-- **A format makes such a function fail when it is no pattern, and only then.** -/
theorem WritesMoment.ok_iff {f : List Value → Except String Value} (hf : WritesMoment f) (v : Value)
    (format : String) : (∃ r, f [v, .text format] = .ok r) ↔
      (∃ r, f [v] = .ok r) ∧ format ≠ "o" ∧ format ≠ "O" := by
  obtain ⟨pattern, moment, hpattern, hf⟩ := hf
  rw [hf, hf]
  change (∃ r, moment v >>= _ = _) ↔ (∃ r, moment v >>= _ = _) ∧ _
  cases moment v with
  | error message => exact iff_of_false nofun fun h => nomatch h.1.choose_spec
  | ok m =>
    have hplain : ∃ r, render [v] 1 pattern (.utc m) = .ok r :=
      render_eq_ok_iff.mpr (Timestamp.write_eq_ok_iff.mpr hpattern)
    have hformat : (∃ r, render [v, .text format] 1 pattern (.utc m) = .ok r) ↔
        format ≠ "o" ∧ format ≠ "O" :=
      render_eq_ok_iff.trans (Timestamp.write_eq_ok_iff.trans UserFormat.items?_toPattern_iff)
    exact hformat.trans (and_iff_right hplain).symm

/-- The moment that is written of a number of seconds or a timestamp. -/
def momentOfDateTime : Value → Except String Moment
  | .number seconds => ofSeconds seconds
  | .text s => withMessage (Timestamp.readLenient s)
  | v => throw (TimestampFault.unreadable v.display).message

theorem writesMoment_formatDateTime : WritesMoment formatDateTime := by
  refine ⟨_, momentOfDateTime, ⟨_, items?_isoPattern⟩, ?_⟩
  intro args
  unfold formatDateTime lenient
  cases argument args 0 <;> rfl

/-- The moment that is written of a number of seconds. -/
def momentOfEpoch : Value → Except String Moment
  | .number seconds => ofSeconds seconds
  | v => throw (v.display ++ " is not a number.")

theorem writesMoment_formatEpoch : WritesMoment formatEpoch := by
  refine ⟨_, momentOfEpoch, ⟨_, items?_isoPattern⟩, ?_⟩
  intro args
  unfold formatEpoch
  cases argument args 0 <;> rfl

/-- The moment that is written of a number of ticks. -/
def momentOfTicks (v : Value) : Except String Moment :=
  match v.integer? with
  | none => throw (v.display ++ " is not a integer.")
  | some ticks =>
    match Moment.ofTicks ticks with
    | none => throw (outOfRange (toString ticks))
    | some m => pure m

theorem writesMoment_formatTicks : WritesMoment formatTicks := by
  refine ⟨_, momentOfTicks, ⟨_, items?_isoPattern⟩, ?_⟩
  intro args
  unfold formatTicks momentOfTicks
  cases (argument args 0).integer? with
  | none => rfl
  | some ticks =>
    dsimp only
    cases Moment.ofTicks ticks <;> rfl

/-- The moment that is written for the start of something around a timestamp. -/
def momentOfStart (g : Moment → Option Moment) (v : Value) : Except String Moment := do
  let m ← withMessage (Timestamp.readIso v.textOrEmpty)
  match g m with
  | some truncated => pure truncated
  | none => throw (v.display ++ " cannot be truncated.")

theorem writesMoment_startOf (g : Moment → Option Moment) : WritesMoment (startOf g) := by
  refine ⟨_, momentOfStart g, ⟨_, items?_defaultPattern⟩, ?_⟩
  intro args
  unfold startOf momentOfStart iso
  cases withMessage (Timestamp.readIso (argument args 0).textOrEmpty) with
  | error message => rfl
  | ok m =>
    dsimp only [bind, Except.bind]
    cases g m <;> rfl

end Time

namespace Expr

variable {ambient : Ambient} {op : Operator} {f : List Value → Except String Value}

/-- An operator that writes a moment, perhaps in a format, which it checks to be a text if at
all. -/
def WritesMoment (ambient : Ambient) (op : Operator) : Prop :=
  ∃ f check, (op.evaluator ambient).strategy = .applyWithError f check ∧ Time.WritesMoment f ∧
    (check = none ∨ check = some .string)

theorem checked_format_iff {check : Option Check} (hcheck : check = none ∨ check = some .string)
    {v : Value} {format : String} : Checked check 0 [v, .text format] ↔ Checked check 0 [v] := by
  rcases hcheck with rfl | rfl
  · exact iff_of_true (checked_none 0 _) (checked_none 0 _)
  · have htext : Checked (some .string) 1 [.text format] := ⟨⟨constant .null, rfl⟩, trivial⟩
    exact and_congr_right fun _ => iff_of_true htext trivial

/-- Operators that find a moment by their first operand and write it in the format behind that. -/
def formatting : List Operator :=
  [.formatDateTime, .formatEpoch, .formatTicks, .startOfDay, .startOfHour, .startOfMonth]

theorem writesMoment_of_mem (hop : op ∈ formatting) : WritesMoment ambient op := by
  simp only [formatting, List.mem_cons, List.not_mem_nil, or_false] at hop
  rcases hop with rfl | rfl | rfl | rfl | rfl | rfl
  · exact ⟨_, _, rfl, Time.writesMoment_formatDateTime, .inl rfl⟩
  · exact ⟨_, _, rfl, Time.writesMoment_formatEpoch, .inl rfl⟩
  · exact ⟨_, _, rfl, Time.writesMoment_formatTicks, .inl rfl⟩
  · exact ⟨_, _, rfl, Time.writesMoment_startOf _, .inr rfl⟩
  · exact ⟨_, _, rfl, Time.writesMoment_startOf _, .inr rfl⟩
  · exact ⟨_, _, rfl, Time.writesMoment_startOf _, .inr rfl⟩

theorem isComprehension_of_mem_formatting (hop : op ∈ formatting) : op.isComprehension = false := by
  simp only [formatting, List.mem_cons, List.not_mem_nil, or_false] at hop
  rcases hop with rfl | rfl | rfl | rfl | rfl | rfl <;> rfl

/-- **User formats render.**  Each format but the names of the pattern with seven places of the
second is a pattern of specifiers that exist, and every clock reading can be written in it.  So with
such a format the operators that write a moment give something whenever they do without a format,
and with one of the two names they never do. -/
theorem user_formats_render (ambient : Ambient) (format : String) :
    ((∃ items, Pattern.items? (UserFormat.toPattern format) = some items) ↔
      format ≠ "o" ∧ format ≠ "O") ∧
    (∀ stamp, (∃ text, Timestamp.write (UserFormat.toPattern format) stamp = .ok text) ↔
      format ≠ "o" ∧ format ≠ "O") ∧
    ∀ op ∈ formatting, ∀ v, (∃ r, Returns ambient op [v, .text format] r) ↔
      (∃ r, Returns ambient op [v] r) ∧ format ≠ "o" ∧ format ≠ "O" := by
  refine ⟨UserFormat.items?_toPattern_iff, fun stamp => ?_, fun op hop v => ?_⟩
  · exact Timestamp.write_eq_ok_iff.trans UserFormat.items?_toPattern_iff
  · have hwrites : WritesMoment ambient op := writesMoment_of_mem hop
    obtain ⟨f, check, hstrategy, hf, hcheck⟩ := hwrites
    have hplain := isComprehension_of_mem_formatting hop
    simp only [returns_iff_of_applyWithError hplain hstrategy, exists_and_left,
      checked_format_iff hcheck, hf.ok_iff, and_assoc]

/-- A percent sign, an open bracket behind a closed quotation, and a backslash at the end. -/
theorem user_formats_render_open_quotation :
    let ambient : Ambient := .still
    let source : Value := .text "2018-03-15T13:30:30.500Z"
    (∃ r, Returns ambient .startOfHour [source, .text "100%'%y'yyyyy.SSSSSSS[h"] r) ∧
      ∃ r, Returns ambient .startOfHour [source, .text "zzz\\"] r := by
  intro ambient source
  have hop : Operator.startOfHour ∈ formatting := by decide
  have hiso : Timestamp.iso? "2018-03-15T13:30:30.500Z" = some ⟨17605, 48630, 500000000⟩ := by
    decide +kernel
  have hread : Time.iso [source] 0 = .ok ⟨17605, 48630, 500000000⟩ := Time.iso_of_iso? hiso
  have hhour : Moment.startOfHour? ⟨17605, 48630, 500000000⟩ = some ⟨17605, 46800, 0⟩ := by
    decide +kernel
  have hstart : ∃ r, Time.startOf Moment.startOfHour? [source] = .ok r := by
    unfold Time.startOf
    rw [hread]
    dsimp only [bind, Except.bind]
    rw [hhour]
    change ∃ r, Time.render [source] 1 UserFormat.defaultPattern (.utc ⟨17605, 46800, 0⟩) = .ok r
    refine Time.render_eq_ok_iff.mpr ?_
    exact Timestamp.write_eq_ok_iff.mpr ⟨_, items?_defaultPattern⟩
  have hplain : ∃ r, Returns ambient .startOfHour [source] r := by
    obtain ⟨r, hr⟩ := hstart
    have hchecked : Checked (some .string) 0 [source] := ⟨⟨constant .null, rfl⟩, trivial⟩
    exact ⟨r, (returns_iff_of_applyWithError rfl rfl).mpr ⟨hchecked, hr⟩⟩
  exact ⟨((user_formats_render ambient _).2.2 _ hop source).mpr ⟨hplain, by decide, by decide⟩,
    ((user_formats_render ambient _).2.2 _ hop source).mpr ⟨hplain, by decide, by decide⟩⟩

/-- The name of the fixed pattern makes every operator fail that writes a moment. -/
theorem round_trip_format_fails :
    let ambient : Ambient := .still
    let source : Value := .text "2018-03-15T13:00:00.000Z"
    (operation ambient .formatDateTime [constant source, constant (.text "o")]).evaluate.outcome
        .null = (.error (.failure
          "Format error: %Y-%m-%dT%H:%M:%S%.7f%:z is not a valid format"), .null) ∧
      (operation ambient .formatDateTime [constant source]).evaluate.outcome .null =
        (.ok source, .null) := by
  intro ambient source
  have hlenient : Timestamp.lenient? "2018-03-15T13:00:00.000Z" = some ⟨17605, 46800, 0⟩ := by
    decide +kernel
  have hpattern : Pattern.render? (UserFormat.toPattern "o") (.utc ⟨17605, 46800, 0⟩) = none := by
    decide +kernel
  have htext : Pattern.render? UserFormat.isoPattern (.utc ⟨17605, 46800, 0⟩) =
      some "2018-03-15T13:00:00.000Z" := by
    decide +kernel
  have hread : ∀ args, Time.formatDateTime (source :: args) =
      Time.render (source :: args) 1 UserFormat.isoPattern (.utc ⟨17605, 46800, 0⟩) := by
    intro args
    change Time.withMessage (Timestamp.readLenient "2018-03-15T13:00:00.000Z") >>= _ = _
    rw [Timestamp.readLenient, hlenient]
    rfl
  have hoperands := fun vs => Operands.constant vs .null
  constructor
  · refine (outcome_of_applyWithError rfl rfl (checked_none 0 _)
      (hoperands [source, .text "o"])).trans ?_
    rw [hread]
    change ((Except.map Value.text (Time.withMessage (Timestamp.write
      (UserFormat.toPattern "o") (.utc ⟨17605, 46800, 0⟩)))).mapError EvalError.failure, _) = _
    rw [Timestamp.write, hpattern]
    rfl
  · refine (outcome_of_applyWithError rfl rfl (checked_none 0 _) (hoperands [source])).trans ?_
    rw [hread]
    change ((Except.map Value.text (Time.withMessage (Timestamp.write
      UserFormat.isoPattern (.utc ⟨17605, 46800, 0⟩)))).mapError EvalError.failure, _) = _
    rw [Timestamp.write, htext]
    rfl

end Expr

end StateExpr
