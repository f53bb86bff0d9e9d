import StateExpr.Proofs.Outcome
import StateExpr.Proofs.Resolution
import StateExpr.Proofs.Validation
/-!
# The declared type of a value

The type that a node declares is right: whenever a well-formed node of a built-in operator has a
value, the value is of that type, whatever its children are.  For most operators this is how their
functions are made.  A fold gives a number only because there is an operand and the operands have
been checked, and a count only because its argument has.

Main statements: `Operator.evaluator_sound`, that every built-in evaluator gives what it declares
when it has as many arguments as its signature asks for, and `Expr.evaluate_returnType`.
-/

namespace StateExpr

/-! ## Types of values -/

/-- A value is of a type; nothing is said of an `object`. -/
def ReturnType.Includes : ReturnType → Value → Prop
  | boolean, v => ∃ b, v = .bool b
  | number, v => ∃ x, v = .number x
  | string, v => ∃ s, v = .text s
  | object, _ => True

open ReturnType (Includes)

theorem ReturnType.includes_ofValue (v : Value) : (ofValue v).Includes v := by
  cases v with
  | bool b => exact ⟨b, rfl⟩
  | number x => exact ⟨x, rfl⟩
  | text s => exact ⟨s, rfl⟩
  | null | list items | map entries => trivial

/-! ## Functions that can fail -/

namespace Arithmetic

theorem remainder_yields (args : List Value) : Yields (Includes .number) (remainder args) := by
  unfold remainder
  dsimp only
  split
  · exact .error
  · exact .ok ⟨_, rfl⟩

theorem minimum_yields (args : List Value) : Yields (Includes .number) (minimum args) := by
  unfold minimum
  split
  · exact .error
  · exact .ok ⟨_, rfl⟩

theorem maximum_yields (args : List Value) : Yields (Includes .number) (maximum args) := by
  unfold maximum
  split
  · exact .error
  · exact .ok ⟨_, rfl⟩

theorem average_yields (args : List Value) : Yields (Includes .number) (average args) := by
  unfold average
  split
  · exact .error
  · exact .ok ⟨_, rfl⟩

theorem squareRoot_yields (args : List Value) : Yields (Includes .number) (squareRoot args) := by
  unfold squareRoot
  dsimp only
  split
  · exact .error
  · exact .ok ⟨_, rfl⟩

theorem round_yields (args : List Value) : Yields (Includes .number) (round args) := by
  unfold round
  dsimp only
  split
  · exact .ok ⟨_, rfl⟩
  · split
    · split
      · exact .ok ⟨_, rfl⟩
      · exact .error
    · exact .error

end Arithmetic

namespace Texts

theorem includes_positionOrNone (position : Option Nat) :
    Includes .number (positionOrNone position) := by
  cases position with
  | none => exact ⟨_, rfl⟩
  | some i => exact ⟨_, rfl⟩

theorem includes_sentenceCase (args : List Value) : Includes .string (sentenceCase args) := by
  unfold sentenceCase
  split
  · exact ⟨_, rfl⟩
  · exact ⟨_, rfl⟩

theorem replace_yields (args : List Value) : Yields (Includes .string) (replace args) := by
  unfold replace
  dsimp only
  split
  · exact .error
  · exact .ok ⟨_, rfl⟩

theorem replaceIgnoreCase_yields (args : List Value) :
    Yields (Includes .string) (replaceIgnoreCase args) := by
  unfold replaceIgnoreCase
  dsimp only
  split
  · exact .error
  · exact .ok ⟨_, rfl⟩

theorem indexOf_yields (shared : Value → Bool) (args : List Value) :
    Yields (Includes .number) (indexOf shared args) := by
  unfold indexOf
  split
  · exact .ok (includes_positionOrNone _)
  · exact .ok (includes_positionOrNone _)
  · exact .ok (includes_positionOrNone _)
  · exact .error

theorem lastIndexOf_yields (shared : Value → Bool) (args : List Value) :
    Yields (Includes .number) (lastIndexOf shared args) := by
  unfold lastIndexOf
  split
  · exact .ok (includes_positionOrNone _)
  · exact .ok (includes_positionOrNone _)
  · exact .ok (includes_positionOrNone _)
  · exact .error

theorem formatNumber_yields (args : List Value) :
    Yields (Includes .string) (formatNumber args) := by
  unfold formatNumber
  split
  · exact .error
  · split
    · exact .ok ⟨_, rfl⟩
    · exact .error

theorem isMatch_yields (args : List Value) : Yields (Includes .boolean) (isMatch args) := by
  unfold isMatch
  split
  · exact .ok ⟨_, rfl⟩
  · exact .error

end Texts

namespace Time

theorem render_yields (args : List Value) (position : Nat) (default : String) (stamp : Stamp) :
    Yields (Includes .string) (render args position default stamp) :=
  .map (fun s => ⟨s, rfl⟩) _

theorem part_yields (f : Moment → Int) (args : List Value) :
    Yields (Includes .number) (part f args) :=
  .map (fun _ => ⟨_, rfl⟩) _

theorem date_yields (args : List Value) : Yields (Includes .string) (date args) :=
  .bind (fun _ => .ok ⟨_, rfl⟩) _

theorem timeOfDay_yields (args : List Value) : Yields (Includes .string) (timeOfDay args) :=
  .bind (fun _ => .ok ⟨_, rfl⟩) _

theorem ticks_yields (args : List Value) : Yields (Includes .number) (ticks args) := by
  refine .bind ?_ _
  intro m
  split
  · exact .ok ⟨_, rfl⟩
  · exact .error

theorem readBack_yields (args : List Value) : Yields (Includes .string) (readBack args) :=
  .bind (fun _ => .bind (fun _ => .ok ⟨_, rfl⟩) _) _

theorem formatDateTime_yields (args : List Value) :
    Yields (Includes .string) (formatDateTime args) := by
  unfold formatDateTime
  split
  · exact .bind (fun _ => render_yields _ _ _ _) _
  · exact .bind (fun _ => render_yields _ _ _ _) _
  · exact .error

theorem formatEpoch_yields (args : List Value) : Yields (Includes .string) (formatEpoch args) := by
  unfold formatEpoch
  split
  · exact .bind (fun _ => render_yields _ _ _ _) _
  · exact .error

theorem formatTicks_yields (args : List Value) : Yields (Includes .string) (formatTicks args) := by
  unfold formatTicks
  split
  · exact .error
  · split
    · exact .error
    · exact render_yields _ _ _ _

theorem startOf_yields (f : Moment → Option Moment) (args : List Value) :
    Yields (Includes .string) (startOf f args) := by
  refine .bind ?_ _
  intro m
  split
  · exact render_yields _ _ _ _
  · exact .error

theorem difference_yields (args : List Value) : Yields (Includes .number) (difference args) := by
  refine .bind ?_ _
  intro first
  refine .bind ?_ _
  intro second
  split
  · split
    · exact .ok ⟨_, rfl⟩
    · exact .error
  · exact .error

end Time

namespace Conversion

theorem float_yields (args : List Value) : Yields (Includes .number) (float args) :=
  .map (fun x => ⟨x, rfl⟩) _

theorem int_yields (args : List Value) : Yields (Includes .number) (int args) := by
  refine .bind ?_ _
  intro x
  split
  · exact .ok ⟨_, rfl⟩
  · exact .error

theorem decoded_yields (f : String → Except Codec.Fault String) (args : List Value) :
    Yields (Includes .string) (decoded f args) := by
  unfold decoded
  split
  · exact .ok ⟨_, rfl⟩
  · exact .error

end Conversion

theorem Chance.rand_yields (ambient : Ambient) (args : List Value) :
    Yields (Includes .number) (rand ambient args) := by
  unfold rand
  dsimp only
  split
  · exact .error
  · split
    · exact .ok ⟨_, rfl⟩
    · exact .ok ⟨_, rfl⟩

theorem Query.xml_yields (args : List Value) : Yields (Includes .string) (xml args) := by
  unfold xml
  split
  · split
    · exact .ok ⟨_, rfl⟩
    · exact .error
  · exact .ok ⟨_, rfl⟩

theorem Uri.part_yields (f : Url → String) (args : List Value) :
    Yields (Includes .string) (part f args) := by
  unfold part
  dsimp only
  split
  · exact .ok ⟨_, rfl⟩
  · exact .error

/-! ## Special forms -/

/-- The type of the values that a form gives. -/
def Form.returnType : Form → ReturnType
  | contains _ | and | or | not | quantified _ => .boolean
  | substring | join | shiftTime .. | shiftNow .. | convertFromUtc _ | convertToUtc _ => .string
  | _ => .object

namespace Expr

open StateExpr.Action (Gives)

variable {σ : Type} {scoping : Scoping σ} {e : Expr} {ms : List (Meaning σ)}

theorem runContains_gives (eq : Value → Value → Bool) :
    (runContains eq ms).Gives (Includes .boolean) := by
  refine .andThen ?_ _
  intro result
  cases result with
  | ok args => exact .pure ⟨_, rfl⟩
  | error error => exact .pure ⟨_, rfl⟩

theorem runAnd_gives : (runAnd ms).Gives (Includes .boolean) := by
  induction ms with
  | nil => exact .pure ⟨_, rfl⟩
  | cons m rest ih =>
    refine .andThen ?_ _
    intro result
    cases result with
    | ok v =>
      dsimp only
      split
      · exact ih
      · exact .pure ⟨_, rfl⟩
    | error error => exact .pure ⟨_, rfl⟩

theorem runOr_gives : (runOr ms).Gives (Includes .boolean) := by
  induction ms with
  | nil => exact .pure ⟨_, rfl⟩
  | cons m rest ih =>
    refine .andThen ?_ _
    intro result
    cases result with
    | ok v =>
      dsimp only
      split
      · exact .pure ⟨_, rfl⟩
      · exact ih
    | error error => exact ih

theorem runNot_gives : (runNot ms).Gives (Includes .boolean) := by
  cases ms with
  | nil => exact .pure ⟨_, rfl⟩
  | cons m rest =>
    refine .andThen ?_ _
    intro result
    cases result with
    | ok v => exact .pure ⟨_, rfl⟩
    | error error => exact .pure ⟨_, rfl⟩

theorem runSubstring_gives : (runSubstring e ms).Gives (Includes .string) := by
  refine .andThen ?_ _
  intro args
  cases args.getD 0 .null with
  | null => exact .pure ⟨_, rfl⟩
  | text s =>
    refine .andThen ?_ _
    intro start
    cases args[2]? with
    | none => exact .pure ⟨_, rfl⟩
    | some count => exact .andThen (fun _ => .pure ⟨_, rfl⟩) _
  | _ => exact .throw

theorem runJoin_gives : (runJoin e ms).Gives (Includes .string) := by
  refine .andThen ?_ _
  intro args
  cases args.getD 0 .null with
  | list items =>
    dsimp only
    split
    · exact .throw
    · exact .pure ⟨_, rfl⟩
  | _ => exact .throw

theorem writeShifted_gives (shifted : Option Moment) (format : Option String) (pattern : String) :
    (writeShifted e shifted format pattern : Action σ Value).Gives (Includes .string) := by
  cases shifted with
  | none => exact .throw
  | some m => exact .andThen (fun _ => .pure ⟨_, rfl⟩) _

theorem runTimeTransform_gives (f : Moment → Int → Option Moment) :
    (runTimeTransform e f ms).Gives (Includes .string) := by
  refine .andThen ?_ _
  intro args
  split
  · refine .andThen ?_ _
    intro moment
    split
    · exact .throw
    · exact .andThen (fun _ => .pure ⟨_, rfl⟩) _
  · exact .throw

theorem runShiftTime_gives (forward : Bool) (pattern : String) :
    (runShiftTime e forward pattern ms).Gives (Includes .string) := by
  refine .andThen ?_ _
  intro args
  split
  · refine .andThen (fun unit => ?_) _
    exact .andThen (fun moment => writeShifted_gives _ _ _) _
  · exact .throw

theorem runShiftNow_gives (now : Moment) (forward : Bool) :
    (runShiftNow e now forward ms).Gives (Includes .string) := by
  refine .andThen ?_ _
  intro args
  split
  · exact .andThen (fun unit => writeShifted_gives _ _ _) _
  · exact .throw

theorem runConvertFromUtc_gives (database : ZoneDatabase) :
    (runConvertFromUtc database e ms).Gives (Includes .string) := by
  refine .andThen ?_ _
  intro args
  split
  · refine .andThen (fun instant => ?_) _
    refine .andThen (fun zone => ?_) _
    exact .andThen (fun text => .pure ⟨text, rfl⟩) _
  · exact .throw

theorem runConvertToUtc_gives (database : ZoneDatabase) :
    (runConvertToUtc database e ms).Gives (Includes .string) := by
  refine .andThen ?_ _
  intro args
  split
  · refine .andThen (fun zone => ?_) _
    split
    · exact .throw
    · split
      · exact .throw
      · exact .andThen (fun text => .pure ⟨text, rfl⟩) _
  · exact .throw

theorem runQuantified_gives (q : Quantifier) :
    (runForm scoping e ms (.quantified q)).Gives (Includes .boolean) := by
  cases q with
  | anyItem =>
    refine .andThen (fun parts => ?_) _
    exact .andThen (fun truth => .pure ⟨truth, rfl⟩) _
  | allItems =>
    refine .andThen (fun parts => ?_) _
    exact .andThen (fun truth => .pure ⟨!truth, rfl⟩) _

/-- A form gives values of its type. -/
theorem runForm_gives (form : Form) :
    (runForm scoping e ms form).Gives (Includes form.returnType) := by
  cases form with
  | contains eq => exact runContains_gives eq
  | and => exact runAnd_gives
  | or => exact runOr_gives
  | not => exact runNot_gives
  | substring => exact runSubstring_gives
  | join => exact runJoin_gives
  | quantified q => exact runQuantified_gives q
  | shiftTime forward pattern => exact runShiftTime_gives forward pattern
  | shiftNow now forward => exact runShiftNow_gives now forward
  | convertFromUtc => exact runConvertFromUtc_gives _
  | convertToUtc => exact runConvertToUtc_gives _
  | _ => exact fun _ _ _ => trivial

end Expr

/-! ## Arguments -/

/-- The arguments from a position on have passed a check. -/
def Checked (check : Option Check) : (position : Nat) → List Value → Prop
  | _, [] => True
  | position, v :: rest =>
    (∃ e, (check.bind fun c => c.fault? v e position) = none) ∧ Checked check (position + 1) rest

theorem Meaning.argumentsFrom_gives {σ : Type} (check : Option Check) (ms : List (Meaning σ))
    (position : Nat) : (argumentsFrom check position ms).Gives fun args =>
      args.length = ms.length ∧ Checked check position args := by
  induction ms generalizing position with
  | nil => exact .pure ⟨rfl, trivial⟩
  | cons m rest ih =>
    refine .andThen ?_ _
    intro v
    split
    · exact .throw
    · rename_i hfits
      refine .bind (ih (position + 1)) ?_
      rintro args ⟨hlength, hchecked⟩
      exact .pure ⟨by rw [List.length_cons, List.length_cons, hlength], ⟨m.expr, hfits⟩, hchecked⟩

namespace Check

theorem includes_of_expect_isNumber {v : Value} {e : Expr} {message : String}
    (h : expect v.isNumber e message = none) : Includes .number v := by
  cases v with
  | number x => exact ⟨x, rfl⟩
  | _ => cases h

/-- What passes for an operand is a number. -/
theorem includes_of_number {v : Value} {e : Expr} {position : Nat}
    (h : number.fault? v e position = none) : Includes .number v :=
  includes_of_expect_isNumber h

theorem includes_of_divisor {v : Value} {e : Expr} {position : Nat}
    (h : divisor.fault? v e position = none) : Includes .number v := by
  cases hfault : expect v.isNumber e " is not a number." with
  | none => exact includes_of_expect_isNumber hfault
  | some message =>
    simp only [fault?, hfault] at h
    cases h

end Check

theorem foldl_includes_number {f : Value → Value → Value} (hf : ∀ a b, Includes .number (f a b))
    (rest : List Value) {first : Value} (h : Includes .number first) :
    Includes .number (rest.foldl f first) := by
  induction rest generalizing first with
  | nil => exact h
  | cons v rest ih => exact ih (hf first v)

/-- What is counted has been checked to be a container. -/
theorem Arithmetic.includes_count {args : List Value} (hlength : 1 ≤ args.length)
    (h : Checked (some .container) 0 args) : Includes .number (count args) := by
  cases args with
  | nil => cases hlength
  | cons v rest =>
    obtain ⟨⟨e, hfits⟩, -⟩ := h
    cases v with
    | text s => exact ⟨_, rfl⟩
    | list items => exact ⟨_, rfl⟩
    | map entries => exact ⟨_, rfl⟩
    | _ => cases hfits

/-! ## Evaluators -/

namespace Signature

/-- How many children there are at the least. -/
def least : Signature → Nat
  | arity min _ _ => min
  | order required _ => required.length
  | accessor => 1
  | comprehension => 3
  | pattern => 2

end Signature

/-- A way to compute gives values of a type when it has so many arguments. -/
def Strategy.Sound (least : Nat) (type : ReturnType) : Strategy → Prop
  | apply f check => ∀ args, least ≤ args.length → Checked check 0 args → type.Includes (f args)
  | applyWithError f _ => ∀ args, Yields type.Includes (f args)
  | sequence f check =>
    0 < least ∧ ∀ first rest, Checked check 0 (first :: rest) → type.Includes (rest.foldl f first)
  | comparison _ _ => type = .boolean
  | timeTransform _ => type = .string
  | special form => type = form.returnType
  | constant v => type.Includes v
  | lambda _ => type = .object

namespace Evaluator

/-- How many children a well-formed node has at the least. -/
def least (ev : Evaluator) : Nat := (ev.signature.map Signature.least).getD 0

/-- An evaluator gives values of the type that it declares. -/
def Sound (ev : Evaluator) : Prop := ev.strategy.Sound ev.least ev.returnType

end Evaluator

namespace Operator

theorem folding_sound (op : Operator) {f : Value → Value → Value}
    (hf : ∀ a b, Includes .number (f a b)) {check : Check}
    (hcheck : ∀ v e position, check.fault? v e position = none → Includes .number v) :
    (op.folding f check).Sound := by
  refine ⟨Nat.two_pos, ?_⟩
  rintro first rest ⟨⟨e, hfits⟩, -⟩
  exact foldl_includes_number hf rest (hcheck first e 0 hfits)

/-- **Every operator gives values of the type that it declares.** -/
theorem evaluator_sound (ambient : Ambient) (op : Operator) : (op.evaluator ambient).Sound := by
  cases op with
  | add | subtract | multiply | power =>
    exact folding_sound _ (fun _ _ => ⟨_, rfl⟩) fun _ _ _ => Check.includes_of_number
  | divide => exact folding_sound _ (fun _ _ => ⟨_, rfl⟩) fun _ _ _ => Check.includes_of_divisor
  | count => exact fun _ => Arithmetic.includes_count
  | sum | floor | ceiling | abs | length | countWord | ticksToDays | ticksToHours
  | ticksToMinutes | concat | toLower | toUpper | trim | addOrdinal | newGuid | eol | titleCase
  | string | binary | base64 | base64ToBinary | dataUri | dataUriToBinary | uriComponent
  | endsWith | startsWith => exact fun _ _ _ => ⟨_, rfl⟩
  | sentenceCase => exact fun args _ _ => Texts.includes_sentenceCase args
  | split | createArray | array | first | last | union | intersection | skip | take
  | indicesAndValues | flatten | unique | reverse | removeProperty | setProperty | coalesce | merge
  | simpleEntity => exact fun _ _ _ => trivial
  | range | sortBy | sortByDescending | json | addProperty | jPath | xPath =>
    exact fun _ _ _ => trivial
  | mod => exact Arithmetic.remainder_yields
  | min => exact Arithmetic.minimum_yields
  | max => exact Arithmetic.maximum_yields
  | average => exact Arithmetic.average_yields
  | round => exact Arithmetic.round_yields
  | sqrt => exact Arithmetic.squareRoot_yields
  | replace => exact Texts.replace_yields
  | replaceIgnoreCase => exact Texts.replaceIgnoreCase_yields
  | indexOf => exact Texts.indexOf_yields _
  | lastIndexOf => exact Texts.lastIndexOf_yields _
  | formatNumber => exact Texts.formatNumber_yields
  | isMatch => exact Texts.isMatch_yields
  | dayOfMonth | dayOfWeek | dayOfYear | month | year => exact Time.part_yields _
  | date => exact Time.date_yields
  | getTimeOfDay => exact Time.timeOfDay_yields
  | utcNow => exact fun args => Time.render_yields args _ _ _
  | formatDateTime => exact Time.formatDateTime_yields
  | formatEpoch => exact Time.formatEpoch_yields
  | formatTicks => exact Time.formatTicks_yields
  | dateReadBack => exact Time.readBack_yields
  | startOfDay | startOfHour | startOfMonth => exact Time.startOf_yields _
  | ticks => exact Time.ticks_yields
  | dateTimeDiff => exact Time.difference_yields
  | float => exact Conversion.float_yields
  | int => exact Conversion.int_yields
  | base64ToString | dataUriToString | uriComponentToString => exact Conversion.decoded_yields _
  | jsonStringify => exact fun _ => .ok ⟨_, rfl⟩
  | rand => exact Chance.rand_yields ambient
  | xml => exact Query.xml_yields
  | uriHost | uriPath | uriPathAndQuery | uriPort | uriQuery | uriScheme =>
    exact Uri.part_yields _
  | constant => trivial
  | _ => rfl

end Operator

theorem Evaluator.Builtin.sound {ambient : Ambient} {ev : Evaluator} (h : ev.Builtin ambient) :
    ev.Sound := by
  cases h with
  | sharing op shared => exact op.evaluator_sound { ambient with shared }
  | constant v => exact ReturnType.includes_ofValue v
  | lambda f => rfl

namespace Expr

variable {σ : Type} {scoping : Scoping σ} {e : Expr} {ms : List (Meaning σ)}

/-- A node gives values of the type that its evaluator declares. -/
theorem runNode_gives (h : e.evaluator.Sound) (hlength : e.evaluator.least ≤ ms.length) :
    (runNode scoping e ms).Gives (Includes e.evaluator.returnType) := by
  unfold Evaluator.Sound at h
  unfold runNode
  cases hs : e.evaluator.strategy with
  | apply f check =>
    rw [hs] at h
    refine .bind (Meaning.argumentsFrom_gives check ms 0) ?_
    rintro args ⟨hargs, hchecked⟩
    exact .pure (h args (hargs ▸ hlength) hchecked)
  | applyWithError f check =>
    rw [hs] at h
    exact .andThen (fun args => .orFail (h args)) _
  | sequence f check =>
    rw [hs] at h
    obtain ⟨hleast, hfold⟩ := h
    refine .bind (Meaning.argumentsFrom_gives check ms 0) ?_
    rintro args ⟨hargs, hchecked⟩
    cases args with
    | nil =>
      have hnone : ms.length = 0 := hargs.symm
      omega
    | cons first rest => exact .pure (hfold first rest hchecked)
  | comparison f check =>
    rw [hs] at h
    have hboolean : e.evaluator.returnType = .boolean := h
    rw [hboolean]
    refine .andThen ?_ _
    intro result
    cases result with
    | ok args => exact .pure ⟨_, rfl⟩
    | error error => exact .pure ⟨_, rfl⟩
  | timeTransform f =>
    rw [hs] at h
    have hstring : e.evaluator.returnType = .string := h
    rw [hstring]
    exact runTimeTransform_gives f
  | special form =>
    rw [hs] at h
    have hform : e.evaluator.returnType = form.returnType := h
    rw [hform]
    exact runForm_gives form
  | constant v =>
    rw [hs] at h
    exact .pure h
  | lambda f =>
    rw [hs] at h
    have hobject : e.evaluator.returnType = .object := h
    rw [hobject]
    exact fun _ _ _ => trivial

/-- A well-formed node has as many children as its signature asks for. -/
theorem least_le_of_validate (h : e.validate = .ok ()) :
    e.evaluator.least ≤ e.children.length := by
  unfold validate at h
  unfold Evaluator.least
  cases hsig : e.evaluator.signature with
  | none => exact Nat.zero_le _
  | some signature =>
    rw [hsig] at h
    cases signature with
    | arity min max types => exact (checkArity_eq_ok.mp h).1
    | order required optional => exact (checkOrder_eq_ok.mp h).1
    | accessor =>
      have hname := (checkAccessor_eq_ok.mp h).1
      unfold propertyName? at hname
      cases hc : e.children with
      | nil =>
        rw [hc] at hname
        cases hname
      | cons literal rest => exact Nat.succ_le_succ (Nat.zero_le _)
    | comprehension =>
      obtain ⟨collection, iterator, body, hc, -⟩ := checkComprehension_eq_ok.mp h
      rw [hc]
      exact Nat.le_refl 3
    | pattern => exact (checkArity_eq_ok.mp (checkPattern_eq_ok.mp h).1).1

/-- Evaluating a node is running it, or its resolved copy, on what its children mean. -/
theorem exists_runNode_eq_evaluate (e : Expr) :
    ∃ n ms, n.evaluator = e.evaluator ∧ ms.length = e.children.length ∧
      e.evaluate = runNode .nested n ms := by
  obtain ⟨name, evaluator, children⟩ := e
  cases hen : resolvingAction? (node name evaluator children) with
  | none =>
    unfold evaluate
    rw [meaning_node _ hen]
    exact ⟨_, _, rfl, by simp, rfl⟩
  | some a =>
    have run : (node name evaluator children).evaluate = a := by
      change (resolvingAction? _).getD _ = a
      rw [hen]
      rfl
    rw [run]
    unfold resolvingAction? at hen
    split at hen
    · rename_i hneeds
      obtain ⟨x, hx⟩ := Option.isSome_iff_exists.mp (Bool.and_eq_true_iff.mp hneeds).2
      obtain ⟨collection, iterator, body, rfl, -, -⟩ := binding?_eq_some hx
      obtain rfl := Option.some.inj hen
      unfold evaluateResolved
      rw [resolve, resolveIn_of_binding [] hx, meaning_node _ rfl]
      refine ⟨node name evaluator [_, boundName x, _], _, rfl, ?_, rfl⟩
      rfl
    · cases hen

/-- **A value is of the type that its node declares**: when a well-formed node of a built-in
operator, or a literal, has a value in some state, it is a boolean, a number or a text if the node
says so. -/
theorem evaluate_returnType {ambient : Ambient} {e : Expr} (hb : e.evaluator.Builtin ambient)
    (hv : e.validate = .ok ()) {s v : Value} (h : (e.evaluate.outcome s).1 = .ok v) :
    e.returnType.Includes v := by
  obtain ⟨n, ms, hev, hlength, hrun⟩ := exists_runNode_eq_evaluate e
  have sound : n.evaluator.Sound := by
    rw [hev]
    exact hb.sound
  have enough : n.evaluator.least ≤ ms.length := by
    rw [hev, hlength]
    exact least_le_of_validate hv
  rw [hrun] at h
  rw [returnType, ← hev]
  exact runNode_gives sound enough s v h

/-- The items of a list are counted in a number. -/
theorem returnType_of_count :
    let ambient : Ambient := .still
    let e := withEvaluator (Operator.count.evaluator ambient)
      [constant (.list [.text "a", .null])]
    (e.evaluate.outcome .null).1 = .ok (.ofNat 2) ∧ ReturnType.number.Includes (.ofNat 2) := by
  intro ambient e
  have builtin : e.evaluator.Builtin ambient := .operator .count
  have hcount : (e.evaluate.outcome .null).1 = .ok (.ofNat 2) := rfl
  exact ⟨hcount, evaluate_returnType builtin rfl hcount⟩

end Expr

end StateExpr
