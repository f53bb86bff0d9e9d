import Mathlib.Data.List.TakeDrop
import Mathlib.Data.List.TakeWhile
import StateExpr.Regex.Pattern
/-!
# Groups of switches in patterns

Groups of switches such as `(?im)` are looked for in the text of a pattern, whatever their
parentheses mean there.  A text is scanned from the left: a group is taken out at once, and all else
is passed character by character.  No group can begin in front of another one and end in it, since
no letter of a group is a parenthesis.  So what stands before a group and what stands behind it are
scanned each for itself.

Main statements: `extractSwitches_append_group`, `extractSwitches_eq_self_iff`,
`pattern_as_written_iff` and `switches_anywhere`.
-/

namespace StateExpr.Regex

/-- The letters of a group of switches. -/
def IsSwitches (letters : List Char) : Prop :=
  letters ≠ [] ∧ ∀ c ∈ letters, isSwitchLetter c = true

instance (letters : List Char) : Decidable (IsSwitches letters) :=
  decidable_of_iff ((!letters.isEmpty && letters.all isSwitchLetter) = true)
    (by simp [IsSwitches])

/-- A group of switches as it is written. -/
def switchGroup (letters : List Char) : List Char := '(' :: '?' :: (letters ++ [')'])

/-- A text starts with a group of switches. -/
def StartsWithSwitches (cs : List Char) : Prop :=
  ∃ letters rest, IsSwitches letters ∧ cs = switchGroup letters ++ rest

/-- A group of switches stands somewhere in a text. -/
def HoldsSwitches (cs : List Char) : Prop := ∃ before rest, cs = before ++ rest ∧
  StartsWithSwitches rest

variable {letters cs before after : List Char} {c : Char}

/-! ## Where groups are -/

theorem IsSwitches.not_mem (h : IsSwitches letters) (hc : isSwitchLetter c = false) :
    c ∉ letters := by
  intro hmem
  rw [h.2 c hmem] at hc
  cases hc

theorem switchGroup_append (letters rest : List Char) :
    switchGroup letters ++ rest = '(' :: '?' :: (letters ++ ')' :: rest) := by
  simp only [switchGroup, List.cons_append, List.append_assoc, List.nil_append]

theorem switchLetters?_eq_some_iff : switchLetters? cs = some letters ↔
    IsSwitches letters ∧ ∃ rest, cs = letters ++ ')' :: rest := by
  unfold switchLetters?
  rw [List.span_eq_takeWhile_dropWhile]
  constructor
  · intro h
    split at h
    · rename_i run rest heq
      rw [Prod.mk.injEq] at heq
      split at h
      · rename_i hletters
        rw [Bool.and_eq_true, Bool.not_eq_true', List.isEmpty_eq_false_iff, List.all_eq_true]
          at hletters
        obtain rfl := Option.some.inj h
        exact ⟨hletters, rest, by rw [← heq.1, ← heq.2, List.takeWhile_append_dropWhile]⟩
      · cases h
    · cases h
  · rintro ⟨hletters, rest, rfl⟩
    have hrun : ∀ c ∈ letters, (c != ')') = true := by
      intro c hc
      rw [bne_iff_ne]
      rintro rfl
      exact hletters.not_mem rfl hc
    rw [List.takeWhile_append_of_pos hrun, List.dropWhile_append_of_pos hrun]
    have hguard : (!letters.isEmpty && letters.all isSwitchLetter) = true := by
      rw [Bool.and_eq_true, Bool.not_eq_true', List.isEmpty_eq_false_iff, List.all_eq_true]
      exact hletters
    simp [hguard]

/-- Behind an opening parenthesis and a question mark there is a group just when letters and a
closing parenthesis follow. -/
theorem startsWithSwitches_iff (cs : List Char) : StartsWithSwitches ('(' :: '?' :: cs) ↔
    (switchLetters? cs).isSome = true := by
  simp only [StartsWithSwitches, switchGroup_append, List.cons.injEq, true_and,
    Option.isSome_iff_exists, switchLetters?_eq_some_iff, exists_and_left]

instance (cs : List Char) : Decidable (StartsWithSwitches cs) :=
  decidable_of_iff (cs.take 2 = ['(', '?'] ∧ (switchLetters? (cs.drop 2)).isSome = true) <| by
    constructor
    · rintro ⟨hfront, hletters⟩
      rw [← List.take_append_drop 2 cs, hfront]
      exact (startsWithSwitches_iff _).mpr hletters
    · rintro ⟨letters, rest, hletters, rfl⟩
      have hsome := switchLetters?_eq_some_iff.mpr ⟨hletters, rest, rfl⟩
      rw [switchGroup_append]
      exact ⟨rfl, Option.isSome_of_eq_some hsome⟩

theorem HoldsSwitches.append_left (h : HoldsSwitches cs) (before : List Char) :
    HoldsSwitches (before ++ cs) := by
  obtain ⟨front, rest, rfl, hrest⟩ := h
  exact ⟨before ++ front, rest, (List.append_assoc ..).symm, hrest⟩

theorem HoldsSwitches.append_right (h : HoldsSwitches cs) (after : List Char) :
    HoldsSwitches (cs ++ after) := by
  obtain ⟨front, rest, rfl, letters, behind, hletters, rfl⟩ := h
  refine ⟨front, switchGroup letters ++ (behind ++ after), ?_, letters, _, hletters, rfl⟩
  simp only [List.append_assoc]

/-- A group at the front of a text cannot reach into a parenthesis further on. -/
theorem startsWithSwitches_of_append (hne : cs ≠ [])
    (h : StartsWithSwitches (cs ++ '(' :: after)) : StartsWithSwitches cs := by
  obtain ⟨letters, rest, hletters, heq⟩ := h
  obtain ⟨inner, hgroup, hinner⟩ | ⟨inner, rfl, -⟩ := List.append_eq_append_iff.mp heq
  · cases inner with
    | nil => exact ⟨letters, [], hletters, by rw [hgroup, List.append_nil, List.append_nil]⟩
    | cons d inner =>
      -- The parenthesis further on would be one inside of the group.
      obtain ⟨rfl, -⟩ := List.cons.inj hinner
      cases cs with
      | nil => exact absurd rfl hne
      | cons c cs =>
        have htail := (List.cons.inj hgroup).2
        have hmem : '(' ∈ '?' :: (letters ++ [')']) := by
          rw [htail]
          exact List.mem_append_right _ List.mem_cons_self
        simp only [List.mem_cons, List.mem_append, List.not_mem_nil, or_false,
          show '(' ≠ '?' by decide, show '(' ≠ ')' by decide, false_or] at hmem
        exact absurd hmem (hletters.not_mem rfl)
  · exact ⟨letters, inner, hletters, rfl⟩

/-! ## Scanning -/

theorem extractSwitches_skip (k : ℕ) (cs : List Char) :
    extractSwitches k cs = extractSwitches 0 (cs.drop k) := by
  induction cs generalizing k with
  | nil => cases k <;> rfl
  | cons c cs ih =>
    cases k with
    | zero => rfl
    | succ k => rw [extractSwitches, ih, List.drop_succ_cons]

/-- A group is taken out. -/
theorem extractSwitches_group (h : IsSwitches letters) (rest : List Char) :
    extractSwitches 0 (switchGroup letters ++ rest) =
      ((extractSwitches 0 rest).1, letters ++ (extractSwitches 0 rest).2) := by
  have hletters : switchLetters? (letters ++ ')' :: rest) = some letters :=
    switchLetters?_eq_some_iff.mpr ⟨h, rest, rfl⟩
  have hdrop : ('?' :: (letters ++ ')' :: rest)).drop (letters.length + 2) = rest := by
    simp
  rw [switchGroup_append, extractSwitches, hletters]
  dsimp only
  rw [extractSwitches_skip, hdrop]

/-- A character that no group starts with is passed. -/
theorem extractSwitches_cons (h : ¬ StartsWithSwitches (c :: cs)) :
    extractSwitches 0 (c :: cs) = (c :: (extractSwitches 0 cs).1, (extractSwitches 0 cs).2) := by
  rw [extractSwitches.eq_def]
  dsimp only
  split
  · rename_i rest
    split
    · rename_i letters hletters
      exact absurd ((startsWithSwitches_iff rest).mpr (Option.isSome_of_eq_some hletters)) h
    · rfl
  · rfl

/-- Induction along a scan: a group at once, all else character by character. -/
@[elab_as_elim]
theorem scanInduction {motive : List Char → Prop} (nil : motive [])
    (group : ∀ letters rest, IsSwitches letters → motive rest →
      motive (switchGroup letters ++ rest))
    (cons : ∀ c cs, ¬ StartsWithSwitches (c :: cs) → motive cs → motive (c :: cs))
    (cs : List Char) : motive cs := by
  induction h : cs.length using Nat.strongRecOn generalizing cs with
  | ind n ih =>
    subst h
    by_cases hstart : StartsWithSwitches cs
    · obtain ⟨letters, rest, hletters, rfl⟩ := hstart
      refine group letters rest hletters (ih _ ?_ rest rfl)
      rw [switchGroup_append]
      simp only [List.length_cons, List.length_append]
      omega
    · cases cs with
      | nil => exact nil
      | cons c cs => exact cons c cs hstart (ih _ (Nat.lt_succ_self _) cs rfl)

/-- **A group anywhere** parts a text into two that are scanned each for itself. -/
theorem extractSwitches_append_group (h : IsSwitches letters) (before after : List Char) :
    extractSwitches 0 (before ++ (switchGroup letters ++ after)) =
      ((extractSwitches 0 before).1 ++ (extractSwitches 0 after).1,
        (extractSwitches 0 before).2 ++ (letters ++ (extractSwitches 0 after).2)) := by
  induction before using scanInduction with
  | nil => exact extractSwitches_group h after
  | group others rest hothers ih =>
    rw [List.append_assoc, extractSwitches_group hothers, extractSwitches_group hothers, ih,
      List.append_assoc]
  | cons c cs hstart ih =>
    have hcons : ¬ StartsWithSwitches (c :: (cs ++ (switchGroup letters ++ after))) := by
      intro hlong
      rw [switchGroup_append, ← List.cons_append] at hlong
      exact hstart (startsWithSwitches_of_append (List.cons_ne_nil c cs) hlong)
    rw [List.cons_append, extractSwitches_cons hcons, extractSwitches_cons hstart, ih,
      List.cons_append]

/-- **A pattern stays as it is** just when the text of no group stands in it. -/
theorem extractSwitches_eq_self_iff :
    extractSwitches 0 cs = (cs, []) ↔ ¬ HoldsSwitches cs := by
  constructor
  · rintro hself ⟨before, _, rfl, letters, rest, hletters, rfl⟩
    rw [extractSwitches_append_group hletters, Prod.mk.injEq, List.append_eq_nil_iff,
      List.append_eq_nil_iff] at hself
    exact hletters.1 hself.2.2.1
  · intro h
    induction cs using scanInduction with
    | nil => rfl
    | group letters rest hletters ih => exact absurd ⟨[], _, rfl, letters, rest, hletters, rfl⟩ h
    | cons c cs hstart ih =>
      rw [extractSwitches_cons hstart, ih fun hrest => h (hrest.append_left [c])]

/-! ## Patterns as they are written -/

/-- What the characters in front of a place say of it. -/
structure Standing where
  /-- How many brackets are open. -/
  brackets : Nat := 0
  /-- A backslash stands right in front. -/
  escaped : Bool := false
  /-- Two right behind an opening bracket, and one behind the caret there: a closing bracket is a
  character of the class then. -/
  front : Nat := 0
deriving Repr, DecidableEq

/-- The place behind one more character. -/
def Standing.step (s : Standing) (c : Char) : Standing :=
  if s.escaped then { brackets := s.brackets }
  else if c = '\\' then { brackets := s.brackets, escaped := true }
  else if c = '[' then { brackets := s.brackets + 1, front := 2 }
  else if c = ']' then
    { brackets := if 0 < s.front then s.brackets else s.brackets - 1 }
  else if c = '^' ∧ s.front = 2 then { brackets := s.brackets, front := 1 }
  else { brackets := s.brackets }

/-- The place behind some characters of a pattern. -/
def standing (before : List Char) : Standing := before.foldl Standing.step {}

/-- A parenthesis here opens no group: it is escaped, or a character of a class. -/
def Standing.isGuarded (s : Standing) : Bool := s.escaped || 0 < s.brackets

/-- No group that a pattern opens is one of switches: the text of one stands only where a
parenthesis opens no group. -/
def OpensNoSwitches (cs : List Char) : Prop :=
  ∀ before rest, cs = before ++ rest → StartsWithSwitches rest →
    (standing before).isGuarded = true

/-- Where a parenthesis opens no group, there is not the text of a group of switches. -/
def GuardsNoSwitches (cs : List Char) : Prop :=
  ∀ before rest, cs = before ++ rest → (standing before).isGuarded = true →
    ¬ StartsWithSwitches rest

instance (cs : List Char) : Decidable (OpensNoSwitches cs) :=
  decidable_of_iff (∀ k ≤ cs.length, StartsWithSwitches (cs.drop k) →
      (standing (cs.take k)).isGuarded = true) <| by
    constructor
    · rintro h before rest rfl
      have hfront := h before.length (by rw [List.length_append]; omega)
      rwa [List.drop_left, List.take_left] at hfront
    · exact fun h k _ => h _ _ (List.take_append_drop k cs).symm

theorem not_holdsSwitches_iff :
    ¬ HoldsSwitches cs ↔ OpensNoSwitches cs ∧ GuardsNoSwitches cs := by
  constructor
  · intro h
    exact ⟨fun before rest heq hstart => absurd ⟨before, rest, heq, hstart⟩ h,
      fun before rest heq _ hstart => h ⟨before, rest, heq, hstart⟩⟩
  · rintro ⟨hopens, hguards⟩ ⟨before, rest, heq, hstart⟩
    exact hguards before rest heq (hopens before rest heq hstart) hstart

theorem compileBody_eq_ok_iff {grammar : Grammar} {pattern : String} {f : Flags}
    {body : List Char} {node : Node} : compileBody grammar pattern f body = .ok node ↔
      grammar body = none ∧ prepare? f body = some node := by
  unfold compileBody
  cases grammar body with
  | some reason => simp
  | none => cases prepare? f body <;> simp

/-- What is made of a pattern when the scan leaves a body and letters. -/
theorem compileWith_of_extractSwitches {body : List Char}
    (h : extractSwitches 0 cs = (body, letters)) (hne : cs ≠ []) (grammar : Grammar) :
    compileWith grammar (String.ofList cs) =
      compileBody grammar (String.ofList cs) (.ofLetters letters) body := by
  have hempty : (String.ofList cs).isEmpty = false := by
    rw [← Bool.not_eq_true, String.isEmpty_iff, ← String.toList_inj, String.toList_ofList]
    exact hne
  rw [compileWith, hempty, if_neg Bool.false_ne_true, String.toList_ofList, h]

/-- **A pattern is compiled as it is written**, without switches, when it holds no text of a group
of switches: it opens none, and where no group can be opened, behind a backslash or in a class,
there stands none.  Every other pattern is changed. -/
theorem pattern_as_written_iff (cs : List Char) :
    (extractSwitches 0 cs = (cs, []) ↔ OpensNoSwitches cs ∧ GuardsNoSwitches cs) ∧
    (OpensNoSwitches cs → GuardsNoSwitches cs → cs ≠ [] → ∀ grammar,
      compileWith grammar (String.ofList cs) = compileBody grammar (String.ofList cs) {} cs) := by
  have hself : extractSwitches 0 cs = (cs, []) ↔ OpensNoSwitches cs ∧ GuardsNoSwitches cs :=
    extractSwitches_eq_self_iff.trans not_holdsSwitches_iff
  refine ⟨hself, fun hopens hguards hne grammar => ?_⟩
  exact compileWith_of_extractSwitches (hself.mpr ⟨hopens, hguards⟩) hne grammar

/-- Groups with names and without, beside a class that holds a parenthesis. -/
theorem pattern_as_written_groups :
    let cs := "(?:a)[(?]\\(?(?P<n>i)".toList
    extractSwitches 0 cs = (cs, []) ∧ OpensNoSwitches cs ∧ GuardsNoSwitches cs ∧ cs ≠ [] ∧
    compileWith standardGrammar (String.ofList cs) =
      compileBody standardGrammar (String.ofList cs) {} cs := by
  intro cs
  have hself : extractSwitches 0 cs = (cs, []) := by decide +kernel
  have hne : cs ≠ [] := by decide +kernel
  obtain ⟨hiff, hcompile⟩ := pattern_as_written_iff cs
  obtain ⟨hopens, hguards⟩ := hiff.mp hself
  exact ⟨hself, hopens, hguards, hne, hcompile hopens hguards hne standardGrammar⟩

/-- A class and an escaped parenthesis lose characters that open no group; what is left of the
patterns is malformed. -/
theorem guarded_switches_taken :
    OpensNoSwitches "[(?i)]".toList ∧
    parse? {} "[(?i)]".toList = some (.oneOf [(40, 40), (63, 63), (105, 105), (41, 41)]) ∧
    extractSwitches 0 "[(?i)]".toList = ("[]".toList, ['i']) ∧
    compile "[(?i)]" = .error (.invalid "[(?i)]" "malformed pattern") ∧
    OpensNoSwitches "(\\(?i)".toList ∧
    parse? {} "(\\(?i)".toList =
      some (.group (.cat (.upTo true 1 (.oneOf [(40, 40)])) (.oneOf [(105, 105)]))) ∧
    extractSwitches 0 "(\\(?i)".toList = ("(\\".toList, ['i']) ∧
    compile "(\\(?i)" = .error (.invalid "(\\(?i)" "malformed pattern") := by
  have hclass : extractSwitches 0 "[(?i)]".toList = ("[]".toList, ['i']) := by decide +kernel
  have hescape : extractSwitches 0 "(\\(?i)".toList = ("(\\".toList, ['i']) := by decide +kernel
  refine ⟨by decide +kernel, by decide +kernel, hclass, ?_, by decide +kernel, by decide +kernel,
    hescape, ?_⟩
  · have hnone : standardGrammar "[]".toList = some "malformed pattern" := by decide +kernel
    have hcompile := compileWith_of_extractSwitches hclass (by decide) standardGrammar
    rw [String.ofList_toList, compileBody, hnone] at hcompile
    exact hcompile
  · have hnone : standardGrammar "(\\".toList = some "malformed pattern" := by decide +kernel
    have hcompile := compileWith_of_extractSwitches hescape (by decide) standardGrammar
    rw [String.ofList_toList, compileBody, hnone] at hcompile
    exact hcompile

/-! ## Groups at other places -/

/-- Two patterns come to the same, or fail for the same reason; a fault names its own pattern. -/
def CompileAlike (p q : String) : Prop :=
  ∀ grammar, (∀ node, compileWith grammar p = .ok node ↔ compileWith grammar q = .ok node) ∧
    ∀ reason, compileWith grammar p = .error (.invalid p reason) ↔
      compileWith grammar q = .error (.invalid q reason)

/-- A pattern is compiled by what the scan leaves of it. -/
theorem compileAlike_of_extractSwitches {ds : List Char} (hcs : cs ≠ []) (hds : ds ≠ [])
    (h : extractSwitches 0 cs = extractSwitches 0 ds) :
    CompileAlike (String.ofList cs) (String.ofList ds) := by
  intro grammar
  rw [compileWith_of_extractSwitches rfl hcs, compileWith_of_extractSwitches rfl hds, h]
  constructor
  · intro node
    rw [compileBody_eq_ok_iff, compileBody_eq_ok_iff]
  · intro reason
    unfold compileBody
    cases grammar (extractSwitches 0 ds).1 with
    | some fault => simp
    | none => cases prepare? (.ofLetters (extractSwitches 0 ds).2) (extractSwitches 0 ds).1 <;> simp

/-- Between two texts without groups a group is all that is taken out. -/
theorem extractSwitches_between (hletters : IsSwitches letters) (hbefore : ¬ HoldsSwitches before)
    (hafter : ¬ HoldsSwitches after) :
    extractSwitches 0 (before ++ (switchGroup letters ++ after)) = (before ++ after, letters) := by
  rw [extractSwitches_append_group hletters, extractSwitches_eq_self_iff.mpr hbefore,
    extractSwitches_eq_self_iff.mpr hafter, List.nil_append, List.append_nil]

/-- **A group of switches may stand anywhere.**  Between two texts that hold no group it is taken
out, with exactly its switches, and nothing else is.  So the place of the group does not count, as
long as neither text holds a group itself; and no place counts when there is no other group. -/
theorem switches_anywhere (hletters : IsSwitches letters) (hbefore : ¬ HoldsSwitches before)
    (hafter : ¬ HoldsSwitches after) :
    let pattern := fun first second => first ++ (switchGroup letters ++ second)
    extractSwitches 0 (pattern before after) = (before ++ after, letters) ∧
    Flags.ofLetters letters =
      { ignoreCase := 'i' ∈ letters, multiLine := 'm' ∈ letters, dotAll := 's' ∈ letters,
        swapGreed := 'U' ∈ letters, verbose := 'x' ∈ letters } ∧
    (∀ first second, first ++ second = before ++ after →
      ¬ HoldsSwitches first → ¬ HoldsSwitches second →
      CompileAlike (String.ofList (pattern first second)) (String.ofList (pattern before after))) ∧
    (¬ HoldsSwitches (before ++ after) → ∀ first second, first ++ second = before ++ after →
      CompileAlike (String.ofList (pattern first second))
        (String.ofList (pattern before after))) := by
  intro pattern
  have hne : ∀ first second, pattern first second ≠ [] := by
    intro first second h
    cases (List.append_eq_nil_iff.mp (List.append_eq_nil_iff.mp h).2).1
  have hmoved : ∀ first second, first ++ second = before ++ after →
      ¬ HoldsSwitches first → ¬ HoldsSwitches second →
      CompileAlike (String.ofList (pattern first second))
        (String.ofList (pattern before after)) := by
    intro first second hsame hfirst hsecond
    apply compileAlike_of_extractSwitches (hne _ _) (hne _ _)
    rw [extractSwitches_between hletters hfirst hsecond,
      extractSwitches_between hletters hbefore hafter, hsame]
  refine ⟨extractSwitches_between hletters hbefore hafter, ?_, hmoved, ?_⟩
  · simp only [Flags.ofLetters, List.contains_eq_mem]
  · intro hnone first second hsame
    rw [← hsame] at hnone
    exact hmoved first second hsame (fun h => hnone (h.append_right second))
      (fun h => hnone (h.append_left first))

/-- A group behind an unfinished one, and the same group in front of both. -/
theorem switches_anywhere_unfinished :
    let letters := "imJ".toList
    let before := "(a(?i".toList
    let after := "b)(?".toList
    IsSwitches letters ∧ ¬ HoldsSwitches before ∧ ¬ HoldsSwitches after ∧
    extractSwitches 0 (before ++ (switchGroup letters ++ after)) = (before ++ after, letters) ∧
    CompileAlike "(?imJ)(a(?ib)(?" "(a(?i(?imJ)b)(?" := by
  intro letters before after
  have hletters : IsSwitches letters := by decide +kernel
  have hbefore : ¬ HoldsSwitches before := extractSwitches_eq_self_iff.mp (by decide +kernel)
  have hafter : ¬ HoldsSwitches after := extractSwitches_eq_self_iff.mp (by decide +kernel)
  have hwhole : ¬ HoldsSwitches (before ++ after) :=
    extractSwitches_eq_self_iff.mp (by decide +kernel)
  obtain ⟨hbetween, -, -, hany⟩ := switches_anywhere hletters hbefore hafter
  exact ⟨hletters, hbefore, hafter, hbetween, hany hwhole [] (before ++ after) rfl⟩

/-- Two texts without a group can close up to one when the group between them is moved away: then it
is taken out too, and its switch counts for the start of the pattern as well. -/
theorem switches_moved_close_up :
    let letters := ['s']
    let before := "^(".toList
    let after := "?m)$".toList
    let kept := "^((?s)?m)$"
    let moved := "^(?m)$(?s)"
    IsSwitches letters ∧ ¬ HoldsSwitches before ∧ ¬ HoldsSwitches after ∧
    kept.toList = before ++ (switchGroup letters ++ after) ∧
    moved.toList = (before ++ after) ++ (switchGroup letters ++ []) ∧
    (∃ node, compile kept = .ok node ∧ node.isMatch "a\n\nb" = false) ∧
    (∃ node, compile moved = .ok node ∧ node.isMatch "a\n\nb" = true) ∧
    ¬ CompileAlike kept moved := by
  intro letters before after kept moved
  have hkept : compile kept = .ok (.cat (.look .textStart) (.look (.lineEnd false))) := by
    have hscan : extractSwitches 0 kept.toList = ("^(?m)$".toList, ['s']) := by decide +kernel
    have hbody := compileWith_of_extractSwitches hscan (by decide) standardGrammar
    rw [String.ofList_toList] at hbody
    exact hbody.trans (compileBody_eq_ok_iff.mpr ⟨by decide +kernel, by decide +kernel⟩)
  have hmoved : compile moved = .ok (.cat (.look (.lineStart false)) (.look (.lineEnd false))) := by
    have hscan : extractSwitches 0 moved.toList = ("^$".toList, ['m', 's']) := by decide +kernel
    have hbody := compileWith_of_extractSwitches hscan (by decide) standardGrammar
    rw [String.ofList_toList] at hbody
    exact hbody.trans (compileBody_eq_ok_iff.mpr ⟨by decide +kernel, by decide +kernel⟩)
  refine ⟨by decide, extractSwitches_eq_self_iff.mp (by decide +kernel),
    extractSwitches_eq_self_iff.mp (by decide +kernel), by decide, by decide,
    ⟨_, hkept, by decide +kernel⟩, ⟨_, hmoved, by decide +kernel⟩, ?_⟩
  intro halike
  have hsame := hmoved.symm.trans (((halike standardGrammar).1 _).mp hkept)
  cases hsame

end StateExpr.Regex
