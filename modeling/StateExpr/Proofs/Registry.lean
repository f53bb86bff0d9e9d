import StateExpr.Function.Table
/-!
# Registrations

A table is filled by registrations that come one after the other.  Under the very same name the last
of them counts; among the names that differ in case alone the first one stands for all that were
never registered themselves.  So what a table holds can be read off the history of its
registrations, and a further one takes nothing away.

Main statements: `FunctionTable.Records.put`, the step for one registration,
`FunctionTable.Records.registerAll` for a whole run of them, `FunctionTable.records_builtin` for the
table that a run starts from, and `FunctionTable.lookup_after_registrations`.
-/

namespace StateExpr

namespace FunctionTable

/-- Names with their evaluators, in the order in which they were registered. -/
abbrev History := List (String × Evaluator)

/-- The evaluator last registered under exactly this name. -/
def lastUnder (history : History) (name : String) : Option Evaluator := history.reverse.lookup name

/-- The first name ever registered with this form in lower case. -/
def firstLike (history : History) (form : String) : Option String :=
  (history.map Prod.fst).find? fun name => lowerCase name == form

/-- The built-in registrations: operators under their names, then aliases. -/
def builtinHistory (ambient : Ambient) : History :=
  (Operator.all.map fun op => (op.name, op.evaluator ambient)) ++
    aliases.map fun (spelling, op) => (spelling, op.evaluator ambient)

/-- A table holds what its history says: the last evaluator of each name, and the first name of each
form in lower case. -/
structure Records (table : FunctionTable) (history : History) : Prop where
  last : ∀ name, (table.find? name).map Registration.evaluator = lastUnder history name
  first : ∀ form, table.nameOf? form = firstLike history form

variable {table : FunctionTable} {history before after : History} {name other form : String}
  {evaluator : Evaluator}

/-! ## Histories -/

theorem lastUnder_append_singleton : lastUnder (history ++ [(name, evaluator)]) other =
    if name = other then some evaluator else lastUnder history other := by
  unfold lastUnder
  rw [List.reverse_append, List.reverse_singleton, List.singleton_append, List.lookup_cons]
  by_cases h : name = other
  · rw [if_pos h, h, beq_self_eq_true]
  · rw [if_neg h, beq_eq_false_iff_ne.mpr (Ne.symm h)]

theorem lastUnder_eq_none_iff : lastUnder history name = none ↔ ∀ p ∈ history, p.1 ≠ name := by
  unfold lastUnder
  rw [List.lookup_eq_none_iff]
  simp only [List.mem_reverse, bne_iff_ne, ne_comm]

theorem lastUnder_of_split (hafter : ∀ p ∈ after, p.1 ≠ name) :
    lastUnder (before ++ (name, evaluator) :: after) name = some evaluator := by
  have hnone : after.reverse.lookup name = none := lastUnder_eq_none_iff.mpr hafter
  unfold lastUnder
  rw [List.reverse_append, List.reverse_cons, List.append_assoc, List.lookup_append, hnone,
    Option.none_or, List.singleton_append, List.lookup_cons_self]

theorem firstLike_append_singleton : firstLike (history ++ [(name, evaluator)]) form =
    (firstLike history form).or (if lowerCase name = form then some name else none) := by
  unfold firstLike
  rw [List.map_append, List.find?_append, List.map_singleton, List.find?_singleton]
  simp only [beq_iff_eq]

theorem firstLike_eq_none_iff :
    firstLike history form = none ↔ ∀ p ∈ history, lowerCase p.1 ≠ form := by
  unfold firstLike
  simp only [List.find?_eq_none, List.forall_mem_map, beq_iff_eq, ne_eq]

theorem firstLike_of_split (hbefore : ∀ p ∈ before, lowerCase p.1 ≠ form)
    (hname : lowerCase name = form) :
    firstLike (before ++ (name, evaluator) :: after) form = some name := by
  have hnone := firstLike_eq_none_iff.mpr hbefore
  unfold firstLike at hnone ⊢
  rw [List.map_append, List.find?_append, hnone, Option.none_or, List.map_cons, List.find?_cons,
    beq_iff_eq.mpr hname]

/-- The first name of a form was registered and has that form. -/
theorem lowerCase_of_firstLike (h : firstLike history form = some name) :
    lowerCase name = form ∧ ∃ evaluator, lastUnder history name = some evaluator := by
  have hform := List.find?_some (p := fun name => lowerCase name == form) h
  refine ⟨beq_iff_eq.mp hform, ?_⟩
  obtain ⟨p, hp, hname⟩ := List.mem_map.mp (List.mem_of_find?_eq_some h)
  apply Option.ne_none_iff_exists'.mp
  intro hnone
  exact lastUnder_eq_none_iff.mp hnone p hp hname

/-! ## One registration -/

theorem find?_placed (new : Registration) (registrations : List Registration) :
    (placed new registrations).find? (fun r => r.name == name) =
      if new.name = name then some new else registrations.find? fun r => r.name == name := by
  induction registrations with
  | nil => simp only [placed, List.find?_singleton, beq_iff_eq, List.find?_nil]
  | cons r rest ih =>
    by_cases hsame : r.name = new.name
    · rw [placed, if_pos hsame, List.find?_cons, List.find?_cons, hsame]
      by_cases hname : new.name = name
      · rw [if_pos hname, beq_iff_eq.mpr hname]
      · rw [if_neg hname, beq_eq_false_iff_ne.mpr hname]
    · rw [placed, if_neg hsame, List.find?_cons, List.find?_cons, ih]
      by_cases hname : new.name = name
      · rw [beq_eq_false_iff_ne.mpr (hname ▸ hsame), if_pos hname]
      · rw [if_neg hname, if_neg hname]

theorem find?_put (new : Registration) : (table.put new).find? name =
    if new.name = name then some new else table.find? name :=
  find?_placed new table.registrations

theorem nameOf?_put (new : Registration) : (table.put new).nameOf? form =
    (table.nameOf? form).or (if lowerCase new.name = form then some new.name else none) := by
  unfold put foldedWith nameOf?
  cases hheld : table.folded.lookup (lowerCase new.name) with
  | some held =>
    by_cases hform : lowerCase new.name = form
    · rw [if_pos hform, ← hform, hheld, Option.some_or]
    · rw [if_neg hform, Option.or_none]
  | none =>
    dsimp only
    rw [List.lookup_append, List.lookup_cons, List.lookup_nil]
    by_cases hform : lowerCase new.name = form
    · rw [if_pos hform, hform, beq_self_eq_true]
    · rw [if_neg hform, beq_eq_false_iff_ne.mpr (Ne.symm hform)]

/-- **One registration** is the last one under its name, and the first one of its form unless there
was one before. -/
theorem Records.put (h : table.Records history) (new : Registration) :
    (table.put new).Records (history ++ [(new.name, new.evaluator)]) where
  last name := by
    rw [find?_put, lastUnder_append_singleton, ← h.last]
    split <;> rfl
  first form := by rw [nameOf?_put, firstLike_append_singleton, h.first]

/-! ## Runs of registrations -/

/-- **A run of registrations** from any table on. -/
theorem Records.registerAll (h : table.Records history) (added : History) :
    (table.registerAll added).Records (history ++ added) := by
  induction added generalizing table history with
  | nil => rwa [List.append_nil]
  | cons p rest ih =>
    rw [List.append_cons]
    exact ih (h.put ⟨p.1, table.freshEntry, p.2⟩)

/-- Aliases of registered operators, none of which has the name of one of them. -/
theorem Records.aliases {ambient : Ambient} {as : List (String × Operator)}
    (h : table.Records history)
    (hoperators : ∀ a ∈ as, lastUnder history a.2.name = some (a.2.evaluator ambient))
    (hspellings : ∀ a ∈ as, ∀ b ∈ as, a.1 ≠ b.2.name) :
    (as.foldl (fun table (spelling, op) => table.registerAlias spelling op.name) table).Records
      (history ++ as.map fun (spelling, op) => (spelling, op.evaluator ambient)) := by
  induction as generalizing table history with
  | nil => rwa [List.map_nil, List.append_nil]
  | cons a rest ih =>
    obtain ⟨spelling, op⟩ := a
    have hstep : (table.registerAlias spelling op.name).Records
        (history ++ [(spelling, op.evaluator ambient)]) := by
      have hheld := h.last op.name
      rw [hoperators _ List.mem_cons_self, Option.map_eq_some_iff] at hheld
      obtain ⟨r, hr, hevaluator⟩ := hheld
      unfold registerAlias
      rw [hr, ← hevaluator]
      exact h.put ⟨spelling, r.entry, r.evaluator⟩
    rw [List.foldl_cons, List.map_cons, List.append_cons]
    refine ih hstep ?_ fun a ha b hb => ?_
    · intro a ha
      rw [lastUnder_append_singleton,
        if_neg (hspellings _ List.mem_cons_self a (List.mem_cons_of_mem _ ha))]
      exact hoperators a (List.mem_cons_of_mem _ ha)
    · exact hspellings a (List.mem_cons_of_mem _ ha) b (List.mem_cons_of_mem _ hb)

/-- Operators have different names, so each one is the last under its own. -/
theorem lastUnder_operators (ambient : Ambient) (op : Operator) :
    lastUnder (Operator.all.map fun op => (op.name, op.evaluator ambient)) op.name =
      some (op.evaluator ambient) := by
  have hlookup : ∀ ops : List Operator, op ∈ ops →
      (ops.map fun op => (op.name, op.evaluator ambient)).lookup op.name =
        some (op.evaluator ambient) := by
    intro ops hop
    induction ops with
    | nil => cases hop
    | cons head rest ih =>
      rw [List.map_cons, List.lookup_cons]
      by_cases hname : op.name = head.name
      · rw [Operator.name_injective hname, beq_self_eq_true]
      · rw [beq_eq_false_iff_ne.mpr hname]
        exact ih (List.mem_of_ne_of_mem (fun h => hname (congrArg Operator.name h)) hop)
  unfold lastUnder
  rw [← List.map_reverse]
  exact hlookup _ (List.mem_reverse.mpr (Operator.mem_all op))

/-- **The built-in table** holds every operator under its name and under its aliases. -/
theorem records_builtin (ambient : Ambient) :
    (builtin ambient).Records (builtinHistory ambient) := by
  have hempty : Records ⟨[], []⟩ [] := ⟨fun _ => rfl, fun _ => rfl⟩
  have hoperators := hempty.registerAll (Operator.all.map fun op => (op.name, op.evaluator ambient))
  refine hoperators.aliases (fun a _ => lastUnder_operators ambient a.2) ?_
  decide +kernel

/-! ## Looking up -/

/-- The evaluator that a name stands for by its history: the last one under the name itself, or else
the last one under the first name of its form. -/
def standsFor (history : History) (name : String) : Option Evaluator :=
  (lastUnder history name).or ((firstLike history (lowerCase name)).bind (lastUnder history))

theorem standsFor_of_registered (h : lastUnder history name = some evaluator) :
    standsFor history name = some evaluator := by rw [standsFor, h, Option.some_or]

theorem standsFor_of_unregistered (h : lastUnder history name = none) :
    standsFor history name = (firstLike history (lowerCase name)).bind (lastUnder history) := by
  rw [standsFor, h, Option.none_or]

/-- A name stands for something just when a name of its form was registered. -/
theorem standsFor_eq_none_iff : standsFor history name = none ↔
    ∀ p ∈ history, lowerCase p.1 ≠ lowerCase name := by
  constructor
  · intro h p hp hform
    cases hfirst : firstLike history (lowerCase name) with
    | none => exact firstLike_eq_none_iff.mp hfirst p hp hform
    | some first =>
      obtain ⟨-, evaluator, hlast⟩ := lowerCase_of_firstLike hfirst
      rw [standsFor, hfirst, Option.bind_some, hlast, Option.or_eq_none_iff] at h
      cases h.2
  · intro h
    have hlast : lastUnder history name = none :=
      lastUnder_eq_none_iff.mpr fun p hp hname => h p hp (congrArg lowerCase hname)
    rw [standsFor_of_unregistered hlast, firstLike_eq_none_iff.mpr h, Option.bind_none]

/-- A registration changes nothing for names of other forms. -/
theorem standsFor_append_singleton (h : lowerCase other ≠ lowerCase name) :
    standsFor (history ++ [(name, evaluator)]) other = standsFor history other := by
  have hlast : ∀ first, lowerCase first = lowerCase other →
      lastUnder (history ++ [(name, evaluator)]) first = lastUnder history first := by
    intro first hfirst
    rw [lastUnder_append_singleton, if_neg]
    rintro rfl
    exact h hfirst.symm
  rw [standsFor, standsFor, hlast other rfl, firstLike_append_singleton, if_neg (Ne.symm h),
    Option.or_none]
  congr 1
  exact Option.bind_congr fun first hfirst => hlast first (lowerCase_of_firstLike hfirst).1

theorem Records.resolve? (h : table.Records history) (name : String) :
    (table.resolve? name).map Registration.evaluator = standsFor history name := by
  unfold FunctionTable.resolve? standsFor
  rw [Option.orElse_eq_or, Option.map_or, h.last, h.first, Option.map_bind]
  congr 1
  exact Option.bind_congr fun first _ => h.last first

theorem Records.lookup_eq (h : table.Records history) (name : String) : table.lookup name =
    match standsFor history name with
    | some evaluator => .ok evaluator
    | none => .error (.unknownFunction name) := by
  rw [← h.resolve?, FunctionTable.lookup]
  cases table.resolve? name <;> rfl

theorem Records.contains_iff (h : table.Records history) (name : String) :
    table.contains name = true ↔ ∃ p ∈ history, lowerCase p.1 = lowerCase name := by
  rw [contains, ← Option.isSome_map (f := Registration.evaluator), h.resolve?,
    Option.isSome_iff_ne_none, ne_eq, standsFor_eq_none_iff]
  simp only [ne_eq, Classical.not_forall, Classical.not_not, exists_prop]

/-- A name that is registered stands for itself. -/
theorem Records.lookup_of_last (h : table.Records history)
    (hlast : lastUnder history name = some evaluator) : table.lookup name = .ok evaluator := by
  rw [h.lookup_eq, standsFor_of_registered hlast]

theorem Records.find?_of_last (h : table.Records history)
    (hlast : lastUnder history name = some evaluator) :
    ∃ r, table.find? name = some r ∧ table.lookup name = .ok r.evaluator := by
  obtain ⟨r, hr, hevaluator⟩ := Option.map_eq_some_iff.mp ((h.last name).trans hlast)
  exact ⟨r, hr, hevaluator ▸ h.lookup_of_last hlast⟩

/-- A name that is not registered stands for the first one of its form. -/
theorem Records.lookup_of_first (h : table.Records history)
    (hname : ∀ p ∈ history, p.1 ≠ name) {first : String}
    (hfirst : firstLike history (lowerCase name) = some first) :
    ∃ held, table.lookup first = .ok held ∧ table.lookup name = .ok held := by
  obtain ⟨-, held, hlast⟩ := lowerCase_of_firstLike hfirst
  refine ⟨held, h.lookup_of_last hlast, ?_⟩
  rw [h.lookup_eq, standsFor_of_unregistered (lastUnder_eq_none_iff.mpr hname), hfirst,
    Option.bind_some, hlast]

theorem Records.lookup_of_not_contains (h : table.Records history)
    (hname : table.contains name = false) :
    table.lookup name = .error (.unknownFunction name) := by
  rw [contains, Option.isSome_eq_false_iff, Option.isNone_iff_eq_none] at hname
  rw [h.lookup_eq, ← h.resolve?, hname, Option.map_none]

/-- The operator's own entry is found under its name. -/
theorem Records.lookup_operator (h : table.Records history) {op : Operator}
    (hop : ∃ p ∈ history, p.1 = op.name) (ambient : Ambient) :
    table.lookup op.name = .ok (table.get ambient op) := by
  obtain ⟨p, hp, hname⟩ := hop
  obtain ⟨evaluator, hlast⟩ : ∃ evaluator, lastUnder history op.name = some evaluator := by
    apply Option.ne_none_iff_exists'.mp
    exact fun hnone => lastUnder_eq_none_iff.mp hnone p hp hname
  obtain ⟨r, hr, hlookup⟩ := h.find?_of_last hlast
  rw [hlookup, get, hr]

/-- A further registration counts at once, loses no name, and leaves names of other forms. -/
theorem Records.lookup_register (h : table.Records history) (name : String)
    (evaluator : Evaluator) :
    (table.register name evaluator).lookup name = .ok evaluator ∧
    (∀ other, table.contains other = true →
      (table.register name evaluator).contains other = true) ∧
    ∀ other, lowerCase other ≠ lowerCase name →
      (table.register name evaluator).lookup other = table.lookup other := by
  have hnext : (table.register name evaluator).Records (history ++ [(name, evaluator)]) := h.put _
  refine ⟨?_, ?_, ?_⟩
  · apply hnext.lookup_of_last
    rw [lastUnder_append_singleton, if_pos rfl]
  · intro other hother
    obtain ⟨p, hp, hform⟩ := (h.contains_iff other).mp hother
    exact (hnext.contains_iff other).mpr ⟨p, List.mem_append_left _ hp, hform⟩
  · intro other hother
    rw [hnext.lookup_eq, h.lookup_eq, standsFor_append_singleton hother]

/-- **The function table after any registrations.**  A registered name gives the evaluator last
registered under exactly that name.  Another name is known just when a registered one has the same
form in lower case, and then gives what the first such name ever registered gives now.  Every form
stands for a registered name, and every operator is found under its own.  A further registration
loses no name, and changes nothing for names of other forms. -/
theorem lookup_after_registrations (ambient : Ambient) (added : History) :
    let table := (builtin ambient).registerAll added
    let history := builtinHistory ambient ++ added
    (∀ before name evaluator after, history = before ++ (name, evaluator) :: after →
      (∀ p ∈ after, p.1 ≠ name) → table.lookup name = .ok evaluator) ∧
    (∀ name, (∀ p ∈ history, p.1 ≠ name) →
      (table.contains name = true ↔ ∃ p ∈ history, lowerCase p.1 = lowerCase name) ∧
      (table.contains name = false → table.lookup name = .error (.unknownFunction name)) ∧
      ∀ before first evaluator after, history = before ++ (first, evaluator) :: after →
        lowerCase first = lowerCase name → (∀ p ∈ before, lowerCase p.1 ≠ lowerCase name) →
        ∃ held, table.lookup first = .ok held ∧ table.lookup name = .ok held) ∧
    (∀ form name, table.nameOf? form = some name → lowerCase name = form ∧
      ∃ r, table.find? name = some r ∧ table.lookup name = .ok r.evaluator) ∧
    (∀ op : Operator, table.lookup op.name = .ok (table.get ambient op)) ∧
    ∀ name evaluator, let next := table.register name evaluator
      next.lookup name = .ok evaluator ∧
      (∀ other, table.contains other = true → next.contains other = true) ∧
      ∀ other, lowerCase other ≠ lowerCase name → next.lookup other = table.lookup other := by
  intro table history
  have hrecords : table.Records history := (records_builtin ambient).registerAll added
  refine ⟨?_, ?_, ?_, ?_, hrecords.lookup_register⟩
  · intro before name evaluator after hsplit hafter
    exact hrecords.lookup_of_last (hsplit ▸ lastUnder_of_split hafter)
  · intro name hname
    refine ⟨hrecords.contains_iff name, hrecords.lookup_of_not_contains, ?_⟩
    intro before first evaluator after hsplit hform hbefore
    exact hrecords.lookup_of_first hname (hsplit ▸ firstLike_of_split hbefore hform)
  · intro form name hform
    obtain ⟨hlower, held, hlast⟩ := lowerCase_of_firstLike ((hrecords.first form).symm.trans hform)
    exact ⟨hlower, hrecords.find?_of_last hlast⟩
  · intro op
    apply hrecords.lookup_operator
    have hmem := List.mem_map_of_mem (f := fun op => (op.name, op.evaluator ambient))
      (Operator.mem_all op)
    exact ⟨_, List.mem_append_left _ (List.mem_append_left _ hmem), rfl⟩

/-- An evaluator that says a word. -/
def saying (word : String) : Evaluator :=
  ⟨"say", .apply (fun _ => .text word) none, .string, none⟩

/-- A new name in two spellings, the first of which is registered twice. -/
def respelled : History :=
  [("shout", saying "a"), ("SHOUT", saying "b"), ("shout", saying "c")]

/-- A third spelling stands for the first one; a name of another form is unknown, and once it is
registered changes nothing for the others. -/
theorem lookup_after_registrations_respelled :
    let ambient : Ambient := .still
    let table := (builtin ambient).registerAll respelled
    table.lookup "shout" = .ok (saying "c") ∧ table.lookup "SHOUT" = .ok (saying "b") ∧
    (∃ held, table.lookup "shout" = .ok held ∧ table.lookup "Shout" = .ok held) ∧
    table.lookup "whisper" = .error (.unknownFunction "whisper") ∧
    (table.register "whisper" (saying "d")).lookup "Shout" = table.lookup "Shout" := by
  intro ambient table
  have hforms : lowerCase "shout" = "shout" ∧ lowerCase "Shout" = "shout" ∧
      lowerCase "whisper" = "whisper" := by decide +kernel
  have hbuiltin : ∀ p ∈ builtinHistory ambient,
      lowerCase p.1 ≠ "shout" ∧ p.1 ≠ "Shout" ∧ lowerCase p.1 ≠ "whisper" := by decide +kernel
  have hother : ∀ p ∈ builtinHistory ambient ++ respelled,
      p.1 ≠ "Shout" ∧ lowerCase p.1 ≠ "whisper" :=
    List.forall_mem_append.mpr ⟨fun p hp => (hbuiltin p hp).2, by decide +kernel⟩
  obtain ⟨hregistered, hunregistered, -, -, hnext⟩ := lookup_after_registrations ambient respelled
  refine ⟨?_, ?_, ?_, ?_, ?_⟩
  · apply hregistered (builtinHistory ambient ++ [("shout", saying "a"), ("SHOUT", saying "b")])
      "shout" (saying "c") []
    · simp only [respelled, List.append_assoc, List.cons_append, List.nil_append]
    · exact List.forall_mem_nil _
  · apply hregistered (builtinHistory ambient ++ [("shout", saying "a")]) "SHOUT" (saying "b")
      [("shout", saying "c")]
    · simp only [respelled, List.append_assoc, List.cons_append, List.nil_append]
    · simp
  · refine (hunregistered "Shout" fun p hp => (hother p hp).1).2.2 (builtinHistory ambient) "shout"
      (saying "a") [("SHOUT", saying "b"), ("shout", saying "c")] rfl ?_ ?_
    · rw [hforms.1, hforms.2.1]
    · rw [hforms.2.1]
      exact fun p hp => (hbuiltin p hp).1
  · have hname : ∀ p ∈ builtinHistory ambient ++ respelled, p.1 ≠ "whisper" := by
      intro p hp h
      apply (hother p hp).2
      rw [h, hforms.2.2]
    obtain ⟨hknown, hunknown, -⟩ := hunregistered "whisper" hname
    apply hunknown
    rw [← Bool.not_eq_true, hknown, hforms.2.2]
    rintro ⟨p, hp, h⟩
    exact (hother p hp).2 h
  · refine (hnext "whisper" (saying "d")).2.2 "Shout" ?_
    rw [hforms.2.1, hforms.2.2]
    decide

end FunctionTable

end StateExpr
