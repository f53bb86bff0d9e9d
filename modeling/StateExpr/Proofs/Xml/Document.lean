import StateExpr.Proofs.Xml.Reading
/-!
# Documents read back

A document is a declaration and an element.  It reads back as that element exactly when the names
of all elements in it are well-formed: what is read under declarations that add nothing to the
start can only have such names.

Main statements: `parse?_renderDocument`, `wellNamed_of_taken` and `Written.readsAs_iff`.
-/

namespace StateExpr.Xml

variable {fuel : ℕ} {spaces : Spaces} {cs rest : List Char}

/-! ## Reading a document -/

theorem dropText?_append (expected : String) (cs : List Char) :
    dropText? expected (expected.toList ++ cs) = some cs := by
  rw [dropText?, if_pos (List.isPrefixOf_iff_prefix.mpr (List.prefix_append _ _)),
    ← String.length_toList, List.drop_left]

/-- A name with its value is the first attribute, and the others are behind it. -/
theorem takeAttributes?_cons {c : Char} {name : WrittenName} {value : String}
    {others : List (WrittenName × String)} {valued behind : List Char} (hc : isSpace c = true)
    (hname : name.WellFormed) (hends : EndsName valued)
    (hvalue : takeValue? valued = some (value, rest))
    (hothers : takeAttributes? fuel rest = some (others, behind)) :
    takeAttributes? (fuel + 1) (c :: (name.chars ++ valued)) =
      some ((name, value) :: others, behind) := by
  have htaken := takeName?_chars hname hends
  obtain ⟨d, ds, hhead, hd⟩ := hname.head
  rw [hhead] at htaken ⊢
  have hd := not_mem_markup_of_nameStart hd
  simp only [markup, List.mem_cons, not_or] at hd
  have hblank : isSpace d = false := by simp [isSpace, hd]
  have hskip : skipSpace (c :: (d :: ds ++ valued)) = d :: ds ++ valued := by
    simp [skipSpace, hc, hblank]
  rw [takeAttributes?, hskip]
  simp only [List.cons_append] at htaken ⊢
  simp [hd, htaken, hvalue, hothers]

theorem takeAttributes?_version (cs : List Char) :
    takeAttributes? (fuel + 2)
      (' ' :: ("version".toList ++ ("='1.0'".toList ++ '?' :: '>' :: cs))) =
        some ([(⟨none, "version"⟩, "1.0")], '?' :: '>' :: cs) := by
  have hversion : WrittenName.WellFormed ⟨none, "version"⟩ := ⟨by decide +kernel, nofun⟩
  have hends : EndsName ("='1.0'".toList ++ '?' :: '>' :: cs) := by
    rintro c ⟨⟩
    exact ⟨namePart_markup _ (by decide), by decide⟩
  have hvalue : takeValue? ("='1.0'".toList ++ '?' :: '>' :: cs) =
      some ("1.0", '?' :: '>' :: cs) := by
    simp [takeValue?, takeQuoted?, skipSpace, isSpace]
  have hothers : takeAttributes? (fuel + 1) ('?' :: '>' :: cs) = some ([], '?' :: '>' :: cs) := rfl
  exact takeAttributes?_cons (by decide) hversion hends hvalue hothers

theorem dropDeclaration?_version (cs : List Char) :
    dropDeclaration? ("<?xml version='1.0'?>".toList ++ cs) = some cs := by
  have hsplit : "<?xml version='1.0'?>".toList ++ cs =
      "<?xml".toList ++ ' ' :: ("version".toList ++ ("='1.0'".toList ++ '?' :: '>' :: cs)) := by
    simp
  rw [dropDeclaration?, hsplit, dropText?_append]
  dsimp only
  rw [if_pos (by rfl), List.length_cons, takeAttributes?_version]
  exact dropText?_append "?>" cs

theorem takeSurroundings?_element {c : Char} (hc : nameStart.contains c = true) :
    takeSurroundings? (fuel + 1) ('<' :: c :: cs) = some ([], '<' :: c :: cs) := by
  have hne := not_mem_markup_of_nameStart hc
  simp only [markup, List.mem_cons, not_or] at hne
  have hskip : skipSpace ('<' :: c :: cs) = '<' :: c :: cs := by simp [skipSpace, isSpace]
  rw [takeSurroundings?, hskip]
  simp [hne]

/-- **A document of an element that reads back is that element.** -/
theorem parse?_renderDocument {node : Node} (h : ReadsBack node) :
    ∃ read, parse? (renderDocument node) = some [read] ∧ read.events = node.events := by
  obtain ⟨c, inner, hrender, hc, hread⟩ := h
  have hfuel : inner.length < 2 * ('<' :: c :: inner).length + 2 := by
    simp only [List.length_cons]
    omega
  obtain ⟨read, htaken, hevents⟩ := hread _ [] hfuel
  refine ⟨read, ?_, hevents⟩
  have hopen : dropText? "<" ('<' :: c :: inner) = some (c :: inner) :=
    dropText?_append "<" (c :: inner)
  rw [List.append_nil] at htaken
  unfold renderDocument
  simp only [parse?, String.toList_append, hrender, dropDeclaration?_version, Option.bind_eq_bind,
    Option.bind_some, takeSurroundings?_element hc, hopen, htaken]
  rfl

/-! ## Names of what was read -/

/-- The name of an element that starts. -/
def Event.name? : Event → Option String
  | .start name _ _ => some name
  | _ => none

/-- The names of the elements in a node. -/
def Node.names (node : Node) : List String := node.events.filterMap Event.name?

theorem forall_names_iff {P : String → Prop} {node : Node} : (∀ name ∈ node.names, P name) ↔
    ∀ e ∈ node.events, ∀ name ∈ e.name?, P name := by
  constructor
  · intro h e he name hname
    exact h name (List.mem_filterMap.mpr ⟨e, he, hname⟩)
  · intro h name hname
    obtain ⟨e, he, hname⟩ := List.mem_filterMap.mp hname
    exact h e he name hname

/-- An element that starts has a well-formed name. -/
def Event.WellNamed (e : Event) : Prop := ∀ name ∈ e.name?, isElementName name = true

/-- Bare names may have an address, but no qualifier is declared behind those of the start. -/
def StartsOnly (spaces : Spaces) : Prop :=
  ∀ q ≠ "", spaces.lookup q = initialSpaces.lookup q

/-- The event is no start of an element that declares qualifiers. -/
def Event.DeclaresNothing : Event → Prop
  | .start _ declared _ => declared = []
  | _ => True

theorem StartsOnly.declareSpaces {given : List (WrittenName × String)} (h : StartsOnly spaces)
    (hgiven : declaredBy given = []) : StartsOnly (declareSpaces spaces given) := by
  intro q hq
  rw [Xml.declareSpaces, hgiven, List.nil_append, ← h q hq]
  cases hbare : (bareAddress? given).filter (· != "") with
  | none => rfl
  | some address =>
    have hne : (q == "") = false := beq_false_of_ne hq
    simp [List.lookup_cons, hne]

theorem isElementName_of_resolve? {bare : Option String} {written : WrittenName} {name : Name}
    (h : StartsOnly spaces) (hwritten : written.WellFormed)
    (hname : resolve? spaces bare written = some name) : isElementName name.text = true := by
  refine isElementName_iff.mpr ⟨written, hwritten, ?_⟩
  obtain ⟨qualifier, localPart⟩ := written
  cases qualifier with
  | none =>
    cases hname
    exact ⟨nofun, rfl⟩
  | some q =>
    obtain ⟨address, haddress, rfl⟩ := Option.map_eq_some_iff.mp hname
    have hq : q ≠ "" := by
      rintro rfl
      simpa [isNamePart] using hwritten.qualifier "" rfl
    rw [h q hq, initialSpaces, List.lookup_cons] at haddress
    refine ⟨?_, by simp [WrittenName.chars, Name.text]⟩
    rintro p ⟨⟩
    cases hxml : q == "xml" with
    | true => exact eq_of_beq hxml
    | false => simp [hxml] at haddress

/-- What the reader of an element has read. -/
theorem takeElement?_eq_some {node : Node}
    (h : takeElement? (fuel + 1) spaces cs = some (node, rest)) :
    ∃ written given name attributes children, written.WellFormed ∧
      (∃ bare, resolve? (declareSpaces spaces given) bare written = some name) ∧
      node = .element name (declaredBy given) attributes children ∧
      (children = [] ∨ ∃ cs' rest', takeContent? fuel (declareSpaces spaces given) cs' =
        some (children, rest')) := by
  rw [takeElement?] at h
  obtain ⟨⟨written, cs₁⟩, hwritten, h⟩ := Option.bind_eq_some_iff.mp h
  obtain ⟨⟨given, cs₂⟩, -, h⟩ := Option.bind_eq_some_iff.mp h
  obtain ⟨-, -, h⟩ := Option.bind_eq_some_iff.mp h
  obtain ⟨name, hname, h⟩ := Option.bind_eq_some_iff.mp h
  obtain ⟨attributes, -, h⟩ := Option.bind_eq_some_iff.mp h
  dsimp only at h
  refine ⟨written, given, name, lastOfEach attributes, ?_⟩
  split at h
  · cases h
    exact ⟨[], takeName?_eq_some hwritten, ⟨_, hname⟩, rfl, .inl rfl⟩
  · obtain ⟨⟨children, cs₃⟩, hchildren, h⟩ := Option.bind_eq_some_iff.mp h
    obtain ⟨⟨closing, cs₄⟩, -, h⟩ := Option.bind_eq_some_iff.mp h
    obtain ⟨-, -, h⟩ := Option.bind_eq_some_iff.mp h
    obtain ⟨behind, -, h⟩ := Option.bind_eq_some_iff.mp h
    cases h
    exact ⟨children, takeName?_eq_some hwritten, ⟨_, hname⟩, rfl, .inr ⟨_, _, hchildren⟩⟩
  · cases h

/-- The node is no element. -/
def Node.IsLeaf : Node → Prop
  | .element _ _ _ _ => False
  | _ => True

theorem isLeaf_of_takeComment? {node : Node} (h : takeComment? cs = some (node, rest)) :
    node.IsLeaf := by
  obtain ⟨⟨content, cs'⟩, -, h⟩ := Option.bind_eq_some_iff.mp h
  obtain ⟨behind, -, h⟩ := Option.bind_eq_some_iff.mp h
  cases h
  trivial

theorem isLeaf_of_takeInstruction? {node : Node} (h : takeInstruction? cs = some (node, rest)) :
    node.IsLeaf := by
  obtain ⟨⟨target, cs'⟩, -, h⟩ := Option.bind_eq_some_iff.mp h
  obtain ⟨-, -, h⟩ := Option.bind_eq_some_iff.mp h
  dsimp only at h
  split at h
  · cases h
    trivial
  · obtain ⟨-, -, h⟩ := Option.bind_eq_some_iff.mp h
    obtain ⟨⟨content, behind⟩, -, h⟩ := Option.bind_eq_some_iff.mp h
    cases h
    trivial

/-- What the reader of content has read. -/
theorem takeContent?_eq_some {nodes : List Node}
    (h : takeContent? (fuel + 1) spaces cs = some (nodes, rest)) :
    nodes = [] ∨ ∃ node others mid, nodes = node :: others ∧
      (node.IsLeaf ∨ ∃ cs', takeElement? fuel spaces cs' = some (node, mid)) ∧
      takeContent? fuel spaces mid = some (others, rest) := by
  have hnode : ∀ node mid, node.IsLeaf ∨ (∃ cs', takeElement? fuel spaces cs' = some (node, mid)) →
      ((takeContent? fuel spaces mid).bind fun read => some (node :: read.1, read.2)) =
        some (nodes, rest) →
      ∃ node others mid, nodes = node :: others ∧
        (node.IsLeaf ∨ ∃ cs', takeElement? fuel spaces cs' = some (node, mid)) ∧
        takeContent? fuel spaces mid = some (others, rest) := by
    intro node mid hread h
    obtain ⟨⟨others, behind⟩, hothers, h⟩ := Option.bind_eq_some_iff.mp h
    obtain ⟨rfl, rfl⟩ := Prod.mk.inj (Option.some.inj h)
    exact ⟨node, others, mid, rfl, hread, hothers⟩
  rw [takeContent?.eq_def] at h
  dsimp only [Option.bind_eq_bind] at h
  -- as the reader tells them apart: the end of the text, a closing tag, a comment, a literal
  -- section, an instruction, an element, a reference, and a run of plain characters
  split at h
  · cases h
  · exact .inl (Prod.mk.inj (Option.some.inj h)).1.symm
  · obtain ⟨step, hstep, h⟩ := Option.bind_eq_some_iff.mp h
    obtain ⟨⟨node, mid⟩, htaken, rfl⟩ := Option.map_eq_some_iff.mp hstep
    exact .inr (hnode node mid (.inl (isLeaf_of_takeComment? htaken)) h)
  · obtain ⟨inside, -, h⟩ := Option.bind_eq_some_iff.mp h
    obtain ⟨⟨content, mid⟩, -, h⟩ := Option.bind_eq_some_iff.mp h
    exact .inr (hnode (.text (String.ofList content)) mid (.inl trivial) h)
  · obtain ⟨step, hstep, h⟩ := Option.bind_eq_some_iff.mp h
    obtain ⟨⟨node, mid⟩, htaken, rfl⟩ := Option.map_eq_some_iff.mp hstep
    exact .inr (hnode node mid (.inl (isLeaf_of_takeInstruction? htaken)) h)
  · obtain ⟨step, hstep, h⟩ := Option.bind_eq_some_iff.mp h
    obtain ⟨⟨node, mid⟩, htaken, rfl⟩ := Option.map_eq_some_iff.mp hstep
    exact .inr (hnode node mid (.inr ⟨_, htaken⟩) h)
  · obtain ⟨step, hstep, h⟩ := Option.bind_eq_some_iff.mp h
    obtain ⟨⟨c, mid⟩, -, rfl⟩ := Option.map_eq_some_iff.mp hstep
    exact .inr (hnode (.text (String.ofList [c])) mid (.inl trivial) h)
  · split at h
    · cases h
    · exact .inr (hnode (.text _) _ (.inl trivial) h)

theorem wellNamed_of_isLeaf {node : Node} (h : node.IsLeaf) : ∀ e ∈ node.events, e.WellNamed := by
  intro e he name hname
  cases node with
  | element => cases h
  | text s =>
    obtain ⟨c, -, rfl⟩ := List.mem_map.mp he
    cases hname
  | comment s | instruction target content =>
    obtain rfl := List.mem_singleton.mp he
    cases hname

/-- **What is read without declarations of qualifiers has well-formed names**, an element as well as
content, both with the same fuel. -/
theorem wellNamed_of_taken (fuel : ℕ) :
    (∀ spaces cs node rest, StartsOnly spaces → takeElement? fuel spaces cs = some (node, rest) →
      (∀ e ∈ node.events, e.DeclaresNothing) → ∀ e ∈ node.events, e.WellNamed) ∧
    ∀ spaces cs nodes rest, StartsOnly spaces → takeContent? fuel spaces cs = some (nodes, rest) →
      (∀ e ∈ eventsAll nodes, e.DeclaresNothing) → ∀ e ∈ eventsAll nodes, e.WellNamed := by
  induction fuel with
  | zero =>
    refine ⟨fun spaces cs node rest _ h => ?_, fun spaces cs nodes rest _ h => ?_⟩
    · rw [takeElement?] at h
      contradiction
    · rw [takeContent?] at h
      contradiction
  | succ fuel ih =>
    constructor
    · intro spaces cs node rest hspaces h hnothing
      obtain ⟨written, given, name, attributes, children, hwritten, ⟨bare, hname⟩, rfl, hinside⟩ :=
        takeElement?_eq_some h
      rw [Node.events, List.forall_mem_cons, List.forall_mem_append] at hnothing ⊢
      have hspaces := hspaces.declareSpaces hnothing.1
      have hstart : Event.WellNamed (.start name.text (declaredBy given) attributes) := by
        rintro text ⟨⟩
        exact isElementName_of_resolve? hspaces hwritten hname
      refine ⟨hstart, ?_, by simp [Event.WellNamed, Event.name?]⟩
      rcases hinside with rfl | ⟨cs', rest', hinside⟩
      · exact fun e he => absurd he List.not_mem_nil
      · exact ih.2 _ _ _ _ hspaces hinside hnothing.2.1
    · intro spaces cs nodes rest hspaces h hnothing
      rcases takeContent?_eq_some h with rfl | ⟨node, others, mid, rfl, hnode, hothers⟩
      · exact fun e he => absurd he List.not_mem_nil
      · rw [eventsAll, List.forall_mem_append] at hnothing ⊢
        refine ⟨?_, ih.2 _ _ _ _ hspaces hothers hnothing.2⟩
        rcases hnode with hleaf | ⟨cs', hnode⟩
        · exact wellNamed_of_isLeaf hleaf
        · exact ih.1 _ _ _ _ hspaces hnode hnothing.1

theorem startsOnly_initialSpaces : StartsOnly initialSpaces := fun _ _ => rfl

/-- A document that is one element has been read as that element. -/
theorem takeElement?_of_parse? {text : String} {node : Node} (h : parse? text = some [node]) :
    ∃ fuel cs rest, takeElement? fuel initialSpaces cs = some (node, rest) := by
  obtain ⟨cs, -, h⟩ := Option.bind_eq_some_iff.mp h
  obtain ⟨⟨before, cs₁⟩, -, h⟩ := Option.bind_eq_some_iff.mp h
  obtain ⟨cs₂, -, h⟩ := Option.bind_eq_some_iff.mp h
  obtain ⟨⟨element, cs₃⟩, helement, h⟩ := Option.bind_eq_some_iff.mp h
  obtain ⟨⟨behind, cs₄⟩, -, h⟩ := Option.bind_eq_some_iff.mp h
  obtain ⟨-, -, h⟩ := Option.bind_eq_some_iff.mp h
  have hnodes : before ++ element :: behind = [node] := Option.some.inj h
  have hnode : element = node :=
    List.mem_singleton.mp (hnodes ▸ List.mem_append_right before List.mem_cons_self)
  exact ⟨_, _, _, hnode ▸ helement⟩

theorem eventsAll_eq_flatMap (nodes : List Node) : eventsAll nodes = nodes.flatMap Node.events := by
  induction nodes with
  | nil => rfl
  | cons node rest ih => rw [eventsAll, ih, List.flatMap_cons]

theorem forall_events_bare {P : Event → Prop} {name : String} {nodes : List Node} :
    (∀ e ∈ (Node.bare name nodes).events, P e) ↔
      P (.start name [] []) ∧ (∀ node ∈ nodes, ∀ e ∈ node.events, P e) ∧ P .stop := by
  rw [Node.bare, Node.events, List.forall_mem_cons, List.forall_mem_append, eventsAll_eq_flatMap,
    List.forall_mem_flatMap, List.forall_mem_singleton]
  rfl

namespace Written

variable {P Q : String → Prop} {node : Node}

theorem declaresNothing (h : Written P node) : ∀ e ∈ node.events, e.DeclaresNothing := by
  induction h with
  | text name s _ =>
    rw [forall_events_bare, List.forall_mem_singleton]
    refine ⟨rfl, ?_, trivial⟩
    intro e he
    obtain ⟨c, -, rfl⟩ := List.mem_map.mp he
    trivial
  | elements name nodes _ _ ih => exact forall_events_bare.mpr ⟨rfl, ih, trivial⟩

/-- The names have any property that all of them have. -/
theorem of_names (h : Written P node) (hnames : ∀ name ∈ node.names, Q name) : Written Q node := by
  rw [forall_names_iff] at hnames
  induction h with
  | text name s _ => exact .text name s ((forall_events_bare.mp hnames).1 name rfl)
  | elements name nodes _ _ ih =>
    rw [forall_events_bare] at hnames
    refine .elements name nodes (hnames.1 name rfl) ?_
    intro node hnode
    exact ih node hnode (hnames.2.1 node hnode)

/-- What reads back as a written element is an element. -/
theorem isElement_of_events {read : Node} (h : Written P node)
    (hevents : read.events = node.events) :
    ∃ name declared attributes children, read = .element name declared attributes children := by
  have hstart : ∃ name declared attributes events,
      read.events = .start name declared attributes :: events := by
    rw [hevents]
    cases h <;> exact ⟨_, _, _, _, rfl⟩
  obtain ⟨name, declared, attributes, events, hstart⟩ := hstart
  cases read with
  | element name declared attributes children => exact ⟨name, declared, attributes, children, rfl⟩
  | text s =>
    obtain ⟨c, -, hc⟩ := List.mem_map.mp (hstart ▸ List.mem_cons_self : _ ∈ (Node.text s).events)
    cases hc
  | comment s | instruction target content => cases hstart

/-- **A written document reads back as its element exactly when all names are well-formed.** -/
theorem readsAs_iff (h : Written P node) :
    (∃ read, parse? (renderDocument node) = some [read] ∧ read.events = node.events) ↔
      ∀ name ∈ node.names, isElementName name = true := by
  constructor
  · rintro ⟨read, hread, hevents⟩
    obtain ⟨fuel, cs, rest, htaken⟩ := takeElement?_of_parse? hread
    have hnothing : ∀ e ∈ read.events, e.DeclaresNothing := hevents ▸ h.declaresNothing
    have hnamed := (wellNamed_of_taken fuel).1 _ _ _ _ startsOnly_initialSpaces htaken hnothing
    exact forall_names_iff.mpr (hevents ▸ hnamed)
  · intro hnames
    exact parse?_renderDocument (h.of_names hnames).readsBack

end Written

end StateExpr.Xml
