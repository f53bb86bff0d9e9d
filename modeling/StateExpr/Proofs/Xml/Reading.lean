import Mathlib.Data.List.TakeWhile
import StateExpr.Proofs.Occurrences
import StateExpr.Xml.Parser
import StateExpr.Xml.Printer
/-!
# Reading back what was written

Names are written as they are and texts with references for the three characters that could be
taken for markup.  So a text always reads back, and a name does exactly when it is one.  The reader
cuts texts where references stand; what was read is therefore compared by the events that a walk
through it meets, in which texts are single characters.

Main definitions: `isElementName`, `Node.events` and `Written`.

Main statements: `takeName?_chars`, `takeContent?_escaped` and `Written.readsBack`.
-/

namespace StateExpr.Xml

/-! ## Names -/

/-- The characters are a name without a qualifier. -/
def isNamePart : List Char → Bool
  | [] => false
  | c :: cs => nameStart.contains c && cs.all namePart.contains

/-- The text can name an element where nothing is declared: it has no qualifier but the one that is
there from the start. -/
def isElementName (s : String) : Bool :=
  isNamePart s.toList || "xml:".toList.isPrefixOf s.toList && isNamePart (s.toList.drop 4)

namespace WrittenName

/-- The characters of a name. -/
def chars (name : WrittenName) : List Char :=
  match name.qualifier with
  | some q => q.toList ++ ':' :: name.localPart.toList
  | none => name.localPart.toList

/-- Both parts are names without qualifiers. -/
structure WellFormed (name : WrittenName) : Prop where
  localPart : isNamePart name.localPart.toList = true
  qualifier : ∀ q ∈ name.qualifier, isNamePart q.toList = true

end WrittenName

/-- A name ends in front of these characters. -/
def EndsName (rest : List Char) : Prop :=
  ∀ c ∈ rest.head?, namePart.contains c = false ∧ c ≠ ':'

theorem takeNamePart?_append {cs rest : List Char} (hcs : isNamePart cs = true)
    (hrest : ∀ c ∈ rest.head?, namePart.contains c = false) :
    takeNamePart? (cs ++ rest) = some (String.ofList cs, rest) := by
  cases cs with
  | nil => simp [isNamePart] at hcs
  | cons c cs =>
    rw [isNamePart, Bool.and_eq_true, List.all_eq_true] at hcs
    rw [List.cons_append, takeNamePart?, if_pos hcs.1, List.span_eq_takeWhile_dropWhile,
      List.takeWhile_append_of_pos hcs.2, List.dropWhile_append_of_pos hcs.2]
    cases rest with
    | nil => simp
    | cons d rest =>
      have hd := hrest d rfl
      simp [hd]

theorem takeNamePart?_eq_some {cs rest : List Char} {s : String}
    (h : takeNamePart? cs = some (s, rest)) : isNamePart s.toList = true := by
  cases cs with
  | nil => simp [takeNamePart?] at h
  | cons c cs =>
    rw [takeNamePart?] at h
    split at h
    · next hc =>
      rw [List.span_eq_takeWhile_dropWhile, Option.some.injEq, Prod.mk.injEq] at h
      obtain ⟨rfl, -⟩ := h
      rw [String.toList_ofList, isNamePart, hc, Bool.true_and, List.all_eq_true]
      exact fun d hd => List.mem_takeWhile_imp hd
    · simp at h

/-- Characters of markup that are in no name. -/
def markup : List Char := [':', '>', '=', '/', '!', '?', ' ', '\t', '\n', '\r']

theorem namePart_markup : ∀ c ∈ markup, namePart.contains c = false := by
  have hnone : markup.any namePart.contains = false := by decide +kernel
  exact fun c hc => Bool.eq_false_iff.mpr (List.any_eq_false.mp hnone c hc)

theorem not_mem_markup_of_nameStart {c : Char} (h : nameStart.contains c = true) : c ∉ markup := by
  intro hc
  have hpart : namePart.contains c = true := by
    rw [Ranges.contains, Ranges.holds] at *
    rw [namePart, List.any_append, h, Bool.true_or]
  exact Bool.false_ne_true ((namePart_markup c hc).symm.trans hpart)

/-- A name starts with a character that names may start with. -/
theorem WrittenName.WellFormed.head {name : WrittenName} (h : name.WellFormed) :
    ∃ c cs, name.chars = c :: cs ∧ nameStart.contains c = true := by
  have hpart : ∀ cs, isNamePart cs = true →
      ∃ c more, cs = c :: more ∧ nameStart.contains c = true := by
    intro cs hcs
    cases cs with
    | nil => simp [isNamePart] at hcs
    | cons c more =>
      rw [isNamePart, Bool.and_eq_true] at hcs
      exact ⟨c, more, rfl, hcs.1⟩
  obtain ⟨qualifier, localPart⟩ := name
  cases qualifier with
  | none => exact hpart _ h.localPart
  | some q =>
    obtain ⟨c, cs, hq, hc⟩ := hpart _ (h.qualifier q rfl)
    exact ⟨c, cs ++ ':' :: localPart.toList, by simp [WrittenName.chars, hq], hc⟩

/-- A name is taken up to where it ends. -/
theorem takeName?_chars {name : WrittenName} {rest : List Char} (hname : name.WellFormed)
    (hrest : EndsName rest) : takeName? (name.chars ++ rest) = some (name, rest) := by
  obtain ⟨qualifier, localPart⟩ := name
  have hlocal := takeNamePart?_append hname.localPart fun c hc => (hrest c hc).1
  cases qualifier with
  | none =>
    rw [WrittenName.chars, takeName?]
    dsimp only at hlocal ⊢
    rw [hlocal, String.ofList_toList]
    cases rest with
    | nil => rfl
    | cons c rest =>
      have hc : c ≠ ':' := (hrest c rfl).2
      simp [hc]
  | some q =>
    have hq : takeNamePart? (q.toList ++ ':' :: (localPart.toList ++ rest)) = _ :=
      takeNamePart?_append (hname.qualifier q rfl) fun c hc =>
        Option.some.inj hc ▸ namePart_markup ':' (by decide)
    rw [WrittenName.chars, takeName?]
    dsimp only at hlocal ⊢
    rw [List.append_assoc, List.cons_append, hq, String.ofList_toList]
    simp only [Option.bind_eq_bind, Option.bind_some, hlocal, String.ofList_toList]

theorem takeName?_eq_some {cs rest : List Char} {name : WrittenName}
    (h : takeName? cs = some (name, rest)) : name.WellFormed := by
  rw [takeName?] at h
  obtain ⟨⟨first, more⟩, hfirst, h⟩ := Option.bind_eq_some_iff.mp h
  dsimp only at h
  split at h
  · next more =>
    obtain ⟨⟨second, behind⟩, hsecond, h⟩ := Option.bind_eq_some_iff.mp h
    obtain ⟨rfl, rfl⟩ := Prod.mk.inj (Option.some.inj h)
    exact ⟨takeNamePart?_eq_some hsecond, fun q hq => Option.some.inj hq ▸
      takeNamePart?_eq_some hfirst⟩
  · obtain ⟨rfl, rfl⟩ := Prod.mk.inj (Option.some.inj h)
    exact ⟨takeNamePart?_eq_some hfirst, nofun⟩

/-- A name that can stand where nothing is declared. -/
theorem isElementName_iff {s : String} : isElementName s = true ↔
    ∃ name : WrittenName, name.WellFormed ∧ (∀ q ∈ name.qualifier, q = "xml") ∧
      name.chars = s.toList := by
  rw [isElementName, Bool.or_eq_true, Bool.and_eq_true, List.isPrefixOf_iff_prefix]
  constructor
  · rintro (h | ⟨⟨cs, hcs⟩, h⟩)
    · exact ⟨⟨none, s⟩, ⟨h, nofun⟩, nofun, rfl⟩
    · rw [← hcs] at h ⊢
      have hcs : isNamePart cs = true := h
      refine ⟨⟨some "xml", String.ofList cs⟩, ⟨?_, ?_⟩, ?_, ?_⟩
      · rwa [String.toList_ofList]
      · rintro q ⟨⟩
        decide +kernel
      · rintro q ⟨⟩
        rfl
      · rw [WrittenName.chars, String.toList_ofList]
        rfl
  · rintro ⟨⟨qualifier, localPart⟩, ⟨hlocal, hq⟩, hxml, hs⟩
    cases qualifier with
    | none => exact .inl (hs ▸ hlocal)
    | some q =>
      obtain rfl := hxml q rfl
      refine .inr ⟨⟨localPart.toList, hs⟩, ?_⟩
      rw [← hs]
      exact hlocal

/-! ## Events -/

/-- What a walk through a document meets.  Texts are met by characters. -/
inductive Event where
  | start (name : String) (declared : Spaces) (attributes : List Attribute)
  | char (c : Char)
  | comment (s : String)
  | instruction (target content : String)
  | stop
deriving DecidableEq

mutual

/-- What a walk through a node meets. -/
def Node.events : Node → List Event
  | .element name declared attributes children =>
    .start name.text declared attributes :: (eventsAll children ++ [.stop])
  | .text s => s.toList.map .char
  | .comment s => [.comment s]
  | .instruction target content => [.instruction target content]

def eventsAll : List Node → List Event
  | [] => []
  | node :: rest => node.events ++ eventsAll rest

end

/-! ## Texts -/

/-- Characters that are written as they are. -/
def isPlain (c : Char) : Bool := c != '<' && c != '>' && c != '&'

theorem escapeChar_of_plain {c : Char} (h : isPlain c = true) : escapeChar c = [c] := by
  simp only [isPlain, Bool.and_eq_true, bne_iff_ne] at h
  rw [escapeChar, if_neg h.1.1, if_neg h.1.2, if_neg h.2]

/-- A text starts with a run of plain characters, behind which it ends or is not plain. -/
theorem exists_run (s : List Char) : ∃ run others, s = run ++ others ∧
    (∀ c ∈ run, isPlain c = true) ∧ ∀ c ∈ others.head?, isPlain c = false := by
  refine ⟨s.takeWhile isPlain, s.dropWhile isPlain, List.takeWhile_append_dropWhile.symm,
    fun c => List.mem_takeWhile_imp, fun c hc => ?_⟩
  have hhead := List.head?_dropWhile_not isPlain s
  rw [hc] at hhead
  simpa using hhead

theorem flatMap_escapeChar_of_plain {cs : List Char} (h : ∀ c ∈ cs, isPlain c = true) :
    cs.flatMap escapeChar = cs := by
  induction cs with
  | nil => rfl
  | cons c cs ih =>
    rw [List.flatMap_cons, escapeChar_of_plain (h c (by simp)),
      ih fun d hd => h d (List.mem_cons_of_mem c hd)]
    rfl

/-- A character that is not plain is written as a reference to it. -/
theorem escapeChar_of_not_plain {c : Char} (h : isPlain c = false) :
    ∃ reference, escapeChar c = '&' :: reference ∧
      ∀ rest, takeReference? (reference ++ rest) = some (c, rest) := by
  have hc : c = '<' ∨ c = '>' ∨ c = '&' := by
    simpa [isPlain, or_iff_not_imp_left] using h
  rcases hc with rfl | rfl | rfl
  · exact ⟨"lt;".toList, rfl, fun rest => rfl⟩
  · exact ⟨"gt;".toList, rfl, fun rest => rfl⟩
  · exact ⟨"amp;".toList, rfl, fun rest => rfl⟩

variable {fuel : ℕ} {spaces : Spaces} {rest : List Char}

theorem takeContent?_stop : takeContent? (fuel + 1) spaces ('<' :: '/' :: rest) = some ([], rest) :=
  rfl

theorem takeContent?_reference {reference : List Char} {c : Char} {nodes : List Node}
    {cs behind : List Char} (href : takeReference? (reference ++ cs) = some (c, cs))
    (h : takeContent? fuel spaces cs = some (nodes, behind)) :
    takeContent? (fuel + 1) spaces ('&' :: reference ++ cs) =
      some (.text (String.ofList [c]) :: nodes, behind) := by
  simp [takeContent?, href, h]

/-- A run of plain characters is one text. -/
theorem takeContent?_plain {c : Char} {run : List Char} {nodes : List Node} {cs behind : List Char}
    (hrun : ∀ d ∈ c :: run, isPlain d = true) (hcs : ∀ d ∈ cs.head?, d = '<' ∨ d = '&')
    (h : takeContent? fuel spaces cs = some (nodes, behind)) :
    takeContent? (fuel + 1) spaces (c :: run ++ cs) =
      some (.text (String.ofList (c :: run)) :: nodes, behind) := by
  have hplain : ∀ d ∈ c :: run, (d != '<' && d != '&') = true := by
    intro d hd
    have hd := hrun d hd
    simp only [isPlain, Bool.and_eq_true] at hd
    simp [hd.1.1, hd.2]
  have hspan : (c :: run ++ cs).span (fun d => d != '<' && d != '&') = (c :: run, cs) := by
    rw [List.span_eq_takeWhile_dropWhile, List.takeWhile_append_of_pos hplain,
      List.dropWhile_append_of_pos hplain]
    cases cs with
    | nil => simp
    | cons d cs => rcases hcs d rfl with rfl | rfl <;> simp
  -- the mark that ends a literal section has a character that is never plain
  have hmark : Search.first? "]]>".toList (c :: run) = none := by
    rw [(Search.first?_finds _ _).none_iff, Set.eq_empty_iff_forall_notMem]
    intro k hk
    have hmem : '>' ∈ c :: run := List.mem_of_mem_drop (List.IsPrefix.subset hk.2 (by simp))
    exact absurd (hrun '>' hmem) (by decide)
  have hc := hplain c List.mem_cons_self
  simp only [Bool.and_eq_true, bne_iff_ne, ne_eq] at hc
  rw [takeContent?]
  · simp only [hspan, hmark, Option.isSome_none, Bool.false_eq_true, if_false, Option.bind_eq_bind,
      Option.bind_some, h]
  all_goals simp [hc]

/-- A text reads back, in as many pieces as it has references and runs between them. -/
theorem takeContent?_escaped (s : List Char) (hfuel : (s.flatMap escapeChar).length < fuel) :
    ∃ nodes, takeContent? fuel spaces (s.flatMap escapeChar ++ '<' :: '/' :: rest) =
      some (nodes, rest) ∧ eventsAll nodes = s.map .char := by
  induction hn : s.length using Nat.strong_induction_on generalizing s fuel with
  | _ n ih =>
  subst hn
  obtain ⟨fuel, rfl⟩ := Nat.exists_eq_succ_of_ne_zero (Nat.ne_zero_of_lt hfuel)
  cases s with
  | nil => exact ⟨[], takeContent?_stop, rfl⟩
  | cons c s =>
    rw [List.flatMap_cons] at hfuel ⊢
    rw [List.append_assoc]
    cases hc : isPlain c with
    | false =>
      obtain ⟨reference, hwritten, href⟩ := escapeChar_of_not_plain hc
      rw [hwritten] at hfuel ⊢
      simp only [List.length_append, List.length_cons] at hfuel
      have hless : (s.flatMap escapeChar).length < fuel := by omega
      obtain ⟨nodes, hnodes, hevents⟩ := ih s.length (by simp) s hless rfl
      refine ⟨_, takeContent?_reference (href _) hnodes, ?_⟩
      rw [eventsAll, hevents]
      simp [Node.events]
    | true =>
      -- the whole run of plain characters is read at once
      obtain ⟨run, others, rfl, hrun, hothers⟩ := exists_run s
      rw [escapeChar_of_plain hc, List.flatMap_append, flatMap_escapeChar_of_plain hrun] at *
      simp only [List.length_append, List.length_cons, List.length_nil] at hfuel
      have hless : (others.flatMap escapeChar).length < fuel := by omega
      obtain ⟨nodes, hnodes, hevents⟩ := ih others.length (by simp) others hless rfl
      have hhead : ∀ d ∈ (others.flatMap escapeChar ++ '<' :: '/' :: rest).head?,
          d = '<' ∨ d = '&' := by
        cases others with
        | nil => simp
        | cons d others =>
          obtain ⟨reference, hwritten, -⟩ := escapeChar_of_not_plain (hothers d rfl)
          simp [hwritten]
      have hread := takeContent?_plain (List.forall_mem_cons.mpr ⟨hc, hrun⟩) hhead hnodes
      refine ⟨.text (String.ofList (c :: run)) :: nodes, ?_, ?_⟩
      · rw [List.append_assoc]
        exact hread
      · rw [eventsAll, hevents]
        simp [Node.events]

/-! ## Elements -/

theorem endsName_of_mem {c : Char} (hc : c = '>' ∨ c = '/') : EndsName (c :: rest) := by
  rintro d ⟨⟩
  rcases hc with rfl | rfl <;> exact ⟨namePart_markup _ (by decide), by decide⟩

/-- A name that is declared from the start, or needs no declaration, stands for itself. -/
theorem resolve?_initialSpaces {name : WrittenName} (h : ∀ q ∈ name.qualifier, q = "xml") :
    ∃ n, resolve? initialSpaces none name = some n ∧ n.text.toList = name.chars := by
  obtain ⟨qualifier, localPart⟩ := name
  cases qualifier with
  | none => exact ⟨_, rfl, rfl⟩
  | some q =>
    obtain rfl := h q rfl
    refine ⟨⟨some "xml", some startAddress, localPart⟩, rfl, ?_⟩
    simp [Name.text, WrittenName.chars]

theorem takeAttributes?_none {c : Char} (hc : c = '>' ∨ c = '/') :
    takeAttributes? (fuel + 1) (c :: rest) = some ([], c :: rest) := by
  rcases hc with rfl | rfl <;> rfl

theorem takeElement?_empty {name : WrittenName} {n : Name} (hname : name.WellFormed)
    (hn : resolve? initialSpaces none name = some n) :
    takeElement? (fuel + 1) initialSpaces (name.chars ++ '/' :: '>' :: rest) =
      some (.element n [] [] [], rest) := by
  have hslash : '/' = '>' ∨ '/' = '/' := .inr rfl
  rw [takeElement?, takeName?_chars hname (endsName_of_mem hslash)]
  simp only [Option.bind_eq_bind, Option.bind_some, takeAttributes?_none hslash]
  exact Option.bind_eq_some_iff.mpr ⟨(), rfl, Option.bind_eq_some_iff.mpr ⟨n, hn, rfl⟩⟩

theorem takeElement?_content {name : WrittenName} {n : Name} {children : List Node}
    {cs : List Char} (hname : name.WellFormed) (hn : resolve? initialSpaces none name = some n)
    (h : takeContent? fuel initialSpaces cs = some (children, name.chars ++ '>' :: rest)) :
    takeElement? (fuel + 1) initialSpaces (name.chars ++ '>' :: cs) =
      some (.element n [] [] children, rest) := by
  have hclose : '>' = '>' ∨ '>' = '/' := .inl rfl
  rw [takeElement?, takeName?_chars hname (endsName_of_mem hclose)]
  simp only [Option.bind_eq_bind, Option.bind_some, takeAttributes?_none hclose]
  refine Option.bind_eq_some_iff.mpr ⟨(), rfl, Option.bind_eq_some_iff.mpr ⟨n, hn, ?_⟩⟩
  refine Option.bind_eq_some_iff.mpr ⟨[], rfl, Option.bind_eq_some_iff.mpr ⟨_, h, ?_⟩⟩
  simp only [takeName?_chars hname (endsName_of_mem hclose), Option.bind_some, beq_self_eq_true]
  rfl

/-! ## Written elements -/

/-- The nodes are read back in front of a closing tag. -/
def ContentReadsBack (nodes : List Node) : Prop :=
  ∀ fuel rest, (renderAll nodes).toList.length < fuel → ∃ read,
    takeContent? fuel initialSpaces ((renderAll nodes).toList ++ '<' :: '/' :: rest) =
      some (read, rest) ∧ eventsAll read = eventsAll nodes

/-- The element is read back, from behind an opening mark that opens nothing else. -/
def ReadsBack (node : Node) : Prop :=
  ∃ c inner, node.render.toList = '<' :: c :: inner ∧ nameStart.contains c = true ∧
    ∀ fuel rest, inner.length < fuel → ∃ read,
      takeElement? fuel initialSpaces (c :: inner ++ rest) = some (read, rest) ∧
        read.events = node.events

theorem contentReadsBack_text (s : String) : ContentReadsBack [.text s] := by
  intro fuel rest hfuel
  have hrender : (renderAll [.text s]).toList = s.toList.flatMap escapeChar := by
    simp [renderAll, Node.render, escape]
  rw [hrender] at hfuel ⊢
  simpa [eventsAll, Node.events] using takeContent?_escaped s.toList hfuel

theorem takeContent?_element {c : Char} {cs behind : List Char} {node : Node} {nodes : List Node}
    (hc : nameStart.contains c = true)
    (hnode : takeElement? fuel spaces (c :: cs) = some (node, rest))
    (hnodes : takeContent? fuel spaces rest = some (nodes, behind)) :
    takeContent? (fuel + 1) spaces ('<' :: c :: cs) = some (node :: nodes, behind) := by
  have hne := not_mem_markup_of_nameStart hc
  simp only [markup, List.mem_cons, not_or] at hne
  rw [takeContent?]
  · simp only [Option.bind_eq_bind, Option.bind_some, hnode, Option.map_some, hnodes]
  all_goals simp [hne]

theorem contentReadsBack_elements {nodes : List Node} (h : ∀ node ∈ nodes, ReadsBack node) :
    ContentReadsBack nodes := by
  induction nodes with
  | nil =>
    intro fuel rest hfuel
    obtain ⟨fuel, rfl⟩ := Nat.exists_eq_succ_of_ne_zero (Nat.ne_zero_of_lt hfuel)
    exact ⟨[], takeContent?_stop, rfl⟩
  | cons node nodes ih =>
    intro fuel rest hfuel
    obtain ⟨fuel, rfl⟩ := Nat.exists_eq_succ_of_ne_zero (Nat.ne_zero_of_lt hfuel)
    obtain ⟨c, inner, hrender, hc, hread⟩ := h node List.mem_cons_self
    have hall : (renderAll (node :: nodes)).toList =
        '<' :: c :: inner ++ (renderAll nodes).toList := by
      rw [renderAll, String.toList_append, hrender]
    rw [hall] at hfuel ⊢
    simp only [List.length_append, List.length_cons] at hfuel
    obtain ⟨others, hothers, hevents⟩ :=
      ih (fun node hnode => h node (List.mem_cons_of_mem _ hnode)) fuel rest (by omega)
    obtain ⟨read, hfirst, hsame⟩ :=
      hread fuel ((renderAll nodes).toList ++ '<' :: '/' :: rest) (by omega)
    refine ⟨read :: others, ?_, by rw [eventsAll, eventsAll, hsame, hevents]⟩
    rw [List.append_assoc]
    exact takeContent?_element hc hfirst hothers

theorem render_bare_nil (name : String) :
    (Node.bare name []).render.toList = '<' :: (name.toList ++ ['/', '>']) := by
  simp [Node.bare, Node.render, Name.text, Name.plain, renderAttributes]

theorem render_bare_cons (name : String) (node : Node) (nodes : List Node) :
    (Node.bare name (node :: nodes)).render.toList =
      '<' :: (name.toList ++ '>' :: ((renderAll (node :: nodes)).toList ++ '<' :: '/' ::
        (name.toList ++ ['>']))) := by
  simp [Node.bare, Node.render, Name.text, Name.plain, renderAttributes]

theorem readsBack_bare {name : String} {nodes : List Node} (hname : isElementName name = true)
    (h : ContentReadsBack nodes) : ReadsBack (.bare name nodes) := by
  obtain ⟨written, hwritten, hxml, hchars⟩ := isElementName_iff.mp hname
  obtain ⟨n, hn, htext⟩ := resolve?_initialSpaces hxml
  have htext : n.text = name := String.toList_inj.mp (htext.trans hchars)
  obtain ⟨c, cs, hhead, hc⟩ := hwritten.head
  cases nodes with
  | nil =>
    refine ⟨c, cs ++ ['/', '>'], ?_, hc, fun fuel rest hfuel => ?_⟩
    · rw [render_bare_nil, ← hchars, hhead, List.cons_append]
    · obtain ⟨fuel, rfl⟩ := Nat.exists_eq_succ_of_ne_zero (Nat.ne_zero_of_lt hfuel)
      refine ⟨.element n [] [] [], ?_, by rw [Node.events, htext]; rfl⟩
      rw [← List.cons_append, ← hhead, List.append_assoc]
      exact takeElement?_empty hwritten hn
  | cons node nodes =>
    refine ⟨c, cs ++ '>' :: ((renderAll (node :: nodes)).toList ++ '<' :: '/' ::
      (name.toList ++ ['>'])), ?_, hc, fun fuel rest hfuel => ?_⟩
    · rw [render_bare_cons, ← hchars, hhead, List.cons_append]
    · obtain ⟨fuel, rfl⟩ := Nat.exists_eq_succ_of_ne_zero (Nat.ne_zero_of_lt hfuel)
      simp only [List.length_append, List.length_cons] at hfuel
      obtain ⟨read, hread, hevents⟩ := h fuel (written.chars ++ '>' :: rest) (by omega)
      refine ⟨.element n [] [] read, ?_, by rw [Node.events, htext, hevents]; rfl⟩
      have helement := takeElement?_content hwritten hn hread
      rw [← hchars]
      rw [hhead] at helement ⊢
      simpa only [List.cons_append, List.append_assoc, List.nil_append] using helement

/-- Trees as values are written, with names that have a property: names are bare, and an element
holds one text or elements. -/
inductive Written (P : String → Prop) : Node → Prop where
  | text (name s : String) (hname : P name) : Written P (.bare name [.text s])
  | elements (name : String) (nodes : List Node) (hname : P name)
    (h : ∀ node ∈ nodes, Written P node) : Written P (.bare name nodes)

/-- **Elements with well-formed names are read back.** -/
theorem Written.readsBack {node : Node} (h : Written (isElementName · = true) node) :
    ReadsBack node := by
  induction h with
  | text name s hname => exact readsBack_bare hname (contentReadsBack_text s)
  | elements name nodes hname _ ih => exact readsBack_bare hname (contentReadsBack_elements ih)

end StateExpr.Xml
