import StateExpr.Proofs.Calls
import StateExpr.Proofs.Xml.Outline
/-!
# Values as documents

Every value can be written as a document, but keys become names of elements as they are.  So the
document reads back as the element of the value exactly when the names that were made of its keys
are well-formed, whatever its texts are, and then a query finds that element.

Main statement: `Expr.documents_read_back`.
-/

namespace StateExpr

namespace Query

open Xml (Node Written isElementName)

/-! ## Names and keys -/

mutual

/-- The keys of all maps in a value, at any depth. -/
def keysWithin : Value → List String
  | .list items => keysWithinItems items
  | .map entries => keysWithinEntries entries
  | _ => []

def keysWithinItems : List Value → List String
  | [] => []
  | v :: rest => keysWithin v ++ keysWithinItems rest

def keysWithinEntries : List (String × Value) → List String
  | [] => []
  | (name, v) :: rest => name :: keysWithin v ++ keysWithinEntries rest

end

variable {P : String → Prop}

mutual

theorem written_contentOfEntries : ∀ entries : List (String × Value),
    (∀ key ∈ keysWithinEntries entries, P key) → ∀ node ∈ contentOfEntries entries, Written P node
  | [], _ => nofun
  | (name, v) :: rest, h => by
    rw [keysWithinEntries, List.forall_mem_append, List.forall_mem_cons] at h
    rw [contentOfEntries, List.forall_mem_append]
    exact ⟨written_elementsOf h.1.1 v h.1.2, written_contentOfEntries rest h.2⟩

theorem written_elementsOf {name : String} (hname : P name) :
    ∀ v : Value, (∀ key ∈ keysWithin v, P key) → ∀ node ∈ elementsOf name v, Written P node
  | .list items, h => written_elementsOfItems hname items h
  | .null, _ => List.forall_mem_singleton.mpr (.elements name [] hname nofun)
  | .map entries, h =>
    List.forall_mem_singleton.mpr (.elements name _ hname (written_contentOfEntries entries h))
  | .text s, _ => List.forall_mem_singleton.mpr (.text name s hname)
  | .number _, _ => List.forall_mem_singleton.mpr (.text name _ hname)
  | .bool _, _ => List.forall_mem_singleton.mpr (.text name _ hname)

theorem written_elementsOfItems {name : String} (hname : P name) : ∀ items : List Value,
    (∀ key ∈ keysWithinItems items, P key) → ∀ node ∈ elementsOfItems name items, Written P node
  | [], _ => nofun
  | v :: rest, h => by
    rw [keysWithinItems, List.forall_mem_append] at h
    rw [elementsOfItems, List.forall_mem_append]
    exact ⟨written_elementsOf hname v h.1, written_elementsOfItems hname rest h.2⟩

end

theorem written_contentOf {name : String} (hitem : P "item") (hname : P name) (v : Value)
    (h : ∀ key ∈ keysWithin v, P key) : Written P (.bare name (contentOf v)) := by
  cases v with
  | null => exact .elements name [] hname nofun
  | map entries => exact .elements name _ hname (written_contentOfEntries entries h)
  | list items => exact .elements name _ hname (written_elementsOfItems hitem items h)
  | text s => exact .text name s hname
  | number x | bool b => exact .text name _ hname

/-- Names come from keys, but for those of the root and of items. -/
theorem written_elementOf (hitem : P "item") (hroot : P "root") (v : Value)
    (h : ∀ key ∈ keysWithin v, P key) : Written P (elementOf v) := by
  unfold elementOf
  split
  · next name body =>
    split
    · exact written_contentOf hitem hroot _ h
    · rw [keysWithin, keysWithinEntries, List.forall_mem_append, List.forall_mem_cons] at h
      exact written_contentOf hitem h.1.1 body h.1.2
  · exact written_contentOf hitem hroot v h

/-- The names that come from no key. -/
theorem isElementName_given : isElementName "item" = true ∧ isElementName "root" = true := by
  decide +kernel

/-! ## Documents -/

/-- The value that is written for an argument: a text is read first. -/
def shaped? : Value → Option Value
  | .text s => Json.parse? s
  | v => some v

/-- The text of the document of a value. -/
def written (content : Value) : String := Xml.renderDocument (elementOf content)

theorem xml_eq (v : Value) : xml [v] =
    (shaped? v).elim (.error "Invalid json") fun content => .ok (.text (written content)) := by
  cases v with
  | text s =>
    have hargument : argument [.text s] 0 = .text s := rfl
    rw [xml, hargument, shaped?]
    dsimp only
    cases Json.parse? s <;> rfl
  | _ => rfl

theorem xml_eq_ok_iff {v r : Value} :
    xml [v] = .ok r ↔ ∃ content, shaped? v = some content ∧ r = .text (written content) := by
  rw [xml_eq]
  cases shaped? v with
  | none => simp
  | some content => simp [eq_comm]

/-- The document of a value reads back as its element, but for where texts are cut. -/
def Readable (content : Value) : Prop :=
  ∃ read, Xml.parse? (written content) = some [read] ∧ read.events = (elementOf content).events

theorem written_anyhow (content : Value) : Written (fun _ => True) (elementOf content) :=
  written_elementOf trivial trivial content fun _ _ => trivial

theorem readable_iff (content : Value) :
    Readable content ↔ ∀ name ∈ (elementOf content).names, isElementName name = true :=
  (written_anyhow content).readsAs_iff

theorem readable_of_keys {content : Value}
    (h : ∀ key ∈ keysWithin content, isElementName key = true) : Readable content := by
  obtain ⟨hitem, hroot⟩ := isElementName_given
  exact Xml.parse?_renderDocument (written_elementOf hitem hroot content h).readsBack

/-- A document that reads back is one element with the same texts. -/
theorem Readable.exists_element {content : Value} (h : Readable content) :
    ∃ name declared attributes children,
      let node := Node.element name declared attributes children
      Xml.parse? (written content) = some [node] ∧ node.content = (elementOf content).content := by
  obtain ⟨read, hread, hevents⟩ := h
  have hcontent : read.content = (elementOf content).content := by
    rw [Node.content, Node.content, hevents]
  obtain ⟨name, declared, attributes, children, rfl⟩ :=
    (written_anyhow content).isElement_of_events hevents
  exact ⟨name, declared, attributes, children, hread, hcontent⟩

theorem xPath_eq (text path : String) :
    xPath [.text text, .text path] = match Xml.parse? text with
      | none => .error (text ++ " is not valid xml")
      | some nodes =>
        match (XPath.Term.parse? path).bind (·.query? (.ofNodes nodes)) with
        | some answer => .ok (answerValue (.ofNodes nodes) answer)
        | none => .error (path ++ " is not an valid expression") := rfl

/-- A query of a document that reads back fails only when it is no query. -/
theorem Readable.xPath {content : Value} (h : Readable content) (path : String) :
    (∃ r, xPath [.text (written content), .text path] = .ok r) ∨
      xPath [.text (written content), .text path] =
        .error (path ++ " is not an valid expression") := by
  obtain ⟨read, hread, -⟩ := h
  rw [xPath_eq, hread]
  dsimp only
  split
  · exact .inl ⟨_, rfl⟩
  · exact .inr rfl

theorem Readable.xPath_every {content : Value} (h : Readable content) :
    Query.xPath [.text (written content), .text "/*"] =
      .ok (.list [.text (elementOf content).content]) := by
  obtain ⟨name, declared, attributes, children, hread, hcontent⟩ := h.exists_element
  rw [xPath_eq, hread, XPath.parse?_every]
  dsimp only [Option.bind_some]
  rw [XPath.query?_every, ← hcontent, ← Xml.text_element]
  rfl

end Query

namespace Expr

open Query (elementOf written Readable shaped? keysWithin)

/-- **Documents of values.**  A value is written unless it is a text that is not JSON.  The document
reads back exactly when the names in it, which its keys have become, can name elements; no text of
the value matters.  Then its element is found with all texts of the value, and no query fails but
for its own sake. -/
theorem documents_read_back (ambient : Ambient) :
    (∀ v, CallGives ambient .xml [v] fun r =>
      ∃ content, shaped? v = some content ∧ r = .text (written content)) ∧
    (∀ content, Readable content ↔
      ∀ name ∈ (elementOf content).names, Xml.isElementName name = true) ∧
    (∀ content, (∀ key ∈ keysWithin content, Xml.isElementName key = true) → Readable content) ∧
    ∀ content, Readable content →
      Returns ambient .xPath [.text (written content), .text "/*"]
        (.list [.text (elementOf content).content]) ∧
      ∀ path cs s s', Operands cs s [.text (written content), .text path] s' → ∃ x,
        (operation ambient .xPath cs).evaluate.outcome s = (x, s') ∧
        ((∃ r, x = .ok r) ∨ x = .error (.failure (path ++ " is not an valid expression"))) := by
  have htexts : ∀ texts : List String, Checked (some .string) 0 (texts.map .text) :=
    checked_texts (fun _ _ _ => rfl) 0
  refine ⟨?_, Query.readable_iff, fun content => Query.readable_of_keys, ?_⟩
  · intro v
    exact (callGives_of_applyWithError rfl rfl (checked_none 0 _)).congr
      fun r => Query.xml_eq_ok_iff
  · intro content h
    constructor
    · exact (callGives_of_applyWithError rfl rfl (htexts [_, _])).returns h.xPath_every
    · intro path cs s s' hoperands
      refine ⟨_, outcome_of_applyWithError rfl rfl (htexts [_, _]) hoperands, ?_⟩
      rcases h.xPath path with ⟨r, hr⟩ | hfault
      · exact .inl ⟨r, congrArg (Except.mapError EvalError.failure) hr⟩
      · exact .inr (congrArg (Except.mapError EvalError.failure) hfault)

/-- Texts may have any characters, and items of lists share a name. -/
theorem documents_read_back_person :
    let ambient : Ambient := .still
    let v : Value := .map [("person", .map [("name", .text "<Owen> & "),
      ("city", .list [.text "Seattle", .null])])]
    let text := "<?xml version='1.0'?><person><name>&lt;Owen&gt; &amp; </name>" ++
      "<city>Seattle</city><city/></person>"
    (∀ key ∈ keysWithin v, Xml.isElementName key = true) ∧ Readable v ∧
    (∀ name ∈ (elementOf v).names, Xml.isElementName name = true) ∧
    Returns ambient .xml [v] (.text text) ∧
    Returns ambient .xPath [.text text, .text "/*"] (.list [.text "<Owen> & Seattle"]) := by
  intro ambient v text
  obtain ⟨hxml, hiff, hkeys, hquery⟩ := documents_read_back ambient
  have hnamed : (keysWithin v).all Xml.isElementName = true := by decide +kernel
  have hnamed : ∀ key ∈ keysWithin v, Xml.isElementName key = true := List.all_eq_true.mp hnamed
  have htext : written v = text := by decide +kernel
  have hcontent : (elementOf v).content = "<Owen> & Seattle" := by decide +kernel
  have hread := hkeys v hnamed
  refine ⟨hnamed, hread, (hiff v).mp hread, (hxml v).returns ⟨v, rfl, by rw [htext]⟩, ?_⟩
  rw [← htext, ← hcontent]
  exact (hquery v hread).1

/-- A key with a blank gives a document that cannot be read. -/
theorem name_with_blank_not_read :
    let ambient : Ambient := .still
    let v : Value := .map [("a b", .text "x")]
    let text := "<?xml version='1.0'?><a b>x</a b>"
    Xml.isElementName "a b" = false ∧ Returns ambient .xml [v] (.text text) ∧
    (Xml.parse? text).isNone = true ∧
    (operation ambient .xPath
      [operation ambient .xml [.constant v], .constant (.text "/*")]).evaluate.outcome .null =
        (.error (.failure (text ++ " is not valid xml")), .null) := by
  intro ambient v text
  have htext : written v = text := by decide +kernel
  have hxml : Returns ambient .xml [v] (.text text) :=
    (callGives_of_applyWithError rfl rfl (checked_none 0 _)).returns (by rw [← htext]; rfl)
  have hnone : (Xml.parse? text).isNone = true := by decide +kernel
  have hfails : Query.xPath [.text text, .text "/*"] = .error (text ++ " is not valid xml") := by
    rw [Query.xPath_eq, Option.isNone_iff_eq_none.mp hnone]
  refine ⟨by decide +kernel, hxml, hnone, ?_⟩
  have hoperands : Operands [operation ambient .xml [.constant v], .constant (.text "/*")] .null
      ([text, "/*"].map .text) .null :=
    .cons (hxml _ _ _ (.constant [v] .null)) (.constant [.text "/*"] .null)
  rw [outcome_of_applyWithError rfl rfl (checked_texts (fun _ _ _ => rfl) 0 _) hoperands]
  exact congrArg (fun x => (Except.mapError EvalError.failure x, Value.null)) hfails

end Expr

end StateExpr
