import StateExpr.Proofs.Xml.Document
import StateExpr.XPath.Evaluate
import StateExpr.XPath.Parser
/-!
# The element of a document

In the rows of a document that is one element, that element is the only child of the document, and
its text is that of all texts in it, in order.

Main statements: `Xml.text_element` and `XPath.query?_every`.
-/

namespace StateExpr.Xml

/-- The character of an event that is one. -/
def Event.char? : Event → Option Char
  | .char c => some c
  | _ => none

/-- The characters of all texts in a node. -/
def Node.content (node : Node) : String := String.ofList (node.events.filterMap Event.char?)

/-! ## Rows -/

/-- The text of a row that is one. -/
def Kind.textOf : Kind → String
  | .text s => s
  | _ => ""

theorem Kind.textOf_of_not_isChild {kind : Kind} (h : kind.isChild = false) : kind.textOf = "" := by
  cases kind <;> first | rfl | cases h

/-- The characters of texts among rows. -/
def rowsText (rows : List Row) : List Char := rows.flatMap fun row => row.kind.textOf.toList

theorem rowsText_append (rows others : List Row) :
    rowsText (rows ++ others) = rowsText rows ++ rowsText others := List.flatMap_append

theorem mem_leafRows {parent start : ℕ} {kinds : List Kind} {row : Row}
    (h : row ∈ leafRows parent start kinds) : row.parent = some parent ∧ row.kind ∈ kinds := by
  obtain ⟨⟨kind, i⟩, hkind, rfl⟩ := List.mem_map.mp h
  exact ⟨rfl, List.fst_mem_of_mem_zipIdx hkind⟩

theorem rowsText_attributes (parent start : ℕ) (attributes : List Attribute) :
    rowsText (leafRows parent start (attributes.map fun a => .attr a.name a.value)) = [] := by
  refine List.flatMap_eq_nil_iff.mpr fun row hrow => ?_
  obtain ⟨a, -, ha⟩ := List.mem_map.mp (mem_leafRows hrow).2
  rw [← ha]
  rfl

mutual

/-- The rows of a node have its texts in order. -/
theorem Node.rowsText_rows (scopes : List Spaces) (parent start : ℕ) :
    ∀ node : Node, rowsText (node.rows scopes parent start) = node.events.filterMap Event.char?
  | .element name declared attributes children => by
    rw [Node.rows, Node.events, rowsText, List.flatMap_cons, ← rowsText,
      rowsText_append, rowsText_attributes, rowsText_childRows]
    simp [Kind.textOf, Event.char?, List.filterMap_cons]
  | .text s => by simp [Node.rows, leafRows, rowsText, Node.events, Kind.textOf, Event.char?,
      List.filterMap_map, Function.comp_def]
  | .comment s => rfl
  | .instruction target content => rfl

theorem rowsText_childRows (scopes : List Spaces) (parent start : ℕ) : ∀ nodes : List Node,
    rowsText (childRows scopes parent start nodes) = (eventsAll nodes).filterMap Event.char?
  | [] => rfl
  | node :: rest => by
    rw [childRows, eventsAll, rowsText_append, List.filterMap_append, Node.rowsText_rows,
      rowsText_childRows]

end

mutual

/-- The rows of a node belong to the given row or to a row of the node. -/
theorem Node.parent_of_mem_rows {scopes : List Spaces} {parent start : ℕ} {row : Row} :
    ∀ {node : Node}, row ∈ node.rows scopes parent start →
      ∃ p, row.parent = some p ∧ (p = parent ∨ start ≤ p)
  | .element name declared attributes children, h => by
    rw [Node.rows] at h
    rcases List.mem_cons.mp h with rfl | h
    · exact ⟨parent, rfl, .inl rfl⟩
    · rcases List.mem_append.mp h with hown | hinner
      · exact ⟨start, (mem_leafRows hown).1, .inr le_rfl⟩
      · obtain ⟨p, hp, hstart⟩ := parent_of_mem_childRows hinner
        exact ⟨p, hp, .inr (by omega)⟩
  | .text s, h => ⟨parent, (mem_leafRows h).1, .inl rfl⟩
  | .comment s, h => ⟨parent, (mem_leafRows h).1, .inl rfl⟩
  | .instruction target content, h => ⟨parent, (mem_leafRows h).1, .inl rfl⟩

theorem parent_of_mem_childRows {scopes : List Spaces} {parent start : ℕ} {row : Row} :
    ∀ {nodes : List Node}, row ∈ childRows scopes parent start nodes →
      ∃ p, row.parent = some p ∧ (p = parent ∨ start ≤ p)
  | node :: rest, h => by
    rw [childRows] at h
    rcases List.mem_append.mp h with hnode | hrest
    · exact Node.parent_of_mem_rows hnode
    · obtain ⟨p, hp, hstart⟩ := parent_of_mem_childRows hrest
      exact ⟨p, hp, by omega⟩

end

namespace Outline

variable {o : Outline} {front mid back : List Row}

theorem range_eq_cons {first limit : ℕ} (h : first < limit) :
    range first limit = first :: range (first + 1) limit := by
  have hlength : limit - first = limit - (first + 1) + 1 := by omega
  rw [range, range, hlength, List.range_succ_eq_map, List.map_cons, List.map_map, Nat.zero_add]
  congr 1
  refine List.map_congr_left fun i _ => ?_
  simp only [Function.comp_apply]
  omega

/-- Rows are found in their places. -/
theorem map_row_range (ho : o.rows = (front ++ mid ++ back).toArray) :
    (range front.length (front.length + mid.length)).map (fun i => o.rows[i]?) = mid.map some := by
  rw [range, Nat.add_sub_cancel_left, List.map_map, ho]
  apply List.ext_getElem
  · simp
  · intro i hi _
    have hi : i < mid.length := by simpa using hi
    simp [Nat.add_comm i, List.getElem?_append, hi]

theorem map_kind_range (ho : o.rows = (front ++ mid ++ back).toArray) :
    (range front.length (front.length + mid.length)).map o.kind = mid.map Row.kind := by
  have h := congrArg (List.map fun row => (row.map Row.kind).getD .root) (map_row_range ho)
  rw [List.map_map, List.map_map] at h
  exact h

theorem map_parent_range (ho : o.rows = (front ++ mid ++ back).toArray) :
    (range front.length (front.length + mid.length)).map o.parent = mid.map Row.parent := by
  have h := congrArg (List.map fun row => row.bind Row.parent) (map_row_range ho)
  rw [List.map_map, List.map_map] at h
  exact h

/-- The texts of rows in their places, joined: rows that are no children have none. -/
theorem join_textOf_range (ho : o.rows = (front ++ mid ++ back).toArray) :
    String.join (((range front.length (front.length + mid.length)).filter
      fun j => (o.kind j).isChild).map fun j => (o.kind j).textOf) =
        String.ofList (rowsText mid) := by
  have hfilter : ∀ js : List ℕ, String.join ((js.filter fun j => (o.kind j).isChild).map
      fun j => (o.kind j).textOf) = String.join ((js.map o.kind).map Kind.textOf) := by
    intro js
    induction js with
    | nil => rfl
    | cons j js ih =>
      cases hj : (o.kind j).isChild with
      | true => simp [hj, ih]
      | false => simp [hj, ih, Kind.textOf_of_not_isChild hj]
  rw [hfilter, map_kind_range ho, ← String.toList_inj, String.toList_join, String.toList_ofList,
    List.flatMap_map, List.flatMap_map, rowsText]

end Outline

/-- The rows of a document that is an element: the document, the element, what is inside it. -/
theorem rows_ofNodes (name : Name) (declared : Spaces) (attributes : List Attribute)
    (children : List Node) :
    ∃ mid back, (Outline.ofNodes [.element name declared attributes children]).rows =
        ([⟨.root, none, 2 + mid.length⟩, ⟨.element name [declared], some 0, 2 + mid.length⟩] ++
          mid ++ back).toArray ∧
      (∀ row ∈ mid, row.parent ≠ some 0) ∧
      rowsText mid = (eventsAll children).filterMap Event.char? := by
  let own := leafRows 1 2 (attributes.reverse.map fun a => .attr a.name a.value)
  let inner := childRows [declared] 1 (2 + own.length) children
  have hrows : childRows [] 0 1 [.element name declared attributes children] =
      ⟨.element name [declared], some 0, 2 + (own ++ inner).length⟩ :: (own ++ inner) := by
    rw [childRows, childRows, Node.rows, List.append_nil, List.length_append, ← Nat.add_assoc]
  let rows : List Row := ⟨.root, none, 2 + (own ++ inner).length⟩ ::
    ⟨.element name [declared], some 0, 2 + (own ++ inner).length⟩ :: (own ++ inner)
  refine ⟨own ++ inner, spaceRows rows rows.length, ?_, ?_, ?_⟩
  · have hstop : 1 + ((own ++ inner).length + 1) = 2 + (own ++ inner).length := by omega
    rw [Outline.ofNodes, hrows, List.length_cons, hstop]
    rfl
  · intro row hrow h
    rcases List.mem_append.mp hrow with hown | hinner
    · rw [(mem_leafRows hown).1] at h
      cases h
    · obtain ⟨p, hp, hstart⟩ := parent_of_mem_childRows hinner
      rw [hp, Option.some.injEq] at h
      omega
  · rw [rowsText_append, rowsText_attributes, rowsText_childRows, List.nil_append]

/-- The element is the only child of its document. -/
theorem children_root (name : Name) (declared : Spaces) (attributes : List Attribute)
    (children : List Node) :
    (Outline.ofNodes [.element name declared attributes children]).children 0 = [1] := by
  obtain ⟨mid, back, ho, hparent, -⟩ := rows_ofNodes name declared attributes children
  generalize Outline.ofNodes [.element name declared attributes children] = o at ho
  have hstop : o.stop 0 = 2 + mid.length := by rw [Outline.stop, ho]; rfl
  have hkind : o.kind 1 = .element name [declared] := by rw [Outline.kind, ho]; rfl
  have hfirst : o.parent 1 = some 0 := by rw [Outline.parent, ho]; rfl
  have hrest : ∀ j ∈ Outline.range 2 (2 + mid.length), o.parent j ≠ some 0 := by
    intro j hj
    have hmem : o.parent j ∈ mid.map Row.parent :=
      Outline.map_parent_range ho ▸ List.mem_map_of_mem hj
    obtain ⟨row, hrow, hsame⟩ := List.mem_map.mp hmem
    exact hsame ▸ hparent row hrow
  rw [Outline.children, Outline.inside, hstop, Outline.range_eq_cons (by omega),
    List.filter_cons_of_pos (by rw [hkind]; rfl), List.filter_cons_of_pos (by rw [hfirst]; rfl),
    List.filter_filter, List.filter_eq_nil_iff.mpr]
  intro j hj
  simp [hrest j hj]

/-- The text of the element is that of all texts in it. -/
theorem text_element (name : Name) (declared : Spaces) (attributes : List Attribute)
    (children : List Node) :
    (Outline.ofNodes [.element name declared attributes children]).text 1 =
      (Node.element name declared attributes children).content := by
  obtain ⟨mid, back, ho, -, htext⟩ := rows_ofNodes name declared attributes children
  generalize Outline.ofNodes [.element name declared attributes children] = o at ho
  have hstop : o.stop 1 = 2 + mid.length := by rw [Outline.stop, ho]; rfl
  have hkind : o.kind 1 = .element name [declared] := by rw [Outline.kind, ho]; rfl
  have hjoin := Outline.join_textOf_range ho
  have hcontent : (Node.element name declared attributes children).content =
      String.ofList (rowsText mid) := by
    rw [htext, Node.content, Node.events]
    simp [Event.char?, List.filterMap_cons]
  rw [hcontent, ← hjoin, Outline.text, hkind]
  dsimp only
  rw [Outline.inside, hstop]
  rfl

end StateExpr.Xml

namespace StateExpr.XPath

open StateExpr.Xml (Node Outline)

/-- The query of all elements that are children of the document. -/
def every : Term := .located .root (.along .child .every [])

set_option maxRecDepth 2000 in
theorem tokens?_every : tokens? "/*" = some [.mark "/", .test .every] := by rfl

theorem parse?_every : Term.parse? "/*" = some every := by
  rw [Term.parse?, tokens?_every]
  rfl

/-- **The only element of a document is found**, and it is the row behind that of the document. -/
theorem query?_every (name : Xml.Name) (declared : Xml.Spaces) (attributes : List Xml.Attribute)
    (children : List Node) :
    every.query? (Outline.ofNodes [.element name declared attributes children]) =
      some (.nodes [1]) := by
  have hkind : ((Outline.ofNodes [.element name declared attributes children]).kind 1).isElement =
      true := by
    obtain ⟨mid, back, ho, -⟩ := Xml.rows_ofNodes name declared attributes children
    rw [Outline.kind, ho]
    rfl
  generalize ho : Outline.ofNodes [.element name declared attributes children] = o at hkind
  have hchildren : o.children 0 = [1] := ho ▸ Xml.children_root name declared attributes children
  have hstep : (Step.along .child .every []).reach? o 0 = some [1] := by
    have hpasses : Test.passes? .child .every (o.kind 1) = some true := congrArg some hkind
    simp [Step.reach?, Axis.rows, hchildren, List.filterM, List.filterAuxM, hpasses, keepAll?]
  have hone : inOrder [1] = [1] := by rw [inOrder, List.mergeSort_singleton]; rfl
  simp [every, Term.query?, Term.answer?, Answer.asNodes?, gather?, hstep, hone]

end StateExpr.XPath
