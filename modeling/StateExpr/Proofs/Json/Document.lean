import StateExpr.Json.Document
import StateExpr.Proofs.Codec.Order
import StateExpr.Proofs.Equality
import StateExpr.Proofs.Number.Text
import StateExpr.Proofs.Sorting
/-!
# Values through documents

A document has the keys of its maps in order, null for numbers that are not finite, and no negative
zero.  So what comes back from it is not quite what went in, but equal to it once numbers that are
not finite are null; and it goes through a document unchanged.

Main statements: `Json.documentNumber_cases`, what becomes of a number; `Value.beq_sortedByKey`,
that the order of keys does not matter; `Value.keysInOrder_throughDocument`; and
`Value.document_preserves`.
-/

namespace StateExpr

namespace Json

/-! ## Numbers -/

section

variable {x : Float} {k : ℤ}

theorem abs_lt_two_pow (h : wholeValue? x = some k) :
    x.abs < 9007199254740992 ↔ k.natAbs < 2 ^ 53 := by
  have hbound : Dyadic.ofFloat? 9007199254740992 = some (Dyadic.ofNat (2 ^ 53)) := by
    decide +kernel
  exact abs_lt_iff_of_bound h hbound rfl (Dyadic.magnitude_ofNat (by decide))

theorem documentNumber_of_not_finite (h : x.isFinite = false) : documentNumber x = .null := by
  unfold documentNumber
  rw [h]
  rfl

theorem documentNumber_of_whole (h : wholeValue? x = some k) (hk : k.natAbs < 2 ^ 53) :
    documentNumber x = .number (.whole k) := by
  have hclamp : clampInt64 k = k := by
    unfold clampInt64 int64Min int64Max
    omega
  have hwhole : (isWholeNumber x && decide (x.abs < 9007199254740992)) = true := by
    rw [isWholeNumber, h, decide_eq_true ((abs_lt_two_pow h).mpr hk)]
    rfl
  unfold documentNumber
  rw [isFinite_of_wholeValue h, hwhole, saturateInt64_of_wholeValue h, hclamp]
  rfl

theorem documentNumber_of_other (hfinite : x.isFinite = true)
    (h : ∀ k, wholeValue? x = some k → 2 ^ 53 ≤ k.natAbs) : documentNumber x = .number (.real x) := by
  have hother : (isWholeNumber x && decide (x.abs < 9007199254740992)) = false := by
    unfold isWholeNumber
    cases hwhole : wholeValue? x with
    | none => rfl
    | some k =>
      have hlarge : ¬ x.abs < 9007199254740992 := by
        rw [abs_lt_two_pow hwhole]
        exact Nat.not_lt.mpr (h k hwhole)
      exact decide_eq_false hlarge
  unfold documentNumber
  rw [hfinite, hother]
  rfl

/-- **What becomes of a number**: null when it is not finite, and otherwise an equal number with the
same document. -/
theorem documentNumber_cases (x : Float) :
    x.isFinite = false ∧ documentNumber x = .null ∨
    x.isFinite = true ∧ ∃ y, (documentNumber x).value = .number y ∧ (y == x) = true ∧
      documentNumber y = documentNumber x := by
  cases hfinite : x.isFinite with
  | false => exact .inl ⟨rfl, documentNumber_of_not_finite hfinite⟩
  | true =>
    refine .inr ⟨rfl, ?_⟩
    by_cases hsmall : ∃ k, wholeValue? x = some k ∧ k.natAbs < 2 ^ 53
    · obtain ⟨k, hk, hlt⟩ := hsmall
      have hlog : k.natAbs.log2 < 1023 := by
        by_cases h0 : k.natAbs = 0
        · rw [h0]
          decide
        · exact ((Nat.log2_lt h0).mpr hlt).trans (by decide)
      have hback : wholeValue? (numberOfInt k) = some k := by
        rw [wholeValue?_numberOfInt hlog, Dyadic.nearestWhole_of_lt hlt, Int.sign_mul_natAbs]
      refine ⟨numberOfInt k, ?_, numberOfInt_beq hk, ?_⟩
      · rw [documentNumber_of_whole hk hlt]
        rfl
      · rw [documentNumber_of_whole hk hlt, documentNumber_of_whole hback hlt]
    · have hother : documentNumber x = .number (.real x) := by
        refine documentNumber_of_other hfinite ?_
        intro k hk
        exact Nat.not_lt.mp fun hlt => hsmall ⟨k, hk, hlt⟩
      obtain ⟨d, hd⟩ := Option.isSome_iff_exists.mp ((Dyadic.isFinite_eq x).symm.trans hfinite)
      refine ⟨x, ?_, (Dyadic.beq_iff hd hd).mpr (.inl rfl), rfl⟩
      rw [hother]
      rfl

end

namespace Document

theorem ofItems_eq_map (vs : List Value) : ofItems vs = vs.map ofValue := by
  induction vs with
  | nil => rfl
  | cons v rest ih => rw [ofItems, ih, List.map_cons]

theorem ofEntries_eq_map (es : Entries) : ofEntries es = es.map fun e => (e.1, ofValue e.2) := by
  induction es with
  | nil => rfl
  | cons e rest ih => rw [ofEntries, ih, List.map_cons]

theorem itemValues_eq_map (ds : List Document) : itemValues ds = ds.map value := by
  induction ds with
  | nil => rfl
  | cons d rest ih => rw [itemValues, ih, List.map_cons]

theorem entryValues_eq_map (es : List (String × Document)) :
    entryValues es = es.map fun e => (e.1, value e.2) := by
  induction es with
  | nil => rfl
  | cons e rest ih => rw [entryValues, ih, List.map_cons]

end Document

/-! ## Keys in order -/

section

variable {α β : Type} {es : List (String × α)}

theorem sortedByKey_eq (es : List (String × α)) :
    sortedByKey es = es.mergeSort fun a b => decide (a.1 ≤ b.1) := by
  unfold sortedByKey
  congr 1
  funext a b
  rw [compareText_eq, Bool.eq_iff_iff, bne_iff_ne, decide_eq_true_iff, compare_le_iff_le]

theorem perm_sortedByKey (es : List (String × α)) : (sortedByKey es).Perm es :=
  List.mergeSort_perm es _

/-- Sorting looks at nothing but the keys. -/
theorem sortedByKey_map (f : α → β) (es : List (String × α)) :
    sortedByKey (es.map fun e => (e.1, f e.2)) = (sortedByKey es).map fun e => (e.1, f e.2) := by
  unfold sortedByKey
  refine (List.map_mergeSort ?_).symm
  intro a _ b _
  rfl

theorem sortedByKey_sortedByKey (es : List (String × α)) :
    sortedByKey (sortedByKey es) = sortedByKey es := by
  have hsorted := pairwise_mergeSort_le Prod.fst es
  rw [← sortedByKey_eq] at hsorted
  rw [sortedByKey_eq (sortedByKey es)]
  exact List.mergeSort_of_pairwise (hsorted.imp decide_eq_true)

theorem pairwise_sortedByKey (h : (es.map Prod.fst).Nodup) :
    ((sortedByKey es).map Prod.fst).Pairwise (· < ·) := by
  have hsorted := pairwise_mergeSort_le Prod.fst es
  rw [← sortedByKey_eq] at hsorted
  have hnodup : ((sortedByKey es).map Prod.fst).Nodup :=
    ((perm_sortedByKey es).map Prod.fst).nodup_iff.mpr h
  rw [List.pairwise_map]
  rw [List.Nodup, List.pairwise_map] at hnodup
  exact (hsorted.and hnodup).imp fun h => lt_of_le_of_ne h.1 h.2

end

end Json

namespace Value

open StateExpr.Json

/-! ## Through a document -/

/-- The value that comes back from the document of a value. -/
def throughDocument (v : Value) : Value := (Document.ofValue v).value

theorem throughDocument_list (items : List Value) :
    (list items).throughDocument = list (items.map throughDocument) := by
  change list (Document.itemValues (Document.ofItems items)) = _
  rw [Document.itemValues_eq_map, Document.ofItems_eq_map, List.map_map]
  rfl

theorem throughDocument_map (entries : Entries) : (map entries).throughDocument =
    map ((sortedByKey entries).map fun e => (e.1, e.2.throughDocument)) := by
  change map (Document.entryValues (sortedByKey (Document.ofEntries entries))) = _
  rw [Document.entryValues_eq_map, Document.ofEntries_eq_map, sortedByKey_map, List.map_map]
  rfl

mutual

/-- The value with null in place of every number that is not finite. -/
def finiteOrNull : Value → Value
  | number x => if x.isFinite then number x else null
  | list items => list (itemsFiniteOrNull items)
  | map entries => map (entriesFiniteOrNull entries)
  | v => v

def itemsFiniteOrNull : List Value → List Value
  | [] => []
  | v :: rest => finiteOrNull v :: itemsFiniteOrNull rest

def entriesFiniteOrNull : List (String × Value) → List (String × Value)
  | [] => []
  | (k, v) :: rest => (k, finiteOrNull v) :: entriesFiniteOrNull rest

end

theorem finiteOrNull_list (items : List Value) :
    (list items).finiteOrNull = list (items.map finiteOrNull) := by
  have heq : itemsFiniteOrNull items = items.map finiteOrNull := by
    induction items with
    | nil => rfl
    | cons v rest ih => rw [itemsFiniteOrNull, ih, List.map_cons]
  rw [finiteOrNull, heq]

theorem finiteOrNull_map (entries : Entries) : (map entries).finiteOrNull =
    map (entries.map fun e => (e.1, e.2.finiteOrNull)) := by
  have heq : entriesFiniteOrNull entries =
      entries.map fun e => (e.1, e.2.finiteOrNull) := by
    induction entries with
    | nil => rfl
    | cons e rest ih => rw [entriesFiniteOrNull, ih, List.map_cons]
  rw [finiteOrNull, heq]

/-- The keys of every map are in the strict order of their bytes. -/
inductive KeysInOrder : Value → Prop where
  | null : KeysInOrder null
  | bool {b : Bool} : KeysInOrder (bool b)
  | number {x : Float} : KeysInOrder (number x)
  | text {s : String} : KeysInOrder (text s)
  | list {items : List Value} (beneath : ∀ v ∈ items, KeysInOrder v) : KeysInOrder (list items)
  | map {entries : Entries}
      (ordered : (entries.map Prod.fst).Pairwise fun k l => k.toUTF8.toList < l.toUTF8.toList)
      (beneath : ∀ e ∈ entries, KeysInOrder e.2) : KeysInOrder (map entries)

theorem finiteOrNull_of_finite {v : Value} (h : ∀ x ∈ v.numbers, x.isFinite = true) :
    v.finiteOrNull = v := by
  induction v using Value.induction with
  | null => rfl
  | bool b => rfl
  | number x => exact if_pos (h x (List.mem_singleton.mpr rfl))
  | text s => rfl
  | list items ih =>
    rw [finiteOrNull_list]
    refine congrArg list ((List.map_congr_left ?_).trans (List.map_id _))
    intro v hv
    exact ih v hv fun x hx => h x (mem_itemNumbers.mpr ⟨v, hv, hx⟩)
  | map entries ih =>
    rw [finiteOrNull_map]
    refine congrArg map ((List.map_congr_left ?_).trans (List.map_id _))
    intro e he
    exact Prod.ext rfl (ih e he fun x hx => h x (mem_entryNumbers.mpr ⟨e, he, hx⟩))

theorem keysInOrder_throughDocument {v : Value} (h : v.Keyed) : v.throughDocument.KeysInOrder := by
  induction v using Value.induction with
  | null => exact .null
  | bool b => exact .bool
  | number x =>
    change (documentNumber x).value.KeysInOrder
    rcases documentNumber_cases x with ⟨-, hx⟩ | ⟨-, y, hx, -, -⟩
    · rw [hx]
      exact .null
    · rw [hx]
      exact .number
  | text s => exact .text
  | list items ih =>
    cases h with | list hbeneath =>
    rw [throughDocument_list]
    refine .list (List.forall_mem_map.mpr ?_)
    exact fun v hv => ih v hv (hbeneath v hv)
  | map entries ih =>
    cases h with | map hdistinct hbeneath =>
    rw [throughDocument_map]
    refine .map ?_ (List.forall_mem_map.mpr ?_)
    · rw [List.map_map]
      exact (pairwise_sortedByKey hdistinct).imp toUTF8_lt
    · intro e he
      rw [(perm_sortedByKey entries).mem_iff] at he
      exact ih e he (hbeneath e he)

theorem throughDocument_throughDocument (v : Value) :
    v.throughDocument.throughDocument = v.throughDocument := by
  induction v using Value.induction with
  | null => rfl
  | bool b => rfl
  | number x =>
    change (documentNumber x).value.throughDocument = (documentNumber x).value
    rcases documentNumber_cases x with ⟨-, hx⟩ | ⟨-, y, hx, -, hy⟩
    · rw [hx]
      rfl
    · rw [hx]
      change (documentNumber y).value = _
      rw [hy, hx]
  | text s => rfl
  | list items ih =>
    rw [throughDocument_list, throughDocument_list, List.map_map]
    exact congrArg list (List.map_congr_left ih)
  | map entries ih =>
    rw [throughDocument_map, throughDocument_map, sortedByKey_map, sortedByKey_sortedByKey,
      List.map_map]
    refine congrArg map (List.map_congr_left ?_)
    intro e he
    rw [(perm_sortedByKey entries).mem_iff] at he
    exact Prod.ext rfl (ih e he)

theorem beqItemsIn_map {shared : Value → Bool} {f g : Value → Value} {items : List Value}
    (h : ∀ v ∈ items, beqIn shared (f v) (g v) = true) :
    beqItemsIn shared (items.map f) (items.map g) = true := by
  induction items with
  | nil => rfl
  | cons v rest ih =>
    rw [List.forall_mem_cons] at h
    rw [List.map_cons, List.map_cons, beqItemsIn, h.1, ih h.2, Bool.and_self]

/-- Maps are equal in whatever order their keys are, when the values under each key are equal. -/
theorem beqIn_sortedByKey {shared : Value → Bool} {f g : Value → Value} {entries : Entries}
    (hdistinct : (entries.map Prod.fst).Nodup)
    (h : ∀ e ∈ entries, beqIn shared (f e.2) (g e.2) = true) :
    beqIn shared (map ((sortedByKey entries).map fun e => (e.1, f e.2)))
      (map (entries.map fun e => (e.1, g e.2))) = true := by
  rw [map_beqIn_iff, Bool.and_eq_true, beq_iff_eq]
  have hkeys : ((entries.map fun e => (e.1, g e.2)).map Prod.fst).Nodup := by
    rw [List.map_map]
    exact hdistinct
  refine .inr ⟨by simpa using (perm_sortedByKey entries).length_eq, subsumedIn_iff.mpr ?_⟩
  refine List.forall_mem_map.mpr ?_
  intro e he
  rw [(perm_sortedByKey entries).mem_iff] at he
  exact ⟨g e.2, get?_of_mem hkeys (List.mem_map_of_mem he), h e he⟩

theorem throughDocument_beqIn (shared : Value → Bool) {v : Value} (h : v.Keyed) :
    beqIn shared v.throughDocument v.finiteOrNull = true := by
  induction v using Value.induction with
  | null => rfl
  | bool b => exact beq_self_eq_true b
  | number x =>
    change beqIn shared (documentNumber x).value (if x.isFinite then number x else null) = true
    rcases documentNumber_cases x with ⟨hfinite, hx⟩ | ⟨hfinite, y, hx, hy, -⟩
    · rw [hfinite, hx]
      rfl
    · rw [hfinite, hx]
      exact hy
  | text s => exact beq_self_eq_true s
  | list items ih =>
    cases h with | list hbeneath =>
    rw [throughDocument_list, finiteOrNull_list]
    exact list_beqIn_iff.mpr (.inr (beqItemsIn_map fun v hv => ih v hv (hbeneath v hv)))
  | map entries ih =>
    cases h with | map hdistinct hbeneath =>
    rw [throughDocument_map, finiteOrNull_map]
    exact beqIn_sortedByKey hdistinct fun e he => ih e he (hbeneath e he)

/-- **A value goes through its document.**  What comes back is equal to the value with null in place
of every number that is not finite, so to the value itself when all its numbers are finite.  The
keys of its maps are in order, and it comes back once more as it is. -/
theorem document_preserves {v : Value} (h : v.Keyed) :
    (v.throughDocument == v.finiteOrNull) = true ∧
    ((∀ x ∈ v.numbers, x.isFinite = true) → (v.throughDocument == v) = true) ∧
    v.throughDocument.KeysInOrder ∧
    v.throughDocument.throughDocument = v.throughDocument := by
  refine ⟨throughDocument_beqIn _ h, ?_, keysInOrder_throughDocument h,
    throughDocument_throughDocument v⟩
  intro hfinite
  have hbeq := throughDocument_beqIn (fun _ => false) h
  rw [finiteOrNull_of_finite hfinite] at hbeq
  exact hbeq

/-- Keys out of order, a negative zero and the least number that is not written as an integer; then
with an infinity among them. -/
theorem document_preserves_reordered :
    let v : Value → Value := fun last => .map
      [("b", .list [.number (-0.0), .number 9007199254740992, last]), ("B", .number 0.5)]
    ((v (.text "c")).throughDocument == v (.text "c")) = true ∧
      ((v (.number (1 / 0))).throughDocument == v .null) = true ∧
      (v (.number (1 / 0))).throughDocument.KeysInOrder ∧
      (v (.number (1 / 0))).throughDocument.throughDocument
        = (v (.number (1 / 0))).throughDocument := by
  intro v
  have hkeyed (last : Value) (hlast : last.Keyed) : (v last).Keyed := by
    have hdistinct : ["b", "B"].Nodup := by decide
    exact .map hdistinct
      (forall_mem_two.mpr ⟨.list (forall_mem_three.mpr ⟨.number, .number, hlast⟩), .number⟩)
  have hfinite : ∀ x ∈ [(-0.0 : Float), 9007199254740992, 0.5], x.isFinite = true := by
    decide +kernel
  have hinfinite : (1 / 0 : Float).isFinite = false := by decide +kernel
  obtain ⟨hnull, -, hordered, hagain⟩ := document_preserves (hkeyed (.number (1 / 0)) .number)
  refine ⟨(document_preserves (hkeyed (.text "c") .text)).2.1 hfinite, ?_, hordered, hagain⟩
  have hv : (v (.number (1 / 0))).finiteOrNull = v .null := by
    obtain ⟨hzero, hthreshold, hhalf⟩ := forall_mem_three.mp hfinite
    simp only [v, finiteOrNull, entriesFiniteOrNull, itemsFiniteOrNull, hzero, hthreshold, hhalf,
      hinfinite, if_true, Bool.false_eq_true, if_false]
  rw [← hv]
  exact hnull

end Value

end StateExpr
