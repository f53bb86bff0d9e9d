import StateExpr.Value.Basic
/-!
# Values piece by piece

Induction over a value, the numbers in it, how deep its containers nest, and equality that also
compares the order of keys.

Main statements: `Value.induction` and `Value.beqIn_of_aligned`.
-/

namespace StateExpr

namespace Value

/-- Induction over a value: a container from what it holds. -/
@[elab_as_elim]
theorem induction {motive : Value → Prop} (null : motive .null) (bool : ∀ b, motive (.bool b))
    (number : ∀ x, motive (.number x)) (text : ∀ s, motive (.text s))
    (list : ∀ items, (∀ v ∈ items, motive v) → motive (.list items))
    (map : ∀ entries, (∀ e ∈ entries, motive e.2) → motive (.map entries)) (v : Value) : motive v :=
  @Value.rec motive (fun items => ∀ v ∈ items, motive v) (fun entries => ∀ e ∈ entries, motive e.2)
    (fun e => motive e.2) null bool number text list map (fun _ h => nomatch h)
    (fun _ _ hv hs _ h => (List.mem_cons.mp h).elim (fun eq => eq ▸ hv) (hs _))
    (fun _ h => nomatch h)
    (fun _ _ he hs _ h => (List.mem_cons.mp h).elim (fun eq => eq ▸ he) (hs _)) (fun _ _ h => h) v

mutual

/-- The numbers in a value, from left to right. -/
def numbers : Value → List Float
  | number x => [x]
  | list items => itemNumbers items
  | map entries => entryNumbers entries
  | _ => []

def itemNumbers : List Value → List Float
  | [] => []
  | v :: rest => numbers v ++ itemNumbers rest

def entryNumbers : List (String × Value) → List Float
  | [] => []
  | (_, v) :: rest => numbers v ++ entryNumbers rest

end

mutual

/-- How many containers stand inside each other. -/
def depth : Value → Nat
  | list items => itemsDepth items + 1
  | map entries => entriesDepth entries + 1
  | _ => 0

def itemsDepth : List Value → Nat
  | [] => 0
  | v :: rest => max (depth v) (itemsDepth rest)

def entriesDepth : List (String × Value) → Nat
  | [] => 0
  | (_, v) :: rest => max (depth v) (entriesDepth rest)

end

/-- No map holds a key twice. -/
inductive Keyed : Value → Prop where
  | null : Keyed null
  | bool {b : Bool} : Keyed (bool b)
  | number {x : Float} : Keyed (number x)
  | text {s : String} : Keyed (text s)
  | list {items : List Value} (beneath : ∀ v ∈ items, Keyed v) : Keyed (list items)
  | map {entries : Entries} (distinct : (entries.map Prod.fst).Nodup)
      (beneath : ∀ e ∈ entries, Keyed e.2) : Keyed (map entries)

mutual

/-- Equality of values whose maps have their keys in the same order. -/
def aligned : Value → Value → Bool
  | null, null => true
  | bool a, bool b => a == b
  | number a, number b => a == b
  | text a, text b => a == b
  | list a, list b => alignedItems a b
  | map a, map b => alignedEntries a b
  | _, _ => false

def alignedItems : List Value → List Value → Bool
  | [], [] => true
  | a :: as, b :: bs => aligned a b && alignedItems as bs
  | _, _ => false

def alignedEntries : List (String × Value) → List (String × Value) → Bool
  | [], [] => true
  | (k, a) :: as, (l, b) :: bs => k == l && aligned a b && alignedEntries as bs
  | _, _ => false

end

theorem mem_itemNumbers {x : Float} {items : List Value} :
    x ∈ itemNumbers items ↔ ∃ v ∈ items, x ∈ numbers v := by
  induction items with
  | nil => simp [itemNumbers]
  | cons v rest ih => simp [itemNumbers, ih]

theorem mem_entryNumbers {x : Float} {entries : Entries} :
    x ∈ entryNumbers entries ↔ ∃ e ∈ entries, x ∈ numbers e.2 := by
  induction entries with
  | nil => simp [entryNumbers]
  | cons e rest ih =>
    obtain ⟨k, v⟩ := e
    simp [entryNumbers, ih]

theorem itemsDepth_le_iff {n : Nat} {items : List Value} :
    itemsDepth items ≤ n ↔ ∀ v ∈ items, depth v ≤ n := by
  induction items with
  | nil => simp [itemsDepth]
  | cons v rest ih => rw [itemsDepth, Nat.max_le, ih, List.forall_mem_cons]

theorem entriesDepth_le_iff {n : Nat} {entries : Entries} :
    entriesDepth entries ≤ n ↔ ∀ e ∈ entries, depth e.2 ≤ n := by
  induction entries with
  | nil => simp [entriesDepth]
  | cons e rest ih =>
    obtain ⟨k, v⟩ := e
    rw [entriesDepth, Nat.max_le, ih, List.forall_mem_cons]

/-! ## Equality -/

theorem get?_of_mem {k : String} {v : Value} {entries : Entries}
    (hdistinct : (entries.map Prod.fst).Nodup) (h : (k, v) ∈ entries) :
    Entries.get? k entries = some v := by
  induction entries with
  | nil => cases h
  | cons e rest ih =>
    obtain ⟨l, u⟩ := e
    rw [List.map_cons, List.nodup_cons] at hdistinct
    rcases List.mem_cons.mp h with heq | hmem
    · cases heq
      simp [Entries.get?]
    · have hne : l ≠ k := by
        rintro rfl
        exact hdistinct.1 (List.mem_map.mpr ⟨(l, v), hmem, rfl⟩)
      simp [Entries.get?, hne, ih hdistinct.2 hmem]

variable {shared : Value → Bool}

theorem beqItemsIn_of_aligned {as bs : List Value} (h : alignedItems as bs = true)
    (hbeq : ∀ b ∈ bs, ∀ a, aligned a b = true → beqIn shared a b = true) :
    beqItemsIn shared as bs = true := by
  induction as generalizing bs with
  | nil =>
    cases bs with
    | nil => rfl
    | cons b bs => cases h
  | cons a as ih =>
    cases bs with
    | nil => cases h
    | cons b bs =>
      simp only [alignedItems, Bool.and_eq_true] at h
      simp only [beqItemsIn, Bool.and_eq_true]
      exact ⟨hbeq b List.mem_cons_self a h.1,
        ih h.2 fun c hc => hbeq c (List.mem_cons_of_mem b hc)⟩

theorem length_of_alignedEntries {as bs : Entries} (h : alignedEntries as bs = true) :
    as.length = bs.length := by
  induction as generalizing bs with
  | nil =>
    cases bs with
    | nil => rfl
    | cons b bs => cases h
  | cons a as ih =>
    cases bs with
    | nil => cases h
    | cons b bs =>
      simp only [alignedEntries, Bool.and_eq_true] at h
      rw [List.length_cons, List.length_cons, ih h.2]

/-- Entries in the order of a part of the others are found there. -/
theorem subsumedIn_of_aligned {as bs other : Entries} (h : alignedEntries as bs = true)
    (hpart : ∀ e ∈ bs, e ∈ other) (hdistinct : (other.map Prod.fst).Nodup)
    (hbeq : ∀ e ∈ bs, ∀ a, aligned a e.2 = true → beqIn shared a e.2 = true) :
    subsumedIn shared as other = true := by
  induction as generalizing bs with
  | nil => rfl
  | cons a as ih =>
    obtain ⟨k, v⟩ := a
    cases bs with
    | nil => cases h
    | cons b bs =>
      obtain ⟨l, u⟩ := b
      simp only [alignedEntries, Bool.and_eq_true, beq_iff_eq] at h
      obtain ⟨⟨rfl, hv⟩, hrest⟩ := h
      have hget := get?_of_mem hdistinct (hpart _ List.mem_cons_self)
      have hu := hbeq _ List.mem_cons_self v hv
      have htail := ih hrest (fun e he => hpart e (List.mem_cons_of_mem _ he))
        (fun e he => hbeq e (List.mem_cons_of_mem _ he))
      simp only [subsumedIn, hget, hu, htail, Bool.and_self]

/-- Values that agree piece by piece are equal. -/
theorem beqIn_of_aligned {v w : Value} (hv : v.Keyed) (h : w.aligned v = true) :
    w.beqIn shared v = true := by
  induction v using Value.induction generalizing w with
  | null => cases w <;> first | rfl | cases h
  | bool b => cases w <;> exact h
  | number x => cases w <;> exact h
  | text s => cases w <;> exact h
  | list items ih =>
    cases w with
    | list as =>
      cases hv with | list hbeneath =>
      rw [beqIn, Bool.or_eq_true]
      exact .inr (beqItemsIn_of_aligned h fun b hb a ha => ih b hb (hbeneath b hb) ha)
    | _ => cases h
  | map entries ih =>
    cases w with
    | map as =>
      cases hv with | map hdistinct hbeneath =>
      have hlength := length_of_alignedEntries h
      have hsubsumed := subsumedIn_of_aligned h (fun _ he => he) hdistinct
        fun e he a ha => ih e he (hbeneath e he) ha
      simp only [beqIn, hlength, hsubsumed, beq_self_eq_true, Bool.and_self, Bool.or_true]
    | _ => cases h

end Value

end StateExpr
