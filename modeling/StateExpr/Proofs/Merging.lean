import StateExpr.Proofs.Assignment
import StateExpr.Proofs.Calls
import StateExpr.Proofs.Equality
import StateExpr.Proofs.Json.Writer
/-!
# Merged maps

Entries that are set in turn have the keys of all pairs in the order in which they first come, each
with the value that was set last.  Where no key stands twice, the order of the keys and the value
under each of them are all there is to entries, so all ways of merging several maps step by step
come to the same.

Main statements: `Entries.keys_ofList`, `Entries.get?_ofList`, `Entries.eq_of_keys_of_get?` and
`Expr.merge_algebra`.
-/

namespace StateExpr

/-! ## First occurrences -/

section FirstOccurrences

variable {α : Type} [DecidableEq α]

theorem eraseDups_concat (as : List α) (a : α) :
    (as ++ [a]).eraseDups = if a ∈ as then as.eraseDups else as.eraseDups ++ [a] := by
  rw [List.eraseDups_append]
  split <;> rename_i h <;> simp [List.removeAll, h, List.eraseDups_cons]

theorem nodup_eraseDups (as : List α) : as.eraseDups.Nodup := by
  induction as using List.reverseRecOn with
  | nil => exact .nil
  | append_singleton as a ih =>
    rw [eraseDups_concat]
    split
    · exact ih
    · rename_i hnew
      rw [← List.concat_eq_append, List.nodup_concat, List.mem_eraseDups]
      exact ⟨hnew, ih⟩

theorem eraseDups_of_nodup {as : List α} (h : as.Nodup) : as.eraseDups = as := by
  induction as using List.reverseRecOn with
  | nil => rfl
  | append_singleton as a ih =>
    rw [← List.concat_eq_append, List.nodup_concat] at h
    rw [eraseDups_concat, if_neg h.1, ih h.2]

/-- Behind others, the first occurrences of a list count as the list. -/
theorem eraseDups_append_eraseDups (as bs : List α) :
    (as ++ bs.eraseDups).eraseDups = (as ++ bs).eraseDups := by
  induction bs using List.reverseRecOn with
  | nil => rfl
  | append_singleton bs b ih =>
    rw [eraseDups_concat, ← List.append_assoc, eraseDups_concat, ← ih]
    by_cases hb : b ∈ bs
    · rw [if_pos hb, if_pos (List.mem_append_right as hb)]
    · rw [if_neg hb, ← List.append_assoc, eraseDups_concat]
      simp only [List.mem_append, List.mem_eraseDups]

/-- A list that holds nothing new adds nothing. -/
theorem eraseDups_append_of_subset {as bs : List α} (h : bs ⊆ as) :
    (as ++ bs).eraseDups = as.eraseDups := by
  induction bs using List.reverseRecOn with
  | nil => rw [List.append_nil]
  | append_singleton bs b ih =>
    obtain ⟨hbs, hb⟩ := List.append_subset.mp h
    rw [← List.append_assoc, eraseDups_concat,
      if_pos (List.mem_append_left bs (hb List.mem_cons_self)), ih hbs]

end FirstOccurrences

/-! ## Entries that are set in turn -/

namespace Entries

variable {α : Type} {k : String} {es fs : List (String × α)}

theorem get?_append (k : String) (es fs : List (String × α)) :
    get? k (es ++ fs) = (get? k es).or (get? k fs) := by
  induction es with
  | nil => rfl
  | cons e rest ih =>
    obtain ⟨l, v⟩ := e
    rw [List.cons_append, get?, get?]
    split
    · rfl
    · exact ih

/-- A key that stands once is found from either end. -/
theorem get?_reverse (h : (es.map Prod.fst).Nodup) : get? k es.reverse = get? k es := by
  induction es with
  | nil => rfl
  | cons e rest ih =>
    obtain ⟨l, v⟩ := e
    rw [List.map_cons, List.nodup_cons] at h
    rw [List.reverse_cons, get?_append, ih h.2]
    by_cases hl : l = k
    · subst hl
      simp [get?, get?_eq_none_iff.mpr h.1]
    · simp [get?, hl]

/-- Read from the end, the last of the entries that has a key comes first. -/
theorem get?_reverse_flatten {maps : List (List (String × α))}
    (h : ∀ es ∈ maps, (es.map Prod.fst).Nodup) (k : String) :
    get? k maps.flatten.reverse = maps.reverse.findSome? (get? k) := by
  induction maps using List.reverseRecOn with
  | nil => rfl
  | append_singleton maps es ih =>
    obtain ⟨hmaps, hes⟩ := List.forall_mem_append.mp h
    rw [List.flatten_append, List.flatten_singleton, List.reverse_append, get?_append,
      get?_reverse (hes es List.mem_cons_self), ih hmaps, List.reverse_concat, List.findSome?_cons]
    cases get? k es <;> rfl

/-- **Where no key stands twice, keys in order and values make the entries.** -/
theorem eq_of_keys_of_get? (hkeys : es.map Prod.fst = fs.map Prod.fst)
    (hdistinct : (es.map Prod.fst).Nodup) (hget : ∀ k, get? k es = get? k fs) : es = fs := by
  induction es generalizing fs with
  | nil => exact (List.map_eq_nil_iff.mp hkeys.symm).symm
  | cons e rest ih =>
    obtain ⟨k, v⟩ := e
    cases fs with
    | nil => cases hkeys
    | cons f fs =>
      obtain ⟨l, w⟩ := f
      obtain ⟨rfl, hrest⟩ := List.cons.inj hkeys
      obtain ⟨hnew, hdistinct⟩ := List.nodup_cons.mp hdistinct
      have hfirst := hget k
      simp only [get?, if_true, Option.some.injEq] at hfirst
      subst hfirst
      refine congrArg _ (ih hrest hdistinct fun l => ?_)
      by_cases hl : k = l
      · subst hl
        rw [get?_eq_none_iff.mpr hnew, get?_eq_none_iff.mpr (hrest ▸ hnew)]
      · simpa only [get?, hl, if_false] using hget l

theorem keys_insert (k : String) (v : α) (es : List (String × α)) :
    (insert k v es).map Prod.fst =
      if k ∈ es.map Prod.fst then es.map Prod.fst else es.map Prod.fst ++ [k] := by
  induction es with
  | nil => rfl
  | cons e rest ih =>
    obtain ⟨l, u⟩ := e
    by_cases hl : l = k
    · simp [insert, hl]
    · by_cases hk : k ∈ rest.map Prod.fst
      · rw [if_pos hk] at ih
        simp [insert, hl, ih, hk]
      · rw [if_neg hk] at ih
        simp [insert, hl, Ne.symm hl, ih, hk]

theorem ofList_concat (pairs : List (String × α)) (p : String × α) :
    ofList (pairs ++ [p]) = insert p.1 p.2 (ofList pairs) :=
  List.foldl_concat ..

/-- **Keys come in the order in which they are first set.** -/
theorem keys_ofList (pairs : List (String × α)) :
    (ofList pairs).map Prod.fst = (pairs.map Prod.fst).eraseDups := by
  induction pairs using List.reverseRecOn with
  | nil => rfl
  | append_singleton pairs p ih =>
    rw [ofList_concat, keys_insert, ih, List.map_append, List.map_singleton, eraseDups_concat]
    simp only [List.mem_eraseDups]

/-- **The value that is set last stays.** -/
theorem get?_ofList (k : String) (pairs : List (String × α)) :
    get? k (ofList pairs) = get? k pairs.reverse := by
  induction pairs using List.reverseRecOn with
  | nil => rfl
  | append_singleton pairs p ih =>
    rw [ofList_concat, List.reverse_concat, get?]
    by_cases hp : p.1 = k
    · subst hp
      rw [get?_insert_self, if_pos rfl]
    · rw [get?_insert_of_ne (Ne.symm hp), if_neg hp, ih]

theorem nodup_keys_ofList (pairs : List (String × α)) : ((ofList pairs).map Prod.fst).Nodup := by
  rw [keys_ofList]
  exact nodup_eraseDups _

/-- Pairs that are set behind others may be set among themselves before. -/
theorem ofList_append_ofList (pairs others : List (String × α)) :
    ofList (pairs ++ ofList others) = ofList (pairs ++ others) := by
  refine eq_of_keys_of_get? ?_ (nodup_keys_ofList _) fun k => ?_
  · rw [keys_ofList, keys_ofList, List.map_append, List.map_append, keys_ofList,
      eraseDups_append_eraseDups]
  · rw [get?_ofList, get?_ofList, List.reverse_append, List.reverse_append, get?_append,
      get?_append, get?_reverse (nodup_keys_ofList others), get?_ofList]

/-- So may those in front. -/
theorem ofList_ofList_append (pairs others : List (String × α)) :
    ofList (ofList pairs ++ others) = ofList (pairs ++ others) := by
  have hagain : ofList (ofList pairs) = ofList pairs :=
    Json.ofList_of_nodup (nodup_keys_ofList pairs)
  unfold ofList at *
  rw [List.foldl_append, List.foldl_append, hagain]

/-- Setting entries once more changes nothing. -/
theorem ofList_append_self (h : (es.map Prod.fst).Nodup) : ofList (es ++ es) = es := by
  refine eq_of_keys_of_get? ?_ (nodup_keys_ofList _) fun k => ?_
  · rw [keys_ofList, List.map_append, eraseDups_append_of_subset (List.Subset.refl _),
      eraseDups_of_nodup h]
  · rw [get?_ofList, List.reverse_append, get?_append, get?_reverse h]
    cases get? k es <;> rfl

end Entries

namespace Expr

variable {ambient : Ambient} {vs : List Value}

/-! ## Merging -/

theorem checked_object_iff {position : ℕ} :
    Checked (some .object) position vs ↔ ∃ maps : List Entries, vs = maps.map .map := by
  induction vs generalizing position with
  | nil => exact iff_of_true trivial ⟨[], rfl⟩
  | cons v vs ih =>
    have hfits : (∃ e, Check.object.fault? v e position = none) ↔ ∃ es, v = .map es := by
      have hsome : Nonempty Expr := ⟨constant .null⟩
      cases v <;> simp [Check.fault?, Check.expect, Value.isMap]
    change (∃ e, Check.object.fault? v e position = none) ∧ Checked (some .object) _ vs ↔ _
    rw [hfits, ih]
    constructor
    · rintro ⟨⟨es, rfl⟩, maps, rfl⟩
      exact ⟨es :: maps, rfl⟩
    · rintro ⟨maps, h⟩
      obtain ⟨es, maps, rfl, rfl, rfl⟩ := List.map_eq_cons_iff.mp h.symm
      exact ⟨⟨es, rfl⟩, maps, rfl⟩

/-- All maps together, each entry set in turn. -/
theorem returns_merge (maps : List Entries) :
    Returns ambient .merge (maps.map .map) (.map (Entries.ofList maps.flatten)) := by
  refine returns_of_apply rfl rfl (checked_object_iff.mpr ⟨maps, rfl⟩) ?_
  rw [Object.merge, List.flatMap_map]
  exact congrArg (fun pairs => Value.map (Entries.ofList pairs)) List.flatMap_id

/-- **A merge among the operands of a merge** gives what its operands in its place give. -/
theorem evaluate_merge_within {xs ys zs : List Expr} {as bs cs : List Entries} {s t u s' : Value}
    (hxs : Operands xs s (as.map .map) t) (hys : Operands ys t (bs.map .map) u)
    (hzs : Operands zs u (cs.map .map) s') :
    (operation ambient .merge (xs ++ operation ambient .merge ys :: zs)).evaluate.outcome s =
      (.ok (.map (Entries.ofList (as ++ bs ++ cs).flatten)), s') := by
  have hinner : (operation ambient .merge ys).evaluate.outcome t = _ :=
    returns_merge bs ys t u hys
  have houter : Operands (xs ++ operation ambient .merge ys :: zs) s
      ((as ++ Entries.ofList bs.flatten :: cs).map .map) s' := by
    rw [List.map_append, List.map_cons]
    exact hxs.append (.cons hinner hzs)
  have hsame : Entries.ofList (as ++ Entries.ofList bs.flatten :: cs).flatten =
      Entries.ofList (as ++ bs ++ cs).flatten := by
    simp only [List.flatten_append, List.flatten_cons]
    rw [← List.append_assoc, ← Entries.ofList_ofList_append, Entries.ofList_append_ofList,
      Entries.ofList_ofList_append]
  rw [returns_merge _ _ _ _ houter, hsame]

/-- **Merging maps.**  Maps are all that can be merged.  The keys of the merged map are those of all
maps, each once, in the order in which they first come, and each holds its value in the last of the
maps that has it.  Merging is associative, a map merged with itself stays as it is, and all of this
includes the order of the keys. -/
theorem merge_algebra (ambient : Ambient) :
    (∀ vs r, Returns ambient .merge vs r → ∃ maps : List Entries, vs = maps.map .map) ∧
    (∀ maps : List Entries, (∀ es ∈ maps, (es.map Prod.fst).Nodup) → ∃ r : Entries,
      Returns ambient .merge (maps.map .map) (.map r) ∧
      r.map Prod.fst = (maps.flatten.map Prod.fst).eraseDups ∧ (r.map Prod.fst).Nodup ∧
      (∀ k, k ∈ r.map Prod.fst ↔ ∃ es ∈ maps, k ∈ es.map Prod.fst) ∧
      ∀ k, Entries.get? k r = maps.reverse.findSome? (Entries.get? k)) ∧
    (∀ a b c : Entries, ∃ r : Entries,
      Returns ambient .merge [.map a, .map b, .map c] (.map r) ∧
      ∀ x y z s s', Operands [x, y, z] s [.map a, .map b, .map c] s' →
        (operation ambient .merge [operation ambient .merge [x, y], z]).evaluate.outcome s =
          (.ok (.map r), s') ∧
        (operation ambient .merge [x, operation ambient .merge [y, z]]).evaluate.outcome s =
          (.ok (.map r), s')) ∧
    ∀ a : Entries, (a.map Prod.fst).Nodup → Returns ambient .merge [.map a, .map a] (.map a) := by
  refine ⟨fun vs r h => ?_, fun maps h => ?_, fun a b c => ?_, fun a h => ?_⟩
  · exact checked_object_iff.mp ((returns_iff_of_apply rfl rfl).mp h).1
  · refine ⟨_, returns_merge maps, Entries.keys_ofList _, Entries.nodup_keys_ofList _, ?_, ?_⟩
    · intro k
      rw [Entries.keys_ofList, List.mem_eraseDups]
      simp only [List.mem_map, List.mem_flatten]
      constructor
      · rintro ⟨e, ⟨es, hes, he⟩, rfl⟩
        exact ⟨es, hes, e, he, rfl⟩
      · rintro ⟨es, hes, e, he, rfl⟩
        exact ⟨e, ⟨es, hes, he⟩, rfl⟩
    · intro k
      rw [Entries.get?_ofList, Entries.get?_reverse_flatten h]
  · refine ⟨_, returns_merge [a, b, c], fun x y z s s' h => ?_⟩
    obtain ⟨t, hx, h⟩ := h.uncons
    obtain ⟨u, hy, hz⟩ := h.uncons
    have hx' : Operands [x] s ([a].map .map) t := .cons hx .nil
    have hxy : Operands [x, y] s ([a, b].map .map) u := .cons hx (.cons hy .nil)
    have hyz : Operands [y, z] t ([b, c].map .map) s' := .cons hy hz
    have hz' : Operands [z] u ([c].map .map) s' := hz
    have hnone (s : Value) : Operands [] s (([] : List Entries).map .map) s := .nil
    exact ⟨evaluate_merge_within (hnone s) hxy hz', evaluate_merge_within hx' hyz (hnone s')⟩
  · have hmerged : Returns ambient .merge [.map a, .map a] _ := returns_merge [a, a]
    rwa [List.flatten_cons, List.flatten_singleton, Entries.ofList_append_self h] at hmerged

/-- A key of the first map that the other two set again, in other orders, keeps its place and has
the value of the last. -/
theorem merge_algebra_collisions :
    let ambient : Ambient := .still
    let a : Entries := [("x", .number 1), ("y", .number 1)]
    let b : Entries := [("z", .number 2), ("x", .number 2)]
    let c : Entries := [("y", .number 3), ("x", .null)]
    (∃ r : Entries, Returns ambient .merge [.map a, .map b, .map c] (.map r) ∧
      r.map Prod.fst = ["x", "y", "z"] ∧ Entries.get? "x" r = some .null) ∧
    (∃ r : Entries, ∀ s,
      (operation ambient .merge [operation ambient .merge [constant (.map a), constant (.map b)],
        constant (.map c)]).evaluate.outcome s = (.ok (.map r), s) ∧
      (operation ambient .merge [constant (.map a), operation ambient .merge [constant (.map b),
        constant (.map c)]]).evaluate.outcome s = (.ok (.map r), s)) ∧
    Returns ambient .merge [.map a, .map a] (.map a) := by
  intro ambient a b c
  obtain ⟨-, hmaps, hgroups, hself⟩ := merge_algebra ambient
  have hdistinct : ∀ es ∈ [a, b, c], (es.map Prod.fst).Nodup := by
    simp [a, b, c]
  refine ⟨?_, ?_, hself a (hdistinct a List.mem_cons_self)⟩
  · obtain ⟨r, hr, hkeys, -, -, hvalues⟩ := hmaps [a, b, c] hdistinct
    exact ⟨r, hr, hkeys, hvalues "x"⟩
  · obtain ⟨r, -, hr⟩ := hgroups a b c
    exact ⟨r, fun s => hr _ _ _ s s (.constant [.map a, .map b, .map c] s)⟩

end Expr

end StateExpr
