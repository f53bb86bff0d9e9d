import StateExpr.Proofs.Calls
/-!
# Splitting, joining and replacing

The pieces of a text between occurrences of a separator, with the separator between them again, are
the text.  A replacement finds the same occurrences, so that it is the pieces with another text
between them.

Main statements: `Search.intercalate_split`, `Search.not_infix_of_mem_split`,
`Search.replace_eq_intercalate` and `Expr.split_join_replace`.
-/

namespace StateExpr

namespace Search

variable {separator text piece : List Char}

@[simp] theorem intercalate_consFirst (between : List Char) (c : Char) (ps : List (List Char)) :
    between.intercalate (consFirst c ps) = c :: between.intercalate ps := by
  cases ps with
  | nil => simp [consFirst]
  | cons p rest => cases rest <;> simp [consFirst]

theorem pieces_ne_nil (separator : List Char) (skip : ℕ) (text : List Char) :
    pieces separator skip text ≠ [] := by
  fun_induction pieces separator skip text with
  | case1 => simp
  | case2 => simp
  | case3 c rest h ih => cases hp : pieces separator 0 rest <;> simp [consFirst]
  | case4 skip c rest ih => exact ih

/-- The pieces with the separator between them are the text, but for what is skipped. -/
theorem intercalate_pieces (hseparator : separator ≠ []) (skip : ℕ) (text : List Char) :
    separator.intercalate (pieces separator skip text) = text.drop skip := by
  fun_induction pieces separator skip text with
  | case1 skip => simp
  | case2 c rest h ih =>
    rw [List.intercalate_cons_of_ne_nil (pieces_ne_nil _ _ _), ih]
    obtain ⟨behind, hbehind⟩ := List.isPrefixOf_iff_prefix.mp h
    cases separator with
    | nil => exact absurd rfl hseparator
    | cons d tail =>
      obtain ⟨rfl, rfl⟩ := List.cons.inj hbehind
      simp
  | case3 c rest h ih => simp [ih]
  | case4 skip c rest ih => exact ih

/-- What is replaced is what stands between the pieces. -/
theorem replaced_eq_intercalate (needle between : List Char) (skip : ℕ) (text : List Char) :
    replaced needle between skip text = between.intercalate (pieces needle skip text) := by
  fun_induction pieces needle skip text with
  | case1 skip => simp [replaced]
  | case2 c rest h ih =>
    rw [List.intercalate_cons_of_ne_nil (pieces_ne_nil _ _ _), replaced, if_pos h, ih]
    simp
  | case3 c rest h ih =>
    rw [intercalate_consFirst, replaced, if_neg h, ih]
  | case4 skip c rest ih => exact ih

theorem prefix_intercalate (between p : List Char) (ps : List (List Char)) :
    p <+: between.intercalate (p :: ps) := by
  cases ps <;> simp [List.append_assoc]

theorem not_infix_of_mem_pieces (hseparator : separator ≠ []) {skip : ℕ}
    (h : piece ∈ pieces separator skip text) : ¬ separator <:+: piece := by
  fun_induction pieces separator skip text generalizing piece with
  | case1 skip =>
    rw [List.mem_singleton] at h
    subst h
    simpa using hseparator
  | case2 c rest hprefix ih =>
    rcases List.mem_cons.mp h with rfl | hrest
    · simpa using hseparator
    · exact ih hrest
  | case3 c rest hprefix ih =>
    cases hp : pieces separator 0 rest with
    | nil => exact absurd hp (pieces_ne_nil _ _ _)
    | cons p ps =>
      rw [hp, consFirst] at h
      rw [hp] at ih
      rcases List.mem_cons.mp h with rfl | hrest
      · -- the character in front of a piece is the start of no occurrence
        have hpiece : p <+: rest := by
          have hjoined := intercalate_pieces hseparator 0 rest
          rw [hp, List.drop_zero] at hjoined
          rw [← hjoined]
          exact prefix_intercalate separator p ps
        intro hinfix
        rcases List.infix_cons_iff.mp hinfix with hstart | hin
        · have hwhole := hstart.trans ((List.prefix_cons_inj c).mpr hpiece)
          exact hprefix (List.isPrefixOf_iff_prefix.mpr hwhole)
        · exact ih List.mem_cons_self hin
      · exact ih (List.mem_cons_of_mem p hrest)
  | case4 skip c rest ih => exact ih h

/-! ## Whole texts -/

/-- **The pieces of a text make it up again.** -/
theorem intercalate_split (separator text : List Char) :
    separator.intercalate (split separator text) = text := by
  by_cases h : separator = []
  · subst h
    simp only [split, List.isEmpty_nil, if_true]
    induction text with
    | nil => rfl
    | cons c rest ih => cases rest <;> simp_all
  · rw [split, if_neg (by simpa using h), intercalate_pieces h, List.drop_zero]

/-- **No piece holds the separator.** -/
theorem not_infix_of_mem_split (hseparator : separator ≠ []) (h : piece ∈ split separator text) :
    ¬ separator <:+: piece := by
  rw [split, if_neg (by simpa using hseparator)] at h
  exact not_infix_of_mem_pieces hseparator h

/-- **A replacement stands between the pieces.** -/
theorem replace_eq_intercalate {needle : List Char} (hneedle : needle ≠ [])
    (between text : List Char) :
    replace needle between text = between.intercalate (split needle text) := by
  rw [split, if_neg (by simpa using hneedle), replace, replaced_eq_intercalate]

/-- The first split is at the first separator. -/
theorem splitFirst?_append {c : Char} {cs : List Char} (h : c ∉ cs) (rest : List Char) :
    splitFirst? c (cs ++ c :: rest) = some (cs, rest) := by
  have hother : ∀ d ∈ cs, (d != c) = true := by
    intro d hd
    rw [bne_iff_ne]
    rintro rfl
    exact h hd
  rw [splitFirst?, List.dropWhile_append_of_pos hother, List.takeWhile_append_of_pos hother]
  simp

end Search

/-! ## Texts with separators between them -/

namespace Expr

theorem joined_concat {texts : List String} (h : texts ≠ []) (separator last t : String) :
    joined separator (some last) (texts ++ [t]) = separator.intercalate texts ++ last ++ t := by
  unfold joined
  dsimp only
  by_cases hshort : (texts ++ [t]).length < 3
  · obtain ⟨u, rfl⟩ : ∃ u, texts = [u] := by
      rw [← List.length_eq_one_iff]
      have := List.length_pos_iff.mpr h
      rw [List.length_append, List.length_singleton] at hshort
      omega
    rw [if_pos hshort]
    simp
  · rw [if_neg hshort]
    simp

/-- The same separator everywhere needs none of its own at the end. -/
theorem joined_same (separator : String) (texts : List String) :
    joined separator (some separator) texts = separator.intercalate texts := by
  rcases List.eq_nil_or_concat texts with rfl | ⟨front, t, rfl⟩
  · rfl
  · by_cases h : front = []
    · subst h
      rfl
    · rw [List.concat_eq_append, joined_concat h,
        String.intercalate_append_of_ne_nil h (List.cons_ne_nil t []), String.intercalate_singleton]

/-! ## Operators -/

variable {ambient : Ambient}

theorem separatorFault?_texts {σ : Type} (position : ℕ) (ms : List (Meaning σ)) (ts : List String) :
    separatorFault? position ms (ts.map .text) = none := by
  induction ts generalizing position ms with
  | nil => cases ms <;> rfl
  | cons t ts ih =>
    cases ms with
    | nil => rfl
    | cons m ms => exact ih (position + 1) ms

theorem returns_split (s separator : String) : Returns ambient .split [.text s, .text separator]
    (.list (((Search.split separator.toList s.toList).map String.ofList).map .text)) := by
  apply returns_of_apply rfl rfl (checked_texts (fun _ _ _ => rfl) 0 [s, separator])
  rw [List.map_map]
  rfl

theorem returns_replace {needle : String} (h : needle ≠ "") (s between : String) :
    Returns ambient .replace [.text s, .text needle, .text between]
      (.text (String.ofList (Search.replace needle.toList between.toList s.toList))) := by
  have hchecked : Checked (some .stringOrNull) 0 [.text s, .text needle, .text between] :=
    checked_texts (fun _ _ _ => rfl) 0 [s, needle, between]
  apply (callGives_of_applyWithError rfl rfl hchecked).returns
  have hneedle : needle.toList.isEmpty = false := by simpa using h
  change (if needle.toList.isEmpty then _ else _) = _
  rw [hneedle]
  rfl

/-- The texts of the items of a list are joined by one separator or two. -/
theorem returns_join (l : List Value) (ts : List String) :
    Returns ambient .join (.list l :: ts.map .text)
      (.text (joined (ts.getD 0 "") ts[1]? (l.map Value.plainText))) := by
  apply returns_of_special rfl rfl
  intro e ms s s' h
  change runJoin e ms s = _
  unfold runJoin
  rw [Action.bind_of_ok h]
  have hfault : separatorFault? 1 (ms.drop 1) ((.list l :: ts.map .text).drop 1) = none :=
    separatorFault?_texts 1 (ms.drop 1) ts
  simp only [List.getD_cons_zero, hfault]
  match ts with
  | [] => rfl
  | [_] => rfl
  | _ :: _ :: _ => rfl

theorem returns_join_one (l : List Value) (separator : String) :
    Returns ambient .join [.list l, .text separator]
      (.text (separator.intercalate (l.map Value.plainText))) :=
  returns_join l [separator]

theorem returns_join_two (l : List Value) (separator last : String) :
    Returns ambient .join [.list l, .text separator, .text last]
      (.text (joined separator (some last) (l.map Value.plainText))) :=
  returns_join l [separator, last]

theorem returns_join_texts (ts : List String) (separator : String) :
    Returns ambient .join [.list (ts.map .text), .text separator]
      (.text (separator.intercalate ts)) := by
  have hjoin : Returns ambient .join [.list (ts.map .text), .text separator] _ :=
    returns_join_one _ separator
  have htexts : (ts.map Value.text).map Value.plainText = ts := by
    rw [List.map_map]
    exact List.map_id ts
  rw [htexts] at hjoin
  exact hjoin

theorem intercalate_ofList (separator : String) (ps : List (List Char)) :
    separator.intercalate (ps.map String.ofList) =
      String.ofList (separator.toList.intercalate ps) := by
  apply String.toList_inj.mp
  simp [Function.comp_def]

/-- **Splitting, joining and replacing agree.**  Joining the parts of a text with their separator
gives the text; the parts are its characters when the separator is empty, and none of them holds
the separator when it is not.  Joined with another text they are the replacement of the separator by
it.  A separator of its own for the last pair stands in front of the last item, and makes no
difference when it is the same. -/
theorem split_join_replace (ambient : Ambient) :
    (∀ s separator : String, ∃ parts : List String,
      Returns ambient .split [.text s, .text separator] (.list (parts.map .text)) ∧
      Returns ambient .join [.list (parts.map .text), .text separator] (.text s) ∧
      (separator = "" → parts = s.toList.map fun c => String.ofList [c]) ∧
      (separator ≠ "" → (∀ part ∈ parts, ¬ separator.toList <:+: part.toList) ∧
        ∀ between : String, ∃ r,
          Returns ambient .replace [.text s, .text separator, .text between] r ∧
          Returns ambient .join [.list (parts.map .text), .text between] r)) ∧
    ∀ (l : List Value) (separator last : String),
      Returns ambient .join [.list l, .text separator]
        (.text (separator.intercalate (l.map Value.plainText))) ∧
      (∀ front item, l = front ++ [item] → front ≠ [] →
        Returns ambient .join [.list l, .text separator, .text last]
          (.text (separator.intercalate (front.map Value.plainText) ++ last ++ item.plainText))) ∧
      Returns ambient .join [.list l, .text separator, .text separator]
        (.text (separator.intercalate (l.map Value.plainText))) := by
  constructor
  · intro s separator
    refine ⟨_, returns_split s separator, ?_, ?_, ?_⟩
    · have hjoin : Returns ambient .join _ _ := returns_join_texts
        ((Search.split separator.toList s.toList).map String.ofList) separator
      rw [intercalate_ofList, Search.intercalate_split, String.ofList_toList] at hjoin
      exact hjoin
    · rintro rfl
      simp [Search.split]
    · intro h
      have hseparator : separator.toList ≠ [] := by simpa using h
      constructor
      · intro part hpart
        obtain ⟨piece, hpiece, rfl⟩ := List.mem_map.mp hpart
        rw [String.toList_ofList]
        exact Search.not_infix_of_mem_split hseparator hpiece
      · intro between
        refine ⟨_, returns_replace h s between, ?_⟩
        rw [Search.replace_eq_intercalate hseparator, ← intercalate_ofList]
        exact returns_join_texts _ between
  · intro l separator last
    refine ⟨returns_join_one l separator, ?_, ?_⟩
    · rintro front item rfl hfront
      have hjoin : Returns ambient .join [.list (front ++ [item]), _, _] _ :=
        returns_join_two (front ++ [item]) separator last
      rw [List.map_append, List.map_singleton,
        joined_concat (by simpa using hfront)] at hjoin
      exact hjoin
    · have hjoin : Returns ambient .join [.list l, _, _] _ := returns_join_two l separator separator
      rw [joined_same] at hjoin
      exact hjoin

/-- A separator that overlaps itself, at both ends of a text, and a list of three items. -/
theorem split_join_replace_overlapping :
    let ambient : Ambient := .still
    (∃ parts : List String,
      Returns ambient .split [.text "aaxaaa", .text "aa"] (.list (parts.map .text)) ∧
      Returns ambient .join [.list (parts.map .text), .text "aa"] (.text "aaxaaa") ∧
      (∀ part ∈ parts, ¬ "aa".toList <:+: part.toList) ∧
      ∃ r, Returns ambient .replace [.text "aaxaaa", .text "aa", .text "ö"] r ∧
        Returns ambient .join [.list (parts.map .text), .text "ö"] r) ∧
    (∃ parts : List String,
      Returns ambient .split [.text "öx", .text ""] (.list (parts.map .text)) ∧
      parts = ["ö", "x"]) ∧
    Returns ambient .join [.list [.text "a", .null, .text "c"], .text ", ", .text " and "]
      (.text "a,  and c") := by
  intro ambient
  obtain ⟨hsplit, hjoin⟩ := split_join_replace ambient
  refine ⟨?_, ?_, ?_⟩
  · obtain ⟨parts, hparts, hagain, -, hnonempty⟩ := hsplit "aaxaaa" "aa"
    obtain ⟨hfree, hreplace⟩ := hnonempty (by decide)
    exact ⟨parts, hparts, hagain, hfree, hreplace "ö"⟩
  · obtain ⟨parts, hparts, -, hempty, -⟩ := hsplit "öx" ""
    exact ⟨parts, hparts, hempty rfl⟩
  · obtain ⟨-, hlast, -⟩ := hjoin [.text "a", .null, .text "c"] ", " " and "
    exact hlast [.text "a", .null] (.text "c") rfl nofun

end Expr

end StateExpr
