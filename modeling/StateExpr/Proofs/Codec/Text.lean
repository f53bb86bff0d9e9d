import StateExpr.Codec.Text
import StateExpr.Proofs.Number.Digits
import StateExpr.Proofs.Pieces
/-!
# Codecs undone

Each encoder of texts writes the bytes of a text in graphic characters, and its decoder gives back
these bytes: base64 regroups three bytes into four digits and back, and a percent escape is the byte
whose two digits it has.  Graphic characters have no white space among them that trimming could take
away, and the comma that ends the head of a data address is its first one.

Main statements: `Base64.decodeBytes?_encodeBytes`, `Percent.decodeBytes_encode` and
`Expr.codecs_invert`.
-/

namespace StateExpr

/-! ## Bytes of texts -/

theorem toList_loop_eq (bytes : ByteArray) (i : ℕ) (r : List UInt8) :
    ByteArray.toList.loop bytes i r = r.reverse ++ bytes.data.toList.drop i := by
  fun_induction ByteArray.toList.loop bytes i r with
  | case1 i r h ih =>
    have hi : i < bytes.data.toList.length := h
    have hget : bytes.get! i = bytes.data.toList[i] := getElem!_pos bytes.data i h
    rw [ih, hget, List.drop_eq_getElem_cons hi, List.reverse_cons, List.append_assoc,
      List.singleton_append]
  | case2 i r h =>
    have hi : bytes.data.toList.length ≤ i := Nat.not_lt.mp h
    rw [List.drop_eq_nil_of_le hi, List.append_nil]

theorem toList_eq_data (bytes : ByteArray) : bytes.toList = bytes.data.toList :=
  toList_loop_eq bytes 0 []

/-- **The bytes of a text are those of no other.** -/
theorem Codec.textOfBytes?_toUTF8 (s : String) : textOfBytes? s.toUTF8.toList = some s := by
  rw [textOfBytes?, toList_eq_data]
  exact dif_pos s.isValidUTF8

/-- The byte of a character of the first 128. -/
def asciiByte (c : Char) : UInt8 := UInt8.ofNat c.toNat

theorem toUTF8_of_graphic {cs : List Char} (h : ∀ c ∈ cs, Graphic c) :
    (String.ofList cs).toUTF8.toList = cs.map asciiByte := by
  have hsingle : ∀ c ∈ cs, String.utf8EncodeChar c = [asciiByte c] :=
    fun c hc => if_pos (Nat.le_of_lt_succ (h c hc).2)
  rw [toList_eq_data]
  change (String.ofList cs).toByteArray.data.toList = _
  rw [String.toByteArray_ofList, List.utf8Encode, List.toList_data_toByteArray,
    List.flatMap_congr hsingle, ← List.map_eq_flatMap]

/-! ## Base64 -/

namespace Base64

/-- The digits are read as what they are written for, are graphic, and are no padding. -/
theorem digit_spec : ∀ n < 64, digitValue? (digit n) = some n ∧ Graphic (digit n) ∧
    digit n ≠ '=' := by
  decide +kernel

theorem digitValue?_digit {n : ℕ} (h : n < 64) : digitValue? (digit n) = some n :=
  (digit_spec n h).1

theorem graphic_digit {n : ℕ} (h : n < 64) : Graphic (digit n) := (digit_spec n h).2.1

theorem digit_ne_padding {n : ℕ} (h : n < 64) : digit n ≠ '=' := (digit_spec n h).2.2

/-- **Base64 is undone**, whatever the bytes and however many. -/
theorem decodeBytes?_encodeBytes (bytes : List UInt8) :
    decodeBytes? (encodeBytes bytes) = some bytes := by
  fun_induction encodeBytes bytes with
  | case1 => rfl
  | case2 a n =>
    have ha : a.toNat < 256 := a.toNat_lt
    rw [decodeBytes?, digitValue?_digit (by omega), digitValue?_digit (by omega)]
    simp only [Option.bind_eq_bind, Option.bind_some]
    have hn : n / 64 * 64 + n % 64 = a.toNat * 16 := by omega
    rw [hn, if_pos (by omega), Nat.mul_div_cancel _ (by decide), UInt8.ofNat_toNat]
  | case3 a b n =>
    have ha : a.toNat < 256 := a.toNat_lt
    have hb : b.toNat < 256 := b.toNat_lt
    have hpadding : digit (n % 64) ≠ '=' := digit_ne_padding (by omega)
    rw [decodeBytes?.eq_3 _ _ _ hpadding, digitValue?_digit (by omega),
      digitValue?_digit (by omega), digitValue?_digit (by omega)]
    simp only [Option.bind_eq_bind, Option.bind_some]
    have hn : (n / 4096 * 64 + n / 64 % 64) * 64 + n % 64 = n := by omega
    have hfirst : n / 1024 = a.toNat := by omega
    have hsecond : n / 4 % 256 = b.toNat := by omega
    rw [hn, if_pos (by omega), hfirst, hsecond, UInt8.ofNat_toNat, UInt8.ofNat_toNat]
  | case4 a b c rest n ih =>
    have ha : a.toNat < 256 := a.toNat_lt
    have hb : b.toNat < 256 := b.toNat_lt
    have hc : c.toNat < 256 := c.toNat_lt
    have hpadding : digit (n % 64) ≠ '=' := digit_ne_padding (by omega)
    rw [decodeBytes?.eq_4 _ _ _ _ _ (fun _ h => absurd h hpadding) (fun h => absurd h hpadding),
      digitValue?_digit (by omega), digitValue?_digit (by omega), digitValue?_digit (by omega),
      digitValue?_digit (by omega), ih]
    simp only [Option.bind_eq_bind, Option.bind_some]
    have hn : ((n / 262144 * 64 + n / 4096 % 64) * 64 + n / 64 % 64) * 64 + n % 64 = n := by omega
    have hfirst : n / 65536 = a.toNat := by omega
    have hsecond : n / 256 % 256 = b.toNat := by omega
    have hthird : n % 256 = c.toNat := by omega
    rw [hn, hfirst, hsecond, hthird, UInt8.ofNat_toNat, UInt8.ofNat_toNat, UInt8.ofNat_toNat]

theorem graphic_encodeBytes (bytes : List UInt8) : ∀ c ∈ encodeBytes bytes, Graphic c := by
  have hpadding : Graphic '=' := by decide
  fun_induction encodeBytes bytes with
  | case1 => exact nofun
  | case2 a n =>
    have ha : a.toNat < 256 := a.toNat_lt
    simp only [List.forall_mem_cons]
    exact ⟨graphic_digit (by omega), graphic_digit (by omega), hpadding, hpadding, nofun⟩
  | case3 a b n =>
    have ha : a.toNat < 256 := a.toNat_lt
    have hb : b.toNat < 256 := b.toNat_lt
    simp only [List.forall_mem_cons]
    exact ⟨graphic_digit (by omega), graphic_digit (by omega), graphic_digit (by omega), hpadding,
      nofun⟩
  | case4 a b c rest n ih =>
    have ha : a.toNat < 256 := a.toNat_lt
    have hb : b.toNat < 256 := b.toNat_lt
    have hc : c.toNat < 256 := c.toNat_lt
    simp only [List.forall_mem_cons]
    exact ⟨graphic_digit (by omega), graphic_digit (by omega), graphic_digit (by omega),
      graphic_digit (by omega), ih⟩

end Base64

/-! ## Percent escapes -/

namespace Percent

theorem hexDigit_spec : ∀ n < 16, hexValue? (asciiByte (hexDigit n)) = some n ∧
    Graphic (hexDigit n) := by
  decide +kernel

/-- Bytes that stand for themselves are graphic characters and no percent sign. -/
theorem isUnreserved_spec : ∀ n < 256, isUnreserved (UInt8.ofNat n) = true →
    Graphic (Char.ofNat n) ∧ n ≠ 37 ∧ asciiByte (Char.ofNat n) = UInt8.ofNat n := by
  decide +kernel

/-- What is written for a byte. -/
def written (b : UInt8) : List Char :=
  if isUnreserved b then [Char.ofNat b.toNat] else escape b

theorem encode_eq (s : String) : encode s = String.ofList (s.toUTF8.toList.flatMap written) := rfl

theorem graphic_written (b : UInt8) : ∀ c ∈ written b, Graphic c := by
  have hb : b.toNat < 256 := b.toNat_lt
  unfold written
  split
  · rename_i h
    rw [← UInt8.ofNat_toNat (x := b)] at h
    exact List.forall_mem_singleton.mpr (isUnreserved_spec _ hb h).1
  · simp only [escape, List.forall_mem_cons]
    exact ⟨by decide, (hexDigit_spec _ (by omega)).2, (hexDigit_spec _ (by omega)).2, nofun⟩

/-- A byte that is no percent sign stands for itself. -/
theorem decodeBytes_cons {b : UInt8} (h : b ≠ 37) (rest : List UInt8) :
    decodeBytes (b :: rest) = b :: decodeBytes rest := by
  match rest with
  | [] => rfl
  | [_] => rfl
  | _ :: _ :: _ => exact if_neg h

/-- What is written for a byte is read as the byte. -/
theorem decodeBytes_written (b : UInt8) (rest : List UInt8) :
    decodeBytes ((written b).map asciiByte ++ rest) = b :: decodeBytes rest := by
  have hb : b.toNat < 256 := b.toNat_lt
  unfold written
  split
  · rename_i h
    rw [← UInt8.ofNat_toNat (x := b)] at h
    obtain ⟨-, hpercent, hbyte⟩ := isUnreserved_spec _ hb h
    rw [UInt8.ofNat_toNat] at hbyte
    rw [List.map_singleton, hbyte, List.singleton_append, decodeBytes_cons]
    rintro rfl
    exact hpercent rfl
  · have hpercent : asciiByte '%' = 37 := rfl
    have hvalue : 16 * (b.toNat / 16) + b.toNat % 16 = b.toNat := by omega
    simp only [escape, List.map_cons, List.map_nil, List.cons_append, List.nil_append, hpercent]
    rw [decodeBytes, if_pos rfl, (hexDigit_spec _ (by omega)).1, (hexDigit_spec _ (by omega)).1]
    dsimp only
    rw [hvalue, UInt8.ofNat_toNat]

/-- **Escapes are undone.** -/
theorem decodeBytes_encode (s : String) :
    decodeBytes (encode s).toUTF8.toList = s.toUTF8.toList := by
  have hbytes (bytes : List UInt8) :
      decodeBytes ((bytes.flatMap written).map asciiByte) = bytes := by
    induction bytes with
    | nil => rfl
    | cons b bytes ih => rw [List.flatMap_cons, List.map_append, decodeBytes_written, ih]
  have hgraphic : ∀ c ∈ s.toUTF8.toList.flatMap written, Graphic c := by
    intro c hc
    obtain ⟨b, -, hb⟩ := List.mem_flatMap.mp hc
    exact graphic_written b c hb
  rw [encode_eq, toUTF8_of_graphic hgraphic, hbytes]

end Percent

/-! ## Texts -/

namespace Codec

theorem base64Decode_encode (s : String) : base64Decode (Base64.encode s) = .ok s := by
  have hread : Base64.decodeBytes? (trimChars (Base64.encode s).toList) = some s.toUTF8.toList := by
    rw [Base64.encode, String.toList_ofList, trimChars_of_graphic (Base64.graphic_encodeBytes _),
      Base64.decodeBytes?_encodeBytes]
  rw [base64Decode, hread]
  dsimp only
  rw [textOfBytes?_toUTF8]

theorem dataUriDecode_encode (s : String) : dataUriDecode (dataUriEncode s) = .ok s := by
  have hhead : dataUriHead.toList = "data:text/plain;charset=utf-8;base64".toList ++ [','] := rfl
  have hcomma : ',' ∉ "data:text/plain;charset=utf-8;base64".toList := by decide
  have hsplit : Search.splitFirst? ',' (dataUriEncode s).toList =
      some ("data:text/plain;charset=utf-8;base64".toList, (Base64.encode s).toList) := by
    rw [dataUriEncode, String.toList_append, hhead, List.append_assoc, List.singleton_append,
      Search.splitFirst?_append hcomma]
  rw [dataUriDecode, hsplit]
  dsimp only
  rw [String.ofList_toList, base64Decode_encode]

theorem uriComponentDecode_encode (s : String) :
    uriComponentDecode (Percent.encode s) = .ok s := by
  rw [uriComponentDecode, Percent.decodeBytes_encode, textOfBytes?_toUTF8]

end Codec

/-! ## Operators -/

namespace Expr

/-- The operators that encode texts, each with the one that decodes what it gives. -/
inductive DecodedBy : Operator → Operator → Prop where
  | base64 : DecodedBy .base64 .base64ToString
  | dataUri : DecodedBy .dataUri .dataUriToString
  | uriComponent : DecodedBy .uriComponent .uriComponentToString

variable {ambient : Ambient} {op op' : Operator}

/-- An operator that encodes gives the text of its encoder. -/
theorem returns_encoding {f : String → String} (hplain : op.isComprehension = false)
    (hop : op.evaluator ambient = op.encoding f) (t : String) :
    Returns ambient op [.text t] (.text (f t)) := by
  have hstrategy : (op.evaluator ambient).strategy =
      .apply (Conversion.encoded f) (some .string) := by
    rw [hop]
    rfl
  exact returns_of_apply hplain hstrategy (checked_texts (fun _ _ _ => rfl) 0 [t]) rfl

/-- An operator that decodes gives the text that its decoder makes out. -/
theorem returns_decoding {f : String → Except Codec.Fault String}
    (hplain : op.isComprehension = false) (hop : op.evaluator ambient = op.decoding f)
    {t u : String} (h : f t = .ok u) : Returns ambient op [.text t] (.text u) := by
  have hstrategy : (op.evaluator ambient).strategy =
      .applyWithError (Conversion.decoded f) (some .string) := by
    rw [hop]
    rfl
  have hchecked : Checked (some .string) 0 [.text t] := checked_texts (fun _ _ _ => rfl) 0 [t]
  have htext : (argument [.text t] 0).textOrEmpty = t := rfl
  apply (callGives_of_applyWithError hplain hstrategy hchecked).returns
  rw [Conversion.decoded, htext, h]

theorem DecodedBy.exists_returns (h : DecodedBy op op') (t : String) :
    ∃ u, Returns ambient op [.text t] (.text u) ∧ Returns ambient op' [.text u] (.text t) := by
  cases h with
  | base64 =>
    exact ⟨_, returns_encoding rfl rfl t, returns_decoding rfl rfl (Codec.base64Decode_encode t)⟩
  | dataUri =>
    exact ⟨_, returns_encoding rfl rfl t, returns_decoding rfl rfl (Codec.dataUriDecode_encode t)⟩
  | uriComponent =>
    exact ⟨_, returns_encoding rfl rfl t,
      returns_decoding rfl rfl (Codec.uriComponentDecode_encode t)⟩

/-- **Codecs are inverted.**  Every text comes back from base64, from a data address and from a
component of an address, and decoding never fails on what was encoded.  So it is when one operator
stands in the other, whatever comes to the text. -/
theorem codecs_invert (ambient : Ambient) (t : String) :
    Codec.base64Decode (Base64.encode t) = .ok t ∧
    Codec.dataUriDecode (Codec.dataUriEncode t) = .ok t ∧
    Codec.uriComponentDecode (Percent.encode t) = .ok t ∧
    ∀ op op', DecodedBy op op' → ∀ cs s s', Operands cs s [.text t] s' →
      (operation ambient op' [operation ambient op cs]).evaluate.outcome s =
        (.ok (.text t), s') := by
  refine ⟨Codec.base64Decode_encode t, Codec.dataUriDecode_encode t,
    Codec.uriComponentDecode_encode t, ?_⟩
  intro op op' hop cs s s' hcs
  obtain ⟨u, hencode, hdecode⟩ := hop.exists_returns t
  exact hdecode _ s s' (.cons (hencode cs s s' hcs) .nil)

/-- A comma, blanks at the edges, and characters of two, three and four bytes. -/
theorem codecs_invert_beyond_ascii :
    let ambient : Ambient := .still
    let t : String := " 5 €, ü😀 "
    let back := fun op op' =>
      (operation ambient op' [operation ambient op [constant (.text t)]]).evaluate.outcome .null
    Codec.base64Decode (Base64.encode t) = .ok t ∧
    back .base64 .base64ToString = (.ok (.text t), .null) ∧
    back .dataUri .dataUriToString = (.ok (.text t), .null) ∧
    back .uriComponent .uriComponentToString = (.ok (.text t), .null) := by
  intro ambient t back
  obtain ⟨hbase64, -, -, hback⟩ := codecs_invert ambient t
  have hoperands : Operands [constant (.text t)] .null [.text t] .null :=
    .constant [.text t] .null
  exact ⟨hbase64, hback _ _ .base64 _ _ _ hoperands, hback _ _ .dataUri _ _ _ hoperands,
    hback _ _ .uriComponent _ _ _ hoperands⟩

end Expr

end StateExpr
