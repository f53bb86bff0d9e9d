import Mathlib.Data.String.Basic
import StateExpr.Proofs.Codec.Text
/-!
# Order of bytes

Texts are ordered by their characters, and just as well by their bytes.  A character of more bytes
starts with a greater one, and among characters of as many bytes the digits of the number decide,
the first of which are in the first byte.

Main statements: `CharBytes.digits_lt`, `CharBytes.encode_lt` for characters and `toUTF8_lt` for
texts.
-/

namespace StateExpr

namespace CharBytes

variable {m n k j lead lead' : ℕ} {c d : Char}

/-- The last six bits of a number as a byte that starts no character. -/
def trailing (n : ℕ) : UInt8 := .ofNat (n % 64 + 128)

/-- The bytes of a number with some trailing ones, the first of which is counted from a mark on. -/
def digits (lead : ℕ) : ℕ → ℕ → List UInt8
  | 0, n => [.ofNat (n + lead)]
  | k + 1, n => digits lead k (n / 64) ++ [trailing n]

theorem ofNat_lt_ofNat (h : m < n) (hn : n < 256) : UInt8.ofNat m < UInt8.ofNat n := by
  rw [UInt8.lt_iff_toNat_lt, UInt8.toNat_ofNat_of_lt' (h.trans hn), UInt8.toNat_ofNat_of_lt' hn]
  exact h

theorem exists_digits_eq_cons (lead k n : ℕ) :
    ∃ rest, digits lead k n = .ofNat (n / 64 ^ k + lead) :: rest := by
  induction k generalizing n with
  | zero => exact ⟨[], by rw [pow_zero, Nat.div_one]; rfl⟩
  | succ k ih =>
    obtain ⟨rest, hrest⟩ := ih (n / 64)
    rw [Nat.div_div_eq_div_mul, mul_comm, ← pow_succ] at hrest
    exact ⟨rest ++ [trailing n], by rw [digits, hrest]; rfl⟩

/-- The first byte decides when it differs. -/
theorem digits_lt_of_first (h : m / 64 ^ j + lead < n / 64 ^ k + lead')
    (hn : n / 64 ^ k + lead' < 256) (as bs : List UInt8) :
    digits lead j m ++ as < digits lead' k n ++ bs := by
  obtain ⟨rest, hrest⟩ := exists_digits_eq_cons lead j m
  obtain ⟨rest', hrest'⟩ := exists_digits_eq_cons lead' k n
  rw [hrest, hrest', List.cons_append, List.cons_append, List.cons_lt_cons_iff]
  exact .inl (ofNat_lt_ofNat h hn)

/-- Of as many bytes, those of the smaller number come first. -/
theorem digits_lt (h : m < n) (hn : n / 64 ^ k + lead < 256) (as bs : List UInt8) :
    digits lead k m ++ as < digits lead k n ++ bs := by
  induction k generalizing m n as bs with
  | zero => exact digits_lt_of_first (by simpa using h) hn as bs
  | succ k ih =>
    rw [digits, digits, List.append_assoc, List.append_assoc]
    rcases (Nat.div_le_div_right h.le : m / 64 ≤ n / 64).lt_or_eq with hlt | heq
    · apply ih hlt
      rw [Nat.div_div_eq_div_mul, mul_comm, ← pow_succ]
      exact hn
    · rw [heq]
      apply List.append_left_lt
      rw [List.singleton_append, List.singleton_append, List.cons_lt_cons_iff]
      exact .inl (ofNat_lt_ofNat (by omega) (by omega))

theorem toNat_lt (c : Char) : c.toNat < 1114112 := by
  have hc : c.toNat < 0xd800 ∨ 0xdfff < c.toNat ∧ c.toNat < 0x110000 := c.valid
  omega

theorem utf8EncodeChar_eq (c : Char) : String.utf8EncodeChar c =
    if c.toNat < 128 then digits 0 0 c.toNat else if c.toNat < 2048 then digits 192 1 c.toNat
    else if c.toNat < 65536 then digits 224 2 c.toNat else digits 240 3 c.toNat := by
  have hc := toNat_lt c
  have hval : c.val.toNat = c.toNat := rfl
  rw [String.utf8EncodeChar, hval]
  generalize c.toNat = n at hc ⊢
  simp only [Nat.lt_succ_iff]
  split_ifs with h₁ h₂ h₃
  · rfl
  · rw [Nat.mod_eq_of_lt (by omega : n / 64 < 32)]
    rfl
  · rw [(by omega : n / 4096 % 16 = n / 64 / 64)]
    rfl
  · rw [(by omega : n / 262144 % 8 = n / 64 / 64 / 64), (by omega : n / 4096 = n / 64 / 64)]
    rfl

theorem encode_ne_nil (c : Char) : String.utf8EncodeChar c ≠ [] := by
  intro h
  have hlength := congrArg List.length h
  rw [String.length_utf8EncodeChar] at hlength
  exact absurd hlength c.utf8Size_pos.ne'

theorem encode_lt (h : c < d) (as bs : List UInt8) :
    String.utf8EncodeChar c ++ as < String.utf8EncodeChar d ++ bs := by
  have hlt : c.toNat < d.toNat := h
  have hd := toNat_lt d
  rw [utf8EncodeChar_eq, utf8EncodeChar_eq]
  split_ifs
  -- the smaller number cannot have more bytes; with as many the digits decide, with fewer the first
  all_goals first
    | omega
    | exact digits_lt hlt (by omega) as bs
    | exact digits_lt_of_first (by omega) (by omega) as bs

end CharBytes

theorem toUTF8_toList (s : String) :
    s.toUTF8.toList = s.toList.flatMap String.utf8EncodeChar := by
  rw [toList_eq_data]
  change s.toByteArray.data.toList = _
  rw [← String.ofList_toList (s := s), String.toByteArray_ofList, List.utf8Encode,
    List.toList_data_toByteArray, String.toList_ofList]

/-- **Texts are in the order of their bytes.** -/
theorem toUTF8_lt {s t : String} (h : s < t) : s.toUTF8.toList < t.toUTF8.toList := by
  rw [String.lt_iff_toList_lt] at h
  rw [toUTF8_toList, toUTF8_toList]
  generalize s.toList = cs at h ⊢
  generalize t.toList = ds at h ⊢
  induction h with
  | @nil d ds =>
    obtain ⟨b, bs, hbytes⟩ := List.exists_cons_of_ne_nil (CharBytes.encode_ne_nil d)
    rw [List.flatMap_cons, hbytes]
    exact List.nil_lt_cons _ _
  | cons h ih => exact List.append_left_lt ih
  | rel h => exact CharBytes.encode_lt h _ _

end StateExpr
