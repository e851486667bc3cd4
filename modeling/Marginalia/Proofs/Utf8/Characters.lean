/-
The characters of UTF-8. Which sequences of bytes are well-formed is said by
a table of ranges (`rows`), without the decoder: an overlong form, a
surrogate and a number past the last code point each have a second byte
outside the range that their lead byte leaves to it.

Two facts tie the table to the encoder. What is encoded of a character is in
the table (`isCharacter_utf8EncodeChar`), and the number that the bytes of a
row come to has a character that is encoded by these bytes
(`character_of_two`, `character_of_three`, `character_of_four`).
-/
import Mathlib.Data.List.Forall2
import Marginalia.Text.Utf8
import Marginalia.Proofs.Text.CodePoint

namespace Marginalia.Utf8

-- ========================================================== well-formed

/-- The ranges of the bytes of one character: a row for each length, and of
one length a row for each lead byte that narrows the byte behind it. -/
def rows : List (List (Nat × Nat)) :=
  [ [(0x00, 0x7F)],
    [(0xC2, 0xDF), (0x80, 0xBF)],
    [(0xE0, 0xE0), (0xA0, 0xBF), (0x80, 0xBF)],
    [(0xE1, 0xEC), (0x80, 0xBF), (0x80, 0xBF)],
    [(0xED, 0xED), (0x80, 0x9F), (0x80, 0xBF)],
    [(0xEE, 0xEF), (0x80, 0xBF), (0x80, 0xBF)],
    [(0xF0, 0xF0), (0x90, 0xBF), (0x80, 0xBF), (0x80, 0xBF)],
    [(0xF1, 0xF3), (0x80, 0xBF), (0x80, 0xBF), (0x80, 0xBF)],
    [(0xF4, 0xF4), (0x80, 0x8F), (0x80, 0xBF), (0x80, 0xBF)] ]

/-- The byte lies in the range. -/
def InRange (byte : UInt8) (range : Nat × Nat) : Prop :=
  range.1 ≤ byte.toNat ∧ byte.toNat ≤ range.2

/-- The bytes are a well-formed sequence of one character. -/
def IsCharacter (bytes : Bytes) : Prop :=
  ∃ row ∈ rows, List.Forall₂ InRange bytes row

/-- The bytes are characters, one after another. -/
def WellFormed (bytes : Bytes) : Prop :=
  ∃ characters : List Bytes,
    characters.flatten = bytes ∧ ∀ c ∈ characters, IsCharacter c

/-- A character that starts some bytes starts with the first of them. -/
theorem IsCharacter.exists_tail {bytes rest d : Bytes} {b : UInt8}
    (h : IsCharacter bytes) (hd : b :: d = bytes ++ rest) :
    ∃ tail, bytes = b :: tail ∧ d = tail ++ rest := by
  cases bytes with
  | cons b' tail =>
      injection hd with hb hd
      exact ⟨tail, by rw [hb], hd⟩
  | nil =>
      obtain ⟨row, hrow, hranges⟩ := h
      cases hranges
      simp [rows] at hrow

/-- A byte below 80 is a character by itself. -/
theorem nil_of_isCharacter_ascii {b : UInt8} (hb : b.toNat < 0x80)
    {tail : Bytes} (h : IsCharacter (b :: tail)) : tail = [] := by
  obtain ⟨row, hrow, hranges⟩ := h
  cases hranges with
  | cons hlead htail =>
      obtain ⟨hlow, -⟩ := hlead
      simp only [rows, List.mem_cons, List.cons.injEq, Prod.ext_iff,
        List.not_mem_nil, or_false] at hrow
      rcases hrow with ⟨-, rfl⟩ | h | h | h | h | h | h | h | h
      · cases htail
        rfl
      all_goals omega

theorem not_zero_mem {bytes : Bytes} {row : List (Nat × Nat)}
    (h : List.Forall₂ InRange bytes row) (hrow : ∀ range ∈ row, 0 < range.1) :
    0 ∉ bytes := by
  induction h with
  | nil => exact List.not_mem_nil
  | cons hbyte _ ih =>
      obtain ⟨hrange, hrest⟩ := List.forall_mem_cons.1 hrow
      intro hmem
      rcases List.mem_cons.1 hmem with rfl | hmem
      · exact absurd hbyte.1 (Nat.not_le.2 hrange)
      · exact ih hrest hmem

/-- NUL is the only character with a zero byte. -/
theorem IsCharacter.eq_zero {bytes : Bytes} (h : IsCharacter bytes)
    (hzero : 0 ∈ bytes) : bytes = [0] := by
  obtain ⟨row, hrow, hranges⟩ := h
  have hfirst : ∀ row ∈ rows, row = [(0x00, 0x7F)]
      ∨ ∀ range ∈ row, 0 < range.1 := by decide
  rcases hfirst row hrow with rfl | hpos
  · match bytes, hranges with
    | [b], _ => rw [List.mem_singleton.1 hzero]
  · exact absurd hzero (not_zero_mem hranges hpos)

-- ============================================================= encoding

/-- A code point is encoded as the standard library encodes characters. -/
theorem encodePoint_scalar (c : Char) :
    encodePoint (.scalar c) = some (String.utf8EncodeChar c) := by
  have hlast : c.toNat < 0x110000 := by
    have hc := CodePoint.toNat_scalar c
    show (CodePoint.scalar c).toNat < 0x110000
    omega
  have hn : c.val.toNat = c.toNat := rfl
  unfold encodePoint String.utf8EncodeChar
  simp only [hn]
  generalize c.toNat = n at hlast
  have h₀ : n >>> 0 = n := rfl
  have h₆ : n >>> 6 = n / 64 := Nat.shiftRight_eq_div_pow n 6
  have h₁₂ : n >>> 12 = n / 4096 := Nat.shiftRight_eq_div_pow n 12
  have h₁₈ : n >>> 18 = n / 262144 := Nat.shiftRight_eq_div_pow n 18
  rw [h₀, h₆, h₁₂, h₁₈, Nat.add_comm 0x80 (n % 64),
    Nat.add_comm 0x80 (n / 64 % 64), Nat.add_comm 0x80 (n / 4096 % 64)]
  by_cases h : n < 0x80
  · rw [if_pos h, if_pos (Nat.le_of_lt_succ h)]
  rw [if_neg h, if_neg fun h' => h (Nat.lt_succ_of_le h')]
  by_cases h : n < 0x800
  · rw [if_pos h, if_pos (Nat.le_of_lt_succ h),
      show 0xC0 + n / 64 = n / 64 % 32 + 192 by omega]
  rw [if_neg h, if_neg fun h' => h (Nat.lt_succ_of_le h')]
  by_cases h : n < 0x10000
  · rw [if_pos h, if_pos (Nat.le_of_lt_succ h),
      show 0xE0 + n / 4096 = n / 4096 % 16 + 224 by omega]
  rw [if_neg h, if_neg fun h' => h (Nat.lt_succ_of_le h'),
    show 0xF0 + n / 262144 = n / 262144 % 8 + 240 by omega]

theorem encode_scalars (cs : List Char) :
    encode (cs.map .scalar) = some (cs.flatMap String.utf8EncodeChar) := by
  induction cs with
  | nil => rfl
  | cons c cs ih =>
      rw [List.map_cons, encode, encodePoint_scalar, ih, List.flatMap_cons]

/-- A text without surrogates is one of characters. -/
theorem exists_scalars {t : Text} (h : t.isEncodable = true) :
    ∃ cs : List Char, t = cs.map .scalar := by
  induction t with
  | nil => exact ⟨[], rfl⟩
  | cons c t ih =>
      obtain ⟨hc, ht⟩ := Text.isEncodable_cons.1 h
      obtain ⟨cs, rfl⟩ := ih ht
      cases c with
      | scalar c => exact ⟨c :: cs, rfl⟩
      | surrogate half => cases hc

/-- A text with a surrogate in it is not encoded. -/
theorem isEncodable_of_encode {t : Text} {d : Bytes} (h : encode t = some d) :
    t.isEncodable = true := by
  induction t generalizing d with
  | nil => rfl
  | cons c t ih =>
      rw [encode] at h
      cases hc : encodePoint c with
      | none => simp [hc] at h
      | some bytes =>
          cases ht : encode t with
          | none => simp [hc, ht] at h
          | some rest =>
              refine Text.isEncodable_cons.2 ⟨?_, ih ht⟩
              cases c with
              | scalar c => rfl
              | surrogate half => cases hc

/-- A text is encoded exactly when it has no surrogate in it. -/
theorem exists_encode_iff {t : Text} :
    (∃ d, encode t = some d) ↔ t.isEncodable = true := by
  constructor
  · rintro ⟨d, h⟩
    exact isEncodable_of_encode h
  · intro h
    obtain ⟨cs, rfl⟩ := exists_scalars h
    exact ⟨_, encode_scalars cs⟩

/-- The bytes of a text are those of its characters. -/
theorem encode_eq_some_iff {t : Text} {d : Bytes} :
    encode t = some d ↔ ∃ cs : List Char,
      t = cs.map .scalar ∧ d = cs.flatMap String.utf8EncodeChar := by
  constructor
  · intro h
    obtain ⟨cs, rfl⟩ := exists_scalars (isEncodable_of_encode h)
    rw [encode_scalars] at h
    injection h with h
    exact ⟨cs, rfl, h.symm⟩
  · rintro ⟨cs, rfl, rfl⟩
    exact encode_scalars cs

/-- Two encoded characters that start the same bytes are the same. -/
theorem eq_of_utf8EncodeChar_append {c c' : Char} {r r' : Bytes}
    (h : String.utf8EncodeChar c ++ r = String.utf8EncodeChar c' ++ r') :
    c = c' := by
  have hc := ByteArray.utf8DecodeChar?_utf8EncodeChar_append (c := c)
    (b := r.toByteArray)
  have hc' := ByteArray.utf8DecodeChar?_utf8EncodeChar_append (c := c')
    (b := r'.toByteArray)
  rw [← List.toByteArray_append] at hc hc'
  rw [h, hc'] at hc
  injection hc with hc
  exact hc.symm

theorem inRange_ofNat {n low high : Nat} (h : low ≤ n ∧ n ≤ high)
    (hhigh : high < 256) : InRange (UInt8.ofNat n) (low, high) := by
  have hn : (UInt8.ofNat n).toNat = n := by
    rw [UInt8.toNat_ofNat', Nat.mod_eq_of_lt (by omega)]
  unfold InRange
  rwa [hn]

/-- What is encoded of a character is well-formed. -/
theorem isCharacter_utf8EncodeChar (c : Char) :
    IsCharacter (String.utf8EncodeChar c) := by
  have hc := CodePoint.toNat_scalar c
  have hn : (CodePoint.scalar c).toNat = c.val.toNat := rfl
  rw [hn] at hc
  unfold String.utf8EncodeChar
  dsimp only
  generalize c.val.toNat = n at hc
  have htail : ∀ k, InRange (UInt8.ofNat (k % 64 + 128)) (0x80, 0xBF) :=
    fun k => inRange_ofNat (by omega) (by decide)
  split
  · exact ⟨[(0x00, 0x7F)], by simp [rows],
      .cons (inRange_ofNat (by omega) (by decide)) .nil⟩
  split
  · exact ⟨[(0xC2, 0xDF), (0x80, 0xBF)], by simp [rows],
      .cons (inRange_ofNat (by omega) (by decide)) (.cons (htail _) .nil)⟩
  split
  · -- the second byte is narrowed behind E0 and ED
    by_cases h₁ : n < 0x1000
    · exact ⟨[(0xE0, 0xE0), (0xA0, 0xBF), (0x80, 0xBF)], by simp [rows],
        .cons (inRange_ofNat (by omega) (by decide))
          (.cons (inRange_ofNat (by omega) (by decide)) (.cons (htail _) .nil))⟩
    by_cases h₂ : n < 0xD000
    · exact ⟨[(0xE1, 0xEC), (0x80, 0xBF), (0x80, 0xBF)], by simp [rows],
        .cons (inRange_ofNat (by omega) (by decide))
          (.cons (htail _) (.cons (htail _) .nil))⟩
    by_cases h₃ : n < 0xE000
    · exact ⟨[(0xED, 0xED), (0x80, 0x9F), (0x80, 0xBF)], by simp [rows],
        .cons (inRange_ofNat (by omega) (by decide))
          (.cons (inRange_ofNat (by omega) (by decide)) (.cons (htail _) .nil))⟩
    · exact ⟨[(0xEE, 0xEF), (0x80, 0xBF), (0x80, 0xBF)], by simp [rows],
        .cons (inRange_ofNat (by omega) (by decide))
          (.cons (htail _) (.cons (htail _) .nil))⟩
  · -- and behind F0 and F4
    by_cases h₁ : n < 0x40000
    · exact ⟨[(0xF0, 0xF0), (0x90, 0xBF), (0x80, 0xBF), (0x80, 0xBF)],
        by simp [rows], .cons (inRange_ofNat (by omega) (by decide))
          (.cons (inRange_ofNat (by omega) (by decide))
            (.cons (htail _) (.cons (htail _) .nil)))⟩
    by_cases h₂ : n < 0x100000
    · exact ⟨[(0xF1, 0xF3), (0x80, 0xBF), (0x80, 0xBF), (0x80, 0xBF)],
        by simp [rows], .cons (inRange_ofNat (by omega) (by decide))
          (.cons (htail _) (.cons (htail _) (.cons (htail _) .nil)))⟩
    · exact ⟨[(0xF4, 0xF4), (0x80, 0x8F), (0x80, 0xBF), (0x80, 0xBF)],
        by simp [rows], .cons (inRange_ofNat (by omega) (by decide))
          (.cons (inRange_ofNat (by omega) (by decide))
            (.cons (htail _) (.cons (htail _) .nil)))⟩

-- ============================================================== numbers

/-- A number that is not that of a surrogate has a character. -/
theorem exists_scalar {n : Nat} (h : n.isValidChar) :
    ∃ c : Char, CodePoint.ofNat n = .scalar c ∧ c.val.toNat = n := by
  refine ⟨Char.ofNatAux n h, ?_, rfl⟩
  unfold CodePoint.ofNat Char.ofNat
  rw [if_neg (by unfold Nat.isValidChar at h; omega), dif_pos h]

theorem ofNat_eq {n : Nat} {x : UInt8} (h : n = x.toNat) :
    UInt8.ofNat n = x := by
  rw [h, UInt8.ofNat_toNat]

theorem utf8EncodeChar_ascii {b : UInt8} (h : b.toNat < 0x80) :
    String.utf8EncodeChar (Char.ofNat b.toNat) = [b] := by
  have hn : (Char.ofNat b.toNat).val.toNat = b.toNat := by
    unfold Char.ofNat
    rw [dif_pos (show b.toNat.isValidChar by left; omega)]
    rfl
  unfold String.utf8EncodeChar
  simp only [hn]
  rw [if_pos (by omega), UInt8.ofNat_toNat]

theorem character_of_two {a x : UInt8} (ha : 0xC2 ≤ a.toNat ∧ a.toNat ≤ 0xDF)
    (hx : 0x80 ≤ x.toNat ∧ x.toNat ≤ 0xBF) :
    ∃ c, CodePoint.ofNat ((a.toNat - 0xC0) * 64 + (x.toNat - 0x80)) = .scalar c
      ∧ String.utf8EncodeChar c = [a, x] := by
  generalize hn : (a.toNat - 0xC0) * 64 + (x.toNat - 0x80) = n
  obtain ⟨c, hc, hv⟩ := exists_scalar (n := n) (by left; omega)
  refine ⟨c, hc, ?_⟩
  unfold String.utf8EncodeChar
  simp only [hv]
  rw [if_neg (by omega), if_pos (by omega), ofNat_eq (x := a) (by omega),
    ofNat_eq (x := x) (by omega)]

theorem character_of_three {a x y : UInt8}
    (ha : 0xE0 ≤ a.toNat ∧ a.toNat ≤ 0xEF)
    (hx : 0x80 ≤ x.toNat ∧ x.toNat ≤ 0xBF)
    (hlow : a.toNat = 0xE0 → 0xA0 ≤ x.toNat)
    (hhigh : a.toNat = 0xED → x.toNat ≤ 0x9F)
    (hy : 0x80 ≤ y.toNat ∧ y.toNat ≤ 0xBF) :
    ∃ c, CodePoint.ofNat (((a.toNat - 0xE0) * 64 + (x.toNat - 0x80)) * 64
          + (y.toNat - 0x80)) = .scalar c
      ∧ String.utf8EncodeChar c = [a, x, y] := by
  generalize hn : ((a.toNat - 0xE0) * 64 + (x.toNat - 0x80)) * 64
    + (y.toNat - 0x80) = n
  obtain ⟨c, hc, hv⟩ := exists_scalar (n := n)
    (by unfold Nat.isValidChar; omega)
  refine ⟨c, hc, ?_⟩
  unfold String.utf8EncodeChar
  simp only [hv]
  rw [if_neg (by omega), if_neg (by omega), if_pos (by omega),
    ofNat_eq (x := a) (by omega), ofNat_eq (x := x) (by omega),
    ofNat_eq (x := y) (by omega)]

theorem character_of_four {a x y z : UInt8}
    (ha : 0xF0 ≤ a.toNat ∧ a.toNat ≤ 0xF4)
    (hx : 0x80 ≤ x.toNat ∧ x.toNat ≤ 0xBF)
    (hlow : a.toNat = 0xF0 → 0x90 ≤ x.toNat)
    (hhigh : a.toNat = 0xF4 → x.toNat ≤ 0x8F)
    (hy : 0x80 ≤ y.toNat ∧ y.toNat ≤ 0xBF)
    (hz : 0x80 ≤ z.toNat ∧ z.toNat ≤ 0xBF) :
    ∃ c, CodePoint.ofNat ((((a.toNat - 0xF0) * 64 + (x.toNat - 0x80)) * 64
          + (y.toNat - 0x80)) * 64 + (z.toNat - 0x80)) = .scalar c
      ∧ String.utf8EncodeChar c = [a, x, y, z] := by
  generalize hn : (((a.toNat - 0xF0) * 64 + (x.toNat - 0x80)) * 64
    + (y.toNat - 0x80)) * 64 + (z.toNat - 0x80) = n
  obtain ⟨c, hc, hv⟩ := exists_scalar (n := n)
    (by unfold Nat.isValidChar; omega)
  refine ⟨c, hc, ?_⟩
  unfold String.utf8EncodeChar
  simp only [hv]
  rw [if_neg (by omega), if_neg (by omega), if_neg (by omega),
    ofNat_eq (x := a) (by omega), ofNat_eq (x := x) (by omega),
    ofNat_eq (x := y) (by omega), ofNat_eq (x := z) (by omega)]

end Marginalia.Utf8
