/-
Code points by their numbers. The classes of ASCII characters are ranges of
numbers, a code point is determined by its number, and hexadecimal digits
are read back with their values. The order of texts by these numbers is a
total one, and a text has an encoding when no part of it is a surrogate.
-/
import Marginalia.Text.CodePoint

namespace Marginalia

namespace CodePoint

-- =========================================================== numbers

/-- The number of a scalar value is not that of a surrogate. -/
theorem toNat_scalar (c : Char) :
    (scalar c).toNat < 0xD800
      ∨ 0xDFFF < (scalar c).toNat ∧ (scalar c).toNat < 0x110000 :=
  c.valid

/-- A code point is the one of its number. -/
theorem ofNat_toNat (c : CodePoint) : ofNat c.toNat = c := by
  cases c with
  | scalar c =>
      have hc := toNat_scalar c
      unfold ofNat
      rw [if_neg (by omega)]
      exact congrArg scalar (Char.ofNat_toNat c)
  | surrogate half =>
      have hlt := half.isLt
      have hnumber : (surrogate half).toNat = 0xD800 + half.val := rfl
      unfold ofNat
      rw [hnumber, if_pos (by omega)]
      refine congrArg surrogate (Fin.ext ?_)
      show (0xD800 + half.val - 0xD800) % 0x800 = half.val
      omega

/-- A number is that of a surrogate exactly when it is the number of the code
point made of it. -/
theorem toNat_ofNat {n : Nat} :
    (ofNat n).toNat = n
      ∨ ¬ (0xD800 ≤ n ∧ n ≤ 0xDFFF)
        ∧ ¬ (0xD800 ≤ (ofNat n).toNat ∧ (ofNat n).toNat ≤ 0xDFFF) := by
  unfold ofNat
  split
  · next h =>
    left
    show 0xD800 + (n - 0xD800) % 0x800 = n
    omega
  · next h =>
    have hc := toNat_scalar (Char.ofNat n)
    exact .inr ⟨h, by omega⟩

-- =========================================================== classes

/-- The digits are next to each other. -/
theorem toNat_of_isDigit {c : CodePoint} (h : c.isDigit = true) :
    48 ≤ c.toNat ∧ c.toNat ≤ 57 := by
  cases c with
  | scalar c =>
      simpa [isDigit, toNat, Char.le_def, UInt32.le_iff_toNat_le] using h
  | surrogate half => cases h

/-- The letters of each case are next to each other. -/
theorem toNat_of_isLetter {c : CodePoint} (h : c.isLetter = true) :
    97 ≤ c.toNat ∧ c.toNat ≤ 122 ∨ 65 ≤ c.toNat ∧ c.toNat ≤ 90 := by
  cases c with
  | scalar c =>
      simpa [isLetter, toNat, Char.le_def, UInt32.le_iff_toNat_le] using h
  | surrogate half => cases h

-- ========================================================= hexadecimals

theorem hexDigit?_ofHexDigit {d : Nat} (h : d < 16) :
    (ofHexDigit d).hexDigit? = some d := by
  have hall : ∀ d < 16, (ofHexDigit d).hexDigit? = some d := by decide
  exact hall d h

/-- A hexadecimal digit is none of the marks of a string. -/
theorem ofHexDigit_ne {d : Nat} (h : d < 16) :
    ofHexDigit d ≠ .scalar '"' ∧ ofHexDigit d ≠ .scalar '\\'
      ∧ 0x20 ≤ (ofHexDigit d).toNat := by
  have hall : ∀ d < 16, ofHexDigit d ≠ .scalar '"'
      ∧ ofHexDigit d ≠ .scalar '\\' ∧ 0x20 ≤ (ofHexDigit d).toNat := by
    decide
  exact hall d h

end CodePoint

namespace Text

theorem forall_mem_ofHex {p : CodePoint → Prop}
    (h : ∀ d < 16, p (.ofHexDigit d)) (width n : Nat) :
    ∀ c ∈ Text.ofHex width n, p c := by
  induction width generalizing n with
  | zero => exact fun c hc => absurd hc List.not_mem_nil
  | succ width ih =>
      intro c hc
      rcases List.mem_append.1 hc with hc | hc
      · exact ih (n / 16) c hc
      · rw [List.mem_singleton.1 hc]
        exact h _ (Nat.mod_lt n (by decide))

-- ========================================================== encodable

theorem isEncodable_cons {c : CodePoint} {t : Text} :
    isEncodable (c :: t) = true
      ↔ c.isSurrogate = false ∧ isEncodable t = true := by
  unfold isEncodable
  rw [List.all_cons, Bool.and_eq_true, Bool.not_eq_true']

/-- What is taken from a text that has an encoding has one. -/
theorem isEncodable_of_subset {t u : Text} (h : u ⊆ t)
    (ht : t.isEncodable = true) : u.isEncodable = true := by
  unfold isEncodable at ht ⊢
  rw [List.all_eq_true] at ht ⊢
  exact fun c hc => ht c (h hc)

@[simp] theorem isEncodable_append (t u : Text) :
    isEncodable (t ++ u) = (t.isEncodable && u.isEncodable) :=
  List.all_append

-- ============================================================== order

theorem le_cons {a b : CodePoint} {t u : Text} :
    le (a :: t) (b :: u) = true
      ↔ a.toNat < b.toNat ∨ a.toNat = b.toNat ∧ le t u = true := by
  rw [le, Bool.or_eq_true, Bool.and_eq_true, decide_eq_true_iff, beq_iff_eq]

theorem le_total (t u : Text) : le t u = true ∨ le u t = true := by
  induction t generalizing u with
  | nil => exact .inl rfl
  | cons a t ih =>
      cases u with
      | nil => exact .inr rfl
      | cons b u =>
          rw [le_cons, le_cons]
          have htail := ih u
          rcases Nat.lt_trichotomy a.toNat b.toNat with h | h | h
          · exact .inl (.inl h)
          · exact htail.imp (.inr ⟨h, ·⟩) (.inr ⟨h.symm, ·⟩)
          · exact .inr (.inl h)

theorem le_trans {t u v : Text} (h : le t u = true) (h' : le u v = true) :
    le t v = true := by
  induction t generalizing u v with
  | nil => rfl
  | cons a t ih =>
      cases u with
      | nil => cases h
      | cons b u =>
          cases v with
          | nil => cases h'
          | cons c v =>
              rw [le_cons] at h h' ⊢
              rcases h with h | ⟨h, ht⟩
              · rcases h' with h' | ⟨h', -⟩
                · exact .inl (Nat.lt_trans h h')
                · exact .inl (h' ▸ h)
              · rcases h' with h' | ⟨h', hu⟩
                · exact .inl (h ▸ h')
                · exact .inr ⟨h.trans h', ih ht hu⟩

/-- Texts of one place in the order are the same. -/
theorem le_antisymm {t u : Text} (h : le t u = true) (h' : le u t = true) :
    t = u := by
  induction t generalizing u with
  | nil =>
      cases u with
      | nil => rfl
      | cons b u => cases h'
  | cons a t ih =>
      cases u with
      | nil => cases h
      | cons b u =>
          rw [le_cons] at h h'
          rcases h with h | ⟨hab, ht⟩
          · omega
          · rcases h' with h' | ⟨-, hu⟩
            · omega
            · rw [← CodePoint.ofNat_toNat a, hab, CodePoint.ofNat_toNat b,
                ih ht hu]

end Text

end Marginalia
