/-
Which texts have an encoding. Digits, literals and what is put together of
them have one; a quoted text has one whatever it is made of, since nothing
that cannot be shown stands in it as itself.
-/
import Marginalia.Text.Quoted
import Marginalia.Proofs.Text.CodePoint

namespace Marginalia

/-- The surrogates lie behind a great many other code points. -/
theorem CodePoint.isSurrogate_of_lt {c : CodePoint} (h : c.toNat < 0xD800) :
    c.isSurrogate = false := by
  cases c with
  | scalar c => rfl
  | surrogate half =>
      have hnumber : (surrogate half).toNat = 0xD800 + half.val := rfl
      omega

namespace Text

-- =============================================================== parts

@[simp] theorem isEncodable_nil : isEncodable [] = true := rfl

theorem isEncodable_cons_eq (c : CodePoint) (t : Text) :
    isEncodable (c :: t) = (!c.isSurrogate && isEncodable t) := List.all_cons

@[simp] theorem isEncodable_scalar_cons (c : Char) (t : Text) :
    isEncodable (.scalar c :: t) = isEncodable t := List.all_cons

@[simp] theorem isEncodable_ofString (s : String) :
    isEncodable (ofString s) = true := by
  refine List.all_eq_true.2 fun c hc => ?_
  obtain ⟨x, -, rfl⟩ := List.mem_map.1 hc
  rfl

@[simp] theorem isEncodable_replicate (n : Nat) (c : Char) :
    isEncodable (List.replicate n (.scalar c)) = true :=
  List.all_eq_true.2 fun x hx => by
    rw [List.eq_of_mem_replicate hx]
    rfl

theorem isEncodable_take {t : Text} (h : t.isEncodable = true) (n : Nat) :
    isEncodable (t.take n) = true :=
  isEncodable_of_subset (List.take_subset n t) h

theorem isEncodable_drop {t : Text} (h : t.isEncodable = true) (n : Nat) :
    isEncodable (t.drop n) = true :=
  isEncodable_of_subset (List.drop_subset n t) h

-- ============================================================== numbers

@[simp] theorem isEncodable_ofNat (n : Nat) : (ofNat n).isEncodable = true := by
  refine List.all_eq_true.2 fun c hc => ?_
  obtain ⟨x, -, rfl⟩ := List.mem_map.1 hc
  rfl

@[simp] theorem isEncodable_ofInt (n : Int) : (ofInt n).isEncodable = true := by
  cases n with
  | ofNat n => exact isEncodable_ofNat n
  | negSucc n => exact isEncodable_ofNat (n + 1)

@[simp] theorem isEncodable_ofHex (width n : Nat) :
    (ofHex width n).isEncodable = true := by
  have hall : ∀ d < 16, (CodePoint.ofHexDigit d).isSurrogate = false := by
    decide
  refine List.all_eq_true.2 fun c hc => ?_
  have hplain := forall_mem_ofHex (p := fun c => c.isSurrogate = false)
    hall width n c hc
  rw [hplain]
  rfl

-- ================================================================ joined

/-- Joined texts have an encoding when all of them have one. -/
theorem isEncodable_joinWith {separator : Text}
    (h : separator.isEncodable = true) (ts : List Text) :
    (joinWith separator ts).isEncodable = ts.all isEncodable := by
  fun_induction joinWith separator ts with
  | case1 => rfl
  | case2 t => exact (Bool.and_true _).symm
  | case3 t ts _ ih =>
      rw [isEncodable_append, isEncodable_append, h, Bool.and_true, ih]
      rfl

-- =============================================================== quoted

/-- No surrogate is shown as itself. -/
theorem isPrintable_of_isSurrogate {c : CodePoint}
    (h : c.isSurrogate = true) : c.isPrintable = false := by
  cases c with
  | scalar c => cases h
  | surrogate half =>
      have hlt := half.isLt
      have hnumber : (CodePoint.surrogate half).toNat = 0xD800 + half.val := rfl
      unfold CodePoint.isPrintable
      rw [hnumber]
      dsimp only
      rw [if_neg (by omega), Bool.not_eq_false', List.any_eq_true]
      refine ⟨(0xD7FC, 0xF8FF), by decide, ?_⟩
      simp only [Bool.and_eq_true, decide_eq_true_eq]
      omega

theorem isEncodable_quotedPoint {quote : Char} (c : CodePoint) :
    (quotedPoint (.scalar quote) c).isEncodable = true := by
  unfold quotedPoint
  split
  · next h =>
    simp only [Bool.or_eq_true, decide_eq_true_eq] at h
    rcases h with rfl | rfl <;> rfl
  · repeat' split
    · simp
    · simp
    · simp
    · next h =>
      cases hc : c.isSurrogate with
      | true =>
          rw [isPrintable_of_isSurrogate hc] at h
          cases h
      | false =>
          rw [isEncodable_cons_eq, hc]
          rfl
    · simp
    · simp
    · simp

/-- A quoted text has an encoding, whatever stands in it. -/
@[simp] theorem isEncodable_quoted (t : Text) :
    t.quoted.isEncodable = true := by
  have hquote : ∃ c : Char, t.quoteFor = .scalar c := by
    unfold quoteFor
    split
    · exact ⟨_, rfl⟩
    · exact ⟨_, rfl⟩
  obtain ⟨quote, hquote⟩ := hquote
  have hpoints : ∀ c ∈ t.flatMap (quotedPoint (.scalar quote)),
      (!c.isSurrogate) = true := by
    intro c hc
    obtain ⟨x, -, hx⟩ := List.mem_flatMap.1 hc
    exact List.all_eq_true.1 (isEncodable_quotedPoint x) c hx
  unfold quoted
  dsimp only
  rw [hquote, isEncodable_append, isEncodable_append,
    show isEncodable (t.flatMap _) = true from List.all_eq_true.2 hpoints]
  rfl

end Text

end Marginalia
