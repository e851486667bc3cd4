/-
Whole numbers, written and read. The digits of a number spell it, there is
no zero in front of them unless it is all there is, and a reader takes them
all when nothing behind them would carry the numeral on.
-/
import Mathlib.Data.List.TakeDrop
import Marginalia.Json.Reader
import Marginalia.Proofs.Text.CodePoint
import Marginalia.Proofs.Text.Trim

namespace Marginalia

-- ============================================================ digits

namespace Text

theorem isDigit_of_mem_ofNat {n : Nat} {c : CodePoint} (h : c ∈ ofNat n) :
    c.isDigit = true := by
  obtain ⟨c, hc, rfl⟩ := List.mem_map.1 h
  exact Nat.isDigit_of_mem_toDigits (by decide) (by decide) hc

theorem ofNat_ne_nil (n : Nat) : ofNat n ≠ [] :=
  fun h => Nat.toDigits_ne_nil (List.map_eq_nil_iff.1 h)

/-- The digits of a number spell it. -/
theorem digitsValue_ofNat (n : Nat) : digitsValue (ofNat n) = n := by
  unfold digitsValue ofNat
  rw [List.foldl_map]
  exact Nat.ofDigitChars_ten_toDigits

/-- A number below `10 ^ k` has at most `k` digits. -/
theorem length_ofNat_le {n k : Nat} (hk : 0 < k) :
    (ofNat n).length ≤ k ↔ n < Nat.pow 10 k := by
  unfold ofNat
  rw [List.length_map]
  exact Nat.length_toDigits_le_iff (by decide) hk

/-- The first digit of a number that is not zero is not a zero. -/
theorem ofNat_of_pos {n : Nat} (h : 0 < n) :
    ∃ c rest, ofNat n = c :: rest ∧ c ≠ .scalar '0' := by
  suffices hd : ∃ c rest, Nat.toDigits 10 n = c :: rest ∧ c ≠ '0' by
    obtain ⟨c, rest, hn, hc⟩ := hd
    refine ⟨.scalar c, rest.map .scalar, ?_, fun he => hc ?_⟩
    · unfold ofNat
      rw [hn, List.map_cons]
    · injection he
  induction n using Nat.base_induction 10 (by decide) with
  | single m hm =>
      refine ⟨m.digitChar, [], Nat.toDigits_of_lt_base hm, fun he => ?_⟩
      have hval := Nat.toNat_digitChar_of_lt_ten hm
      rw [he] at hval
      change 48 = 48 + m at hval
      omega
  | digit m k hk hm ih =>
      obtain ⟨c, rest, hcons, hc⟩ := ih hm
      refine ⟨c, rest ++ Nat.toDigits 10 k, ?_, hc⟩
      rw [← Nat.toDigits_append_toDigits (by decide) hm hk, hcons,
        List.cons_append]

end Text

-- =========================================================== numerals

namespace Json

/-- Nothing at the head of a text carries a whole number on. -/
def EndsNumeral (rest : Text) : Prop :=
  ∀ c ∈ rest.head?, c.isDigit = false ∧ c ≠ .scalar '.' ∧ c ≠ .scalar 'e'
    ∧ c ≠ .scalar 'E'

theorem endsNumeral_nil : EndsNumeral [] := by
  intro c hc
  cases hc

theorem endsNumeral_cons {c : CodePoint} (rest : Text)
    (hc : c.isDigit = false ∧ c ≠ .scalar '.' ∧ c ≠ .scalar 'e'
      ∧ c ≠ .scalar 'E') : EndsNumeral (c :: rest) := by
  intro x hx
  rw [List.head?_cons, Option.mem_some_iff] at hx
  exact hx ▸ hc

/-- A run of digits is taken up to where it ends. -/
theorem spanDigits_append {digits rest : Text}
    (hdigits : ∀ c ∈ digits, c.isDigit = true)
    (hrest : ∀ c ∈ rest.head?, c.isDigit = false) :
    spanDigits (digits ++ rest) = (digits, rest) := by
  unfold spanDigits
  rw [List.span_eq_takeWhile_dropWhile, Text.takeWhile_run hdigits hrest,
    Text.dropWhile_run hdigits hrest]

/-- Digits that do not start with a zero are taken up to where they end. -/
theorem readWhole?_digits {c : CodePoint} {digits rest : Text}
    (hc : c ≠ .scalar '0') (hdigits : ∀ d ∈ c :: digits, d.isDigit = true)
    (hrest : ∀ d ∈ rest.head?, d.isDigit = false) :
    readWhole? (c :: digits ++ rest) = some (c :: digits, rest) := by
  rw [List.cons_append, readWhole?, if_neg hc,
    if_pos (hdigits c (List.mem_cons_self ..)), ← List.cons_append,
    spanDigits_append hdigits hrest]

/-- The digits in front of the point are all the digits there are. -/
theorem readWhole?_ofNat (n : Nat) {rest : Text} (hrest : EndsNumeral rest) :
    readWhole? (Text.ofNat n ++ rest) = some (Text.ofNat n, rest) := by
  rcases Nat.eq_zero_or_pos n with rfl | hn
  · rfl
  · obtain ⟨c, digits, hcons, hc⟩ := Text.ofNat_of_pos hn
    have hdigits : ∀ d ∈ c :: digits, d.isDigit = true :=
      fun _ hd => Text.isDigit_of_mem_ofNat (n := n) (hcons ▸ hd)
    rw [hcons]
    exact readWhole?_digits hc hdigits fun d hd => (hrest d hd).1

/-- No fraction is read where there is no point. -/
theorem readFraction_of_ne {rest : Text} (h : rest.head? ≠ some (.scalar '.')) :
    readFraction rest = (none, rest) := by
  unfold readFraction
  split
  · exact absurd rfl h
  · rfl

/-- No fraction is read where a numeral ends. -/
theorem readFraction_of_endsNumeral {rest : Text} (h : EndsNumeral rest) :
    readFraction rest = (none, rest) :=
  readFraction_of_ne fun hpoint => (h _ hpoint).2.1 rfl

/-- No exponent is read where a numeral ends. -/
theorem readExponent_of_endsNumeral {rest : Text} (h : EndsNumeral rest) :
    readExponent rest = (none, rest) := by
  cases rest with
  | nil => rfl
  | cons c rest =>
      obtain ⟨-, -, he, hE⟩ := h c rfl
      have hmark : ¬ (decide (c = .scalar 'e') || decide (c = .scalar 'E'))
          = true := by
        rw [decide_eq_false he, decide_eq_false hE]
        exact Bool.false_ne_true
      simp only [readExponent, if_neg hmark]

/-- No sign is read in front of a digit. -/
theorem readMinus_of_digit {c : CodePoint} (hc : c.isDigit = true)
    (rest : Text) : readMinus (c :: rest) = (false, c :: rest) := by
  unfold readMinus
  split
  · next heq =>
    injection heq with heq
    rw [heq] at hc
    cases hc
  · rfl

/-- No sign is read where there is none. -/
theorem readMinus_ofNat (n : Nat) (rest : Text) :
    readMinus (Text.ofNat n ++ rest) = (false, Text.ofNat n ++ rest) := by
  cases hn : Text.ofNat n with
  | nil => exact absurd hn (Text.ofNat_ne_nil n)
  | cons c digits =>
      exact readMinus_of_digit (Text.isDigit_of_mem_ofNat (n := n)
        (hn ▸ List.mem_cons_self ..)) _

/-- The numeral that is written for a whole number. -/
def Numeral.ofInt : Int → Numeral
  | .ofNat n => ⟨false, Text.ofNat n, none, none⟩
  | .negSucc n => ⟨true, Text.ofNat (n + 1), none, none⟩

theorem Numeral.whole_ofInt (n : Int) :
    (Numeral.ofInt n).whole = Text.ofNat n.natAbs := by
  cases n <;> rfl

theorem Numeral.isWhole_ofInt (n : Int) : (Numeral.ofInt n).isWhole = true := by
  cases n <;> rfl

theorem Numeral.toInt_ofInt (n : Int) : (Numeral.ofInt n).toInt = n := by
  cases n with
  | ofNat n =>
      show ((Text.digitsValue (Text.ofNat n) : Nat) : Int) = n
      rw [Text.digitsValue_ofNat]
  | negSucc n =>
      show -((Text.digitsValue (Text.ofNat (n + 1)) : Nat) : Int) = _
      rw [Text.digitsValue_ofNat]
      rfl

/-- A whole number is read back as the numeral that was written. -/
theorem readNumeral?_ofInt (n : Int) {rest : Text} (h : EndsNumeral rest) :
    readNumeral? (Text.ofInt n ++ rest) = some (.ofInt n, rest) := by
  cases n with
  | ofNat n =>
      show readNumeral? (Text.ofNat n ++ rest) = _
      unfold readNumeral?
      rw [readMinus_ofNat]
      dsimp only
      rw [readWhole?_ofNat n h]
      dsimp only
      rw [readFraction_of_endsNumeral h, readExponent_of_endsNumeral h]
      rfl
  | negSucc n =>
      show readNumeral? (.scalar '-' :: (Text.ofNat (n + 1) ++ rest)) = _
      unfold readNumeral?
      rw [show readMinus (.scalar '-' :: (Text.ofNat (n + 1) ++ rest))
        = (true, Text.ofNat (n + 1) ++ rest) from rfl]
      dsimp only
      rw [readWhole?_ofNat (n + 1) h]
      dsimp only
      rw [readFraction_of_endsNumeral h, readExponent_of_endsNumeral h]
      rfl

/-- A number within the limit of digits has the value that was written. -/
theorem Numeral.value_ofInt {n : Int} (h : DigitLimit.canWrite n = true)
    (whole left : Text) :
    (Numeral.ofInt n).value whole left = .ok (.int n) := by
  have hlength : (Text.ofNat n.natAbs).length ≤ DigitLimit.digits :=
    (Text.length_ofNat_le (by decide)).2 (of_decide_eq_true h)
  unfold Numeral.value
  rw [if_pos (Numeral.isWhole_ofInt n), Numeral.whole_ofInt,
    if_neg (Nat.not_lt.2 hlength), Numeral.toInt_ofInt]

end Json

end Marginalia
