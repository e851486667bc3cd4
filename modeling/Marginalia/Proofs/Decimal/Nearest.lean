/-
The nearest double. A number rounds to the finite double whose value is
nearest to it; of two that are equally near the one with the even significand
is taken; and from half way between the largest finite double and the next
power of two on, the result is infinite. `Rounds` says this without an
algorithm, and a number rounds to one double only (`Rounds.unique`).

# The grid

The doubles of one exponent are the multiples of a power of two with a
significand of 53 bits. Between two neighbours on that grid there is no finite
double of any other exponent (`Canonical.apart`), so a number that lies between
them rounds to the nearer of the two (`isNearest_of_between`). The rest is to
find the exponent (`exponentFor_spec`) and to round a quotient of whole numbers
(`roundHalfEven_spec`); decimals far outside the range of the finite doubles are
settled by their order of magnitude (`rounds_ofDecimal`).
-/
import Mathlib.Algebra.Order.Field.Power
import Mathlib.Data.Rat.Cast.Order
import Mathlib.Tactic.FieldSimp
import Mathlib.Tactic.Linarith
import Mathlib.Tactic.Positivity
import Mathlib.Tactic.Ring
import Marginalia.Decimal.Binary64

namespace Marginalia.Binary64

-- ============================================================= numbers

/-- The number with a significand and an exponent. -/
def magnitude (m : Nat) (e : Int) : ℚ := m * 2 ^ e

/-- The form in which finite doubles are kept: a significand of 53 bits, or
of fewer at the least exponent. -/
structure Canonical (m : Nat) (e : Int) : Prop where
  lt : m < 2 ^ 53
  least : leastExponent ≤ e
  greatest : e ≤ greatestExponent
  full : 2 ^ 52 ≤ m ∨ e = leastExponent

/-- The first number that is too large: half a unit of the last place beyond
the largest finite double. -/
def overflow : ℚ := (2 ^ 53 - 1 / 2) * 2 ^ greatestExponent

/-- The finite double is nearest to the number, and where another one is
equally near, its significand is even. -/
structure IsNearest (q : ℚ) (m : Nat) (e : Int) : Prop where
  canonical : Canonical m e
  nearest : ∀ m' e', Canonical m' e' →
    |magnitude m e - q| ≤ |magnitude m' e' - q|
  even : ∀ m' e', Canonical m' e' →
    |magnitude m e - q| = |magnitude m' e' - q| →
    magnitude m' e' ≠ magnitude m e → m % 2 = 0

/-- The double that a number rounds to, with a sign. -/
inductive Rounds (q : ℚ) (negative : Bool) : Binary64 → Prop
  | finite {m : Nat} {e : Int} (below : q < overflow)
      (nearest : IsNearest q m e) : Rounds q negative (.finite negative m e)
  | infinite (above : overflow ≤ q) : Rounds q negative (.infinite negative)

-- ============================================================== the grid

section Grid

variable {m m' : Nat} {e e' : Int}

theorem magnitude_le_iff : magnitude m e ≤ magnitude m' e ↔ m ≤ m' := by
  unfold magnitude
  rw [mul_le_mul_iff_left₀ (by positivity), Nat.cast_le]

theorem magnitude_lt_iff : magnitude m e < magnitude m' e ↔ m < m' := by
  rw [← not_le, magnitude_le_iff, not_le]

theorem magnitude_succ (m : Nat) (e : Int) :
    magnitude (m + 1) e = magnitude m e + 2 ^ e := by
  unfold magnitude
  push_cast
  ring

/-- A greater exponent is a finer significand. -/
theorem magnitude_add (m k : Nat) (e : Int) :
    magnitude m (e + k) = magnitude (m * 2 ^ k) e := by
  unfold magnitude
  rw [zpow_add₀ two_ne_zero, zpow_natCast]
  push_cast
  ring

theorem magnitude_two_pow (k : Nat) (e : Int) :
    magnitude (2 ^ k) e = 2 ^ (k + e) := by
  unfold magnitude
  rw [zpow_add₀ two_ne_zero, zpow_natCast]
  push_cast
  rfl

/-- Significands of 53 bits grow with the exponent. -/
theorem lt_shifted (h : Canonical m e) {k : Nat} (hk : 0 < k)
    (hm : 2 ^ 52 ≤ m') : m < m' * 2 ^ k := by
  calc m < 2 ^ 52 * 2 ^ 1 := h.lt
    _ ≤ m' * 2 ^ k := Nat.mul_le_mul hm (Nat.pow_le_pow_right (by decide) hk)

/-- No finite double lies between two neighbours on the grid of an
exponent. -/
theorem Canonical.apart (h : Canonical m' e')
    (hfull : 2 ^ 52 ≤ m ∨ e = leastExponent) :
    magnitude m' e' ≤ magnitude m e
      ∨ magnitude (m + 1) e ≤ magnitude m' e' := by
  by_cases he : e ≤ e'
  · obtain ⟨k, rfl⟩ := Int.le.dest he
    rw [magnitude_add, magnitude_le_iff, magnitude_le_iff]
    omega
  · obtain ⟨k, rfl⟩ := Int.le.dest (Int.le_of_not_le he)
    have hleast := h.least
    have hm : 2 ^ 52 ≤ m := hfull.resolve_right (by omega)
    have hlt := lt_shifted h (k := k) (by omega) hm
    rw [magnitude_add, magnitude_le_iff]
    exact .inl (Nat.le_of_lt hlt)

/-- A finite double has one canonical form. -/
theorem Canonical.unique (h : Canonical m e) (h' : Canonical m' e')
    (heq : magnitude m e = magnitude m' e') : m = m' ∧ e = e' := by
  have hno : ∀ {m m' : Nat} {e e' : Int}, Canonical m e → Canonical m' e' →
      e < e' → magnitude m e ≠ magnitude m' e' := by
    intro m m' e e' h h' hlt
    obtain ⟨k, rfl⟩ := Int.le.dest (Int.le_of_lt hlt)
    have hleast := h.least
    have hm : 2 ^ 52 ≤ m' := h'.full.resolve_right (by omega)
    rw [magnitude_add]
    exact ne_of_lt (magnitude_lt_iff.2 (lt_shifted h (by omega) hm))
  rcases Int.lt_trichotomy e e' with hlt | rfl | hlt
  · exact absurd heq (hno h h' hlt)
  · have hle := magnitude_le_iff.1 heq.le
    have hge := magnitude_le_iff.1 heq.ge
    exact ⟨Nat.le_antisymm hle hge, rfl⟩
  · exact absurd heq.symm (hno h' h hlt)

end Grid

-- ============================================================ uniqueness

section Unique

variable {q : ℚ} {m m' : Nat} {e e' : Int}

/-- Of two nearest doubles neither is below the other. -/
theorem IsNearest.not_below (h : IsNearest q m e) (h' : IsNearest q m' e') :
    ¬ magnitude m e < magnitude m' e' := by
  intro hlt
  have hdist : |magnitude m e - q| = |magnitude m' e' - q| :=
    le_antisymm (h.nearest _ _ h'.canonical) (h'.nearest _ _ h.canonical)
  have heven : m % 2 = 0 := h.even _ _ h'.canonical hdist (ne_of_gt hlt)
  have heven' : m' % 2 = 0 :=
    h'.even _ _ h.canonical hdist.symm (ne_of_lt hlt)
  -- both are even, so the next double above the smaller one is a third
  have hnext : magnitude (m + 1) e ≤ magnitude m' e' :=
    (h'.canonical.apart h.canonical.full).resolve_left (not_le.2 hlt)
  have hcanonical : Canonical (m + 1) e := by
    refine ⟨?_, h.canonical.least, h.canonical.greatest, ?_⟩
    · have := h.canonical.lt
      omega
    · exact h.canonical.full.imp_left fun hm => Nat.le_succ_of_le hm
  by_cases heq : magnitude (m + 1) e = magnitude m' e'
  · obtain ⟨rfl, -⟩ := hcanonical.unique h'.canonical heq
    omega
  · have hbetween : magnitude (m + 1) e < magnitude m' e' :=
      lt_of_le_of_ne hnext heq
    have habove : magnitude m e < magnitude (m + 1) e :=
      magnitude_lt_iff.2 (Nat.lt_succ_self m)
    have hhalf : magnitude m e - q = -(magnitude m' e' - q) := by
      rcases abs_eq_abs.1 hdist with hsame | hhalf
      · linarith
      · exact hhalf
    have hnear := h.nearest _ _ hcanonical
    rw [abs_of_neg (by linarith : magnitude m e - q < 0), le_abs] at hnear
    rcases hnear with hnear | hnear <;> linarith

theorem IsNearest.unique (h : IsNearest q m e) (h' : IsNearest q m' e') :
    m = m' ∧ e = e' :=
  h.canonical.unique h'.canonical
    (le_antisymm (not_lt.1 (h'.not_below h)) (not_lt.1 (h.not_below h')))

/-- A number rounds to one double. -/
theorem Rounds.unique {negative : Bool} {x y : Binary64}
    (h : Rounds q negative x) (h' : Rounds q negative y) : x = y := by
  cases h with
  | finite below nearest =>
      cases h' with
      | finite _ nearest' =>
          obtain ⟨rfl, rfl⟩ := nearest.unique nearest'
          rfl
      | infinite above => exact absurd below (not_lt.2 above)
  | infinite above =>
      cases h' with
      | finite below _ => exact absurd below (not_lt.2 above)
      | infinite _ => rfl

end Unique

-- ============================================================== rounding

/-- A number between two neighbours of a grid is nearest to the one that is
not farther from it than the other. -/
theorem isNearest_of_between {q : ℚ} {lower m : Nat} {e e' : Int}
    (hlower : magnitude lower e ≤ q) (hupper : q ≤ magnitude (lower + 1) e)
    (hfull : 2 ^ 52 ≤ lower ∨ e = leastExponent) (hm : Canonical m e')
    (hvalue : (magnitude m e' = magnitude lower e
        ∧ q - magnitude lower e ≤ magnitude (lower + 1) e - q)
      ∨ (magnitude m e' = magnitude (lower + 1) e
        ∧ magnitude (lower + 1) e - q ≤ q - magnitude lower e))
    (htie : q - magnitude lower e = magnitude (lower + 1) e - q →
      m % 2 = 0) : IsNearest q m e' := by
  refine ⟨hm, fun m' e' h' => ?_, fun m' e' h' hdist hne => ?_⟩
  · rcases hvalue with ⟨heq, hle⟩ | ⟨heq, hle⟩
    · rw [heq, abs_of_nonpos (by linarith : magnitude lower e - q ≤ 0), le_abs]
      rcases h'.apart hfull with h | h
      · exact .inr (by linarith)
      · exact .inl (by linarith)
    · rw [heq, abs_of_nonneg (by linarith : 0 ≤ magnitude (lower + 1) e - q),
        le_abs]
      rcases h'.apart hfull with h | h
      · exact .inr (by linarith)
      · exact .inl (by linarith)
  · refine htie ?_
    rcases hvalue with ⟨heq, hle⟩ | ⟨heq, hle⟩
    · rw [heq] at hdist hne
      rw [abs_of_nonpos (by linarith : magnitude lower e - q ≤ 0)] at hdist
      rcases h'.apart hfull with h | h
      · rw [abs_of_nonpos (by linarith : magnitude m' e' - q ≤ 0)] at hdist
        exact absurd (by linarith) hne
      · rw [abs_of_nonneg (by linarith : 0 ≤ magnitude m' e' - q)] at hdist
        linarith
    · rw [heq] at hdist hne
      rw [abs_of_nonneg (by linarith : 0 ≤ magnitude (lower + 1) e - q)]
        at hdist
      rcases h'.apart hfull with h | h
      · rw [abs_of_nonpos (by linarith : magnitude m' e' - q ≤ 0)] at hdist
        linarith
      · rw [abs_of_nonneg (by linarith : 0 ≤ magnitude m' e' - q)] at hdist
        exact absurd (by linarith) hne

-- ============================================================ quotients

/-- A scaled quotient is the quotient divided by a power of the base. -/
theorem scaleDown_spec {base den : Nat} (hbase : 0 < base) (num : Nat)
    (hden : 0 < den) (e : Int) : 0 < (scaleDown base num den e).2
      ∧ ((scaleDown base num den e).1 : ℚ) / (scaleDown base num den e).2
        = num / den / (base : ℚ) ^ e := by
  have hbase' : (base : ℚ) ≠ 0 := Nat.cast_ne_zero.2 hbase.ne'
  have hden' : (den : ℚ) ≠ 0 := Nat.cast_ne_zero.2 hden.ne'
  cases e with
  | ofNat k =>
      refine ⟨Nat.mul_pos hden (Nat.pow_pos hbase), ?_⟩
      show (num : ℚ) / ((den * base ^ k : Nat) : ℚ) = _ / (base : ℚ) ^ (k : Int)
      rw [zpow_natCast, div_div]
      push_cast
      rfl
  | negSucc k =>
      refine ⟨hden, ?_⟩
      show ((num * base ^ (k + 1) : Nat) : ℚ) / den = _
      rw [zpow_negSucc]
      push_cast
      field_simp

/-- A quotient is rounded to the nearer of the two whole numbers around it,
a half to the even one. -/
theorem roundHalfEven_spec {n d : Nat} (hd : 0 < d) {q : ℚ} {e : Int}
    (hq : (n : ℚ) / d = q / 2 ^ e) :
    magnitude (n / d) e ≤ q ∧ q < magnitude (n / d + 1) e
      ∧ ((roundHalfEven n d = n / d
          ∧ q - magnitude (n / d) e ≤ magnitude (n / d + 1) e - q)
        ∨ (roundHalfEven n d = n / d + 1
          ∧ magnitude (n / d + 1) e - q ≤ q - magnitude (n / d) e))
      ∧ (q - magnitude (n / d) e = magnitude (n / d + 1) e - q →
        roundHalfEven n d % 2 = 0) := by
  have hd' : (0 : ℚ) < d := Nat.cast_pos.2 hd
  have hdivide : (n : ℚ) = d * (n / d : Nat) + (n % d : Nat) := by
    exact_mod_cast (Nat.div_add_mod n d).symm
  have hmod : n % d < d := Nat.mod_lt n hd
  have hround : roundHalfEven n d
      = if 2 * (n % d) < d then n / d
        else if d < 2 * (n % d) then n / d + 1 else n / d + n / d % 2 := rfl
  -- a unit has `d` parts, and the number lies `n % d` of them above the lower
  -- neighbour
  obtain ⟨part, hpart, hunit⟩ : ∃ part : ℚ, 0 < part ∧ (2 : ℚ) ^ e = d * part :=
    ⟨2 ^ e / d, by positivity, by field_simp⟩
  have hbelow : q - magnitude (n / d) e = (n % d : Nat) * part := by
    have hq' : q = (d * (n / d : Nat) + (n % d : Nat)) * part := by
      have hpower : (2 : ℚ) ^ e ≠ 0 := by positivity
      rw [← hdivide, ← mul_div_cancel_right₀ q hpower, ← div_mul_eq_mul_div,
        ← hq, hunit]
      field_simp
    rw [hq', magnitude, hunit]
    ring
  have habove : magnitude (n / d + 1) e - q = (d - (n % d : Nat)) * part := by
    rw [magnitude_succ, hunit]
    linarith
  rw [hround, hbelow, habove]
  generalize n / d = lower at *
  generalize n % d = r at *
  have hr : (r : ℚ) < d := Nat.cast_lt.2 hmod
  refine ⟨?_, ?_, ?_, fun htie => ?_⟩
  · have : (0 : ℚ) ≤ r * part := by positivity
    linarith
  · have : 0 < (d - r) * part := mul_pos (by linarith) hpart
    linarith
  · rw [mul_le_mul_iff_left₀ hpart, mul_le_mul_iff_left₀ hpart]
    rcases Nat.lt_trichotomy (2 * r) d with hlt | heq | hgt
    · have : (2 : ℚ) * r < d := by exact_mod_cast hlt
      rw [if_pos hlt]
      exact .inl ⟨rfl, by linarith⟩
    · have : (2 : ℚ) * r = d := by exact_mod_cast heq
      rw [if_neg (by omega), if_neg (by omega)]
      rcases Nat.mod_two_eq_zero_or_one lower with h | h
      · exact .inl ⟨by omega, by linarith⟩
      · exact .inr ⟨by omega, by linarith⟩
    · have : (d : ℚ) < 2 * r := by exact_mod_cast hgt
      rw [if_neg (by omega), if_pos hgt]
      exact .inr ⟨rfl, by linarith⟩
  · have hhalf : (r : ℚ) = d - r := mul_right_cancel₀ hpart.ne' htie
    have heq : 2 * r = d := by
      have : (2 : ℚ) * r = d := by linarith
      exact_mod_cast this
    rw [if_neg (by omega), if_neg (by omega)]
    omega

/-- A quotient of positive numbers lies between powers of two that their
lengths give. -/
theorem two_pow_log2_le {num den : Nat} (hnum : 0 < num) (hden : 0 < den) :
    (2 : ℚ) ^ ((num.log2 : Int) - den.log2 - 1) ≤ num / den
      ∧ (num : ℚ) / den < 2 ^ ((num.log2 : Int) - den.log2 + 1) := by
  have hden' : (0 : ℚ) < den := Nat.cast_pos.2 hden
  have hnumLow : (2 : ℚ) ^ num.log2 ≤ num := by
    exact_mod_cast Nat.log2_self_le hnum.ne'
  have hnumHigh : (num : ℚ) < 2 ^ (num.log2 + 1) := by
    exact_mod_cast Nat.lt_log2_self
  have hdenLow : (2 : ℚ) ^ den.log2 ≤ den := by
    exact_mod_cast Nat.log2_self_le hden.ne'
  have hdenHigh : (den : ℚ) < 2 ^ (den.log2 + 1) := by
    exact_mod_cast Nat.lt_log2_self
  generalize num.log2 = a at *
  generalize den.log2 = b at *
  constructor
  · rw [le_div_iff₀ hden']
    calc (2 : ℚ) ^ ((a : Int) - b - 1) * den
        ≤ 2 ^ ((a : Int) - b - 1) * 2 ^ (b + 1) := by gcongr
      _ = 2 ^ a := by
          rw [← zpow_natCast, ← zpow_natCast, ← zpow_add₀ two_ne_zero]
          congr 1
          push_cast
          ring
      _ ≤ num := hnumLow
  · rw [div_lt_iff₀ hden']
    calc (num : ℚ) < 2 ^ (a + 1) := hnumHigh
      _ = 2 ^ ((a : Int) - b + 1) * 2 ^ b := by
          rw [← zpow_natCast, ← zpow_natCast, ← zpow_add₀ two_ne_zero]
          congr 1
          push_cast
          ring
      _ ≤ 2 ^ ((a : Int) - b + 1) * den := by gcongr

/-- The whole part of a scaled quotient has 53 bits at most when the quotient
is small enough. -/
theorem scaled_lt_iff {num den : Nat} (hden : 0 < den) (e : Int) :
    (scaleDown 2 num den e).1 / (scaleDown 2 num den e).2 < Nat.pow 2 53
      ↔ (num : ℚ) / den < magnitude (2 ^ 53) e := by
  obtain ⟨hd, hq⟩ := scaleDown_spec Nat.two_pos num hden e
  have hd' : (0 : ℚ) < (scaleDown 2 num den e).2 := Nat.cast_pos.2 hd
  have hunit : (0 : ℚ) < 2 ^ e := by positivity
  rw [Nat.cast_ofNat] at hq
  calc _ ↔ (scaleDown 2 num den e).1
          < 2 ^ 53 * (scaleDown 2 num den e).2 := Nat.div_lt_iff_lt_mul hd
    _ ↔ ((scaleDown 2 num den e).1 : ℚ) / (scaleDown 2 num den e).2
          < 2 ^ 53 := by
        rw [div_lt_iff₀ hd']
        exact_mod_cast Iff.rfl
    _ ↔ (num : ℚ) / den < magnitude (2 ^ 53) e := by
        rw [hq, div_lt_iff₀ hunit, magnitude]
        push_cast
        rfl

/-- The exponent for a quotient leaves 53 bits in front of the point, or
fewer at the least exponent. -/
theorem exponentFor_spec {num den : Nat} (hnum : 0 < num) (hden : 0 < den) :
    leastExponent ≤ exponentFor num den
      ∧ (num : ℚ) / den < magnitude (2 ^ 53) (exponentFor num den)
      ∧ (magnitude (2 ^ 52) (exponentFor num den) ≤ (num : ℚ) / den
        ∨ exponentFor num den = leastExponent) := by
  obtain ⟨hlow, hhigh⟩ := two_pow_log2_le hnum hden
  obtain ⟨guess, hguess⟩ : ∃ guess : Int,
      guess = (num.log2 : Int) - den.log2 - 53 := ⟨_, rfl⟩
  -- the guess is right or one too small
  obtain ⟨e, he, hle, hlt⟩ : ∃ e, exponentFor num den = max e leastExponent
      ∧ magnitude (2 ^ 52) e ≤ (num : ℚ) / den
      ∧ (num : ℚ) / den < magnitude (2 ^ 53) e := by
    by_cases hsmall : (num : ℚ) / den < magnitude (2 ^ 53) guess
    · refine ⟨guess, ?_, ?_, hsmall⟩
      · unfold exponentFor
        dsimp only
        rw [← hguess, if_pos ((scaled_lt_iff hden guess).2 hsmall)]
      · rw [magnitude_two_pow, show ((52 : Nat) : Int) + guess
          = num.log2 - den.log2 - 1 by omega]
        exact hlow
    · refine ⟨guess + 1, ?_, ?_, ?_⟩
      · unfold exponentFor
        dsimp only
        rw [← hguess, if_neg fun h => hsmall ((scaled_lt_iff hden guess).1 h)]
      · rw [not_lt, magnitude_two_pow] at hsmall
        rw [magnitude_two_pow, show ((52 : Nat) : Int) + (guess + 1)
          = (53 : Nat) + guess by omega]
        exact hsmall
      · rw [magnitude_two_pow, show ((53 : Nat) : Int) + (guess + 1)
          = num.log2 - den.log2 + 1 by omega]
        exact hhigh
  rw [he]
  by_cases hleast : leastExponent ≤ e
  · rw [max_eq_left hleast]
    exact ⟨hleast, hlt, .inl hle⟩
  · rw [max_eq_right (le_of_not_ge hleast)]
    refine ⟨le_refl _, lt_of_lt_of_le hlt ?_, .inr rfl⟩
    rw [magnitude_two_pow, magnitude_two_pow]
    exact zpow_le_zpow_right₀ one_le_two (by omega)

-- ============================================================== overflow

section Overflow

variable {m : Nat} {e : Int}

theorem magnitude_mono {e' : Int} (h : e ≤ e') (m : Nat) :
    magnitude m e ≤ magnitude m e' := by
  unfold magnitude
  have := zpow_le_zpow_right₀ (one_le_two (α := ℚ)) h
  gcongr

/-- The first number that is too large lies half way between the largest
finite double and the next power of two. -/
theorem two_overflow : 2 * overflow
    = magnitude (2 ^ 53 - 1) greatestExponent
      + magnitude (2 ^ 53 - 1 + 1) greatestExponent := by
  unfold overflow magnitude
  push_cast
  ring

/-- The finite doubles are not too large. -/
theorem Canonical.lt_overflow (h : Canonical m e) :
    magnitude m e < overflow := by
  have hm : m ≤ 2 ^ 53 - 1 := Nat.le_sub_one_of_lt h.lt
  have hle : magnitude m e ≤ magnitude (2 ^ 53 - 1) greatestExponent :=
    (magnitude_le_iff.2 hm).trans (magnitude_mono h.greatest _)
  have hlt : magnitude (2 ^ 53 - 1) greatestExponent
      < magnitude (2 ^ 53 - 1 + 1) greatestExponent :=
    magnitude_lt_iff.2 (Nat.lt_succ_self _)
  linarith [two_overflow]

/-- Significands of 53 bits with greater exponents are too large. -/
theorem overflow_lt (he : greatestExponent < e) (hm : 2 ^ 52 ≤ m) :
    overflow < magnitude m e := by
  have hle : magnitude (2 ^ 53 - 1 + 1) greatestExponent ≤ magnitude m e := by
    have hshift := magnitude_add (2 ^ 52) 1 greatestExponent
    calc magnitude (2 ^ 53 - 1 + 1) greatestExponent
        = magnitude (2 ^ 52) (greatestExponent + 1) := hshift.symm
      _ ≤ magnitude (2 ^ 52) e := magnitude_mono he _
      _ ≤ magnitude m e := magnitude_le_iff.2 hm
  have hlt : magnitude (2 ^ 53 - 1) greatestExponent
      < magnitude (2 ^ 53 - 1 + 1) greatestExponent :=
    magnitude_lt_iff.2 (Nat.lt_succ_self _)
  linarith [two_overflow]

end Overflow

-- ============================================================== quotients

/-- Zero is nearest up to half of the least finite double. -/
theorem rounds_zero {q : ℚ} (negative : Bool) (hnonneg : 0 ≤ q)
    (hsmall : 2 * q ≤ magnitude 1 leastExponent) :
    Rounds q negative (zero negative) := by
  have hzero : magnitude 0 leastExponent = 0 := by
    unfold magnitude
    simp
  have hcanonical : Canonical 0 leastExponent :=
    ⟨by decide, le_refl _, by decide, .inr rfl⟩
  have hone : Canonical 1 leastExponent :=
    ⟨by decide, le_refl _, by decide, .inr rfl⟩
  have hlower : magnitude 0 leastExponent ≤ q := by
    rw [hzero]
    exact hnonneg
  have hupper : q ≤ magnitude (0 + 1) leastExponent := by linarith
  have hnear : q - magnitude 0 leastExponent
      ≤ magnitude (0 + 1) leastExponent - q := by linarith
  refine .finite ?_ (isNearest_of_between hlower hupper (.inr rfl) hcanonical
    (.inl ⟨rfl, hnear⟩) fun _ => rfl)
  linarith [hone.lt_overflow]

section Neighbours

variable {q : ℚ} {lower m : Nat} {e : Int} (negative : Bool)

/-- With an exponent that is too large the lower neighbour is too large
already. -/
theorem overflow_le_of_lt (hgt : greatestExponent < e)
    (hfull : 2 ^ 52 ≤ lower ∨ e = leastExponent)
    (hlower : magnitude lower e ≤ q) : overflow ≤ q := by
  have hlow : 2 ^ 52 ≤ lower := hfull.resolve_right fun he => by
    rw [he] at hgt
    exact absurd hgt (by decide)
  exact (overflow_lt hgt hlow).le.trans hlower

/-- A number that is rounded up from the greatest significand gets the least
one of the next exponent. -/
theorem rounds_next (hleast : leastExponent ≤ e)
    (hlower : magnitude (2 ^ 53 - 1) e ≤ q)
    (hupper : q < magnitude (2 ^ 53 - 1 + 1) e)
    (hup : magnitude (2 ^ 53 - 1 + 1) e - q ≤ q - magnitude (2 ^ 53 - 1) e) :
    Rounds q negative
      (if greatestExponent < e + 1 then .infinite negative
      else .finite negative (2 ^ 52) (e + 1)) := by
  have hfull : 2 ^ 52 ≤ 2 ^ 53 - 1 ∨ e = leastExponent := .inl (by decide)
  by_cases hgt : greatestExponent < e + 1
  · rw [if_pos hgt]
    refine .infinite ?_
    rcases Int.lt_or_eq_of_le (Int.lt_add_one_iff.1 hgt) with hlt | rfl
    · exact overflow_le_of_lt hlt hfull hlower
    · linarith [two_overflow]
  · rw [if_neg hgt]
    have hcanonical : Canonical (2 ^ 52) (e + 1) :=
      ⟨by decide, by omega, Int.not_lt.1 hgt, .inl (le_refl _)⟩
    have hvalue : magnitude (2 ^ 52) (e + 1) = magnitude (2 ^ 53 - 1 + 1) e :=
      magnitude_add (2 ^ 52) 1 e
    refine .finite ?_ (isNearest_of_between hlower hupper.le hfull hcanonical
      (.inr ⟨hvalue, hup⟩) fun _ => rfl)
    linarith [hcanonical.lt_overflow]

/-- A number that is rounded to a significand of 53 bits keeps the exponent. -/
theorem rounds_kept (hleast : leastExponent ≤ e) (hsmall : lower < 2 ^ 53)
    (hfull : 2 ^ 52 ≤ lower ∨ e = leastExponent)
    (hlower : magnitude lower e ≤ q) (hupper : q < magnitude (lower + 1) e)
    (hround : (m = lower
        ∧ q - magnitude lower e ≤ magnitude (lower + 1) e - q)
      ∨ (m = lower + 1
        ∧ magnitude (lower + 1) e - q ≤ q - magnitude lower e))
    (htie : q - magnitude lower e = magnitude (lower + 1) e - q →
      m % 2 = 0) (hkept : m ≠ 2 ^ 53) :
    Rounds q negative
      (if greatestExponent < e then .infinite negative
      else .finite negative m e) := by
  by_cases hgt : greatestExponent < e
  · rw [if_pos hgt]
    exact .infinite (overflow_le_of_lt hgt hfull hlower)
  · rw [if_neg hgt]
    have he : e ≤ greatestExponent := Int.not_lt.1 hgt
    have hcanonical : Canonical m e := by
      refine ⟨?_, hleast, he, ?_⟩
      · omega
      · exact hfull.imp_left fun hlow => by omega
    have hvalue : (magnitude m e = magnitude lower e
          ∧ q - magnitude lower e ≤ magnitude (lower + 1) e - q)
        ∨ (magnitude m e = magnitude (lower + 1) e
          ∧ magnitude (lower + 1) e - q ≤ q - magnitude lower e) := by
      rcases hround with ⟨rfl, hle⟩ | ⟨rfl, hle⟩
      · exact .inl ⟨rfl, hle⟩
      · exact .inr ⟨rfl, hle⟩
    refine .finite ?_ (isNearest_of_between hlower hupper.le hfull hcanonical
      hvalue htie)
    by_cases htop : lower + 1 < 2 ^ 53
    · have hnext : Canonical (lower + 1) e :=
        ⟨htop, hleast, he, hfull.imp_left Nat.le_succ_of_le⟩
      exact hupper.trans hnext.lt_overflow
    · -- the largest significand is odd, so a tie would have been carried
      obtain rfl : lower = 2 ^ 53 - 1 := by omega
      obtain ⟨rfl, hle⟩ := hround.resolve_right fun h => hkept h.1
      have hne := mt htie (by decide)
      have hlt := lt_of_le_of_ne hle hne
      have := magnitude_mono he (2 ^ 53 - 1)
      have := magnitude_mono he (2 ^ 53 - 1 + 1)
      linarith [two_overflow]

/-- A number between two neighbours on the grid of its exponent rounds to the
one that is not farther; a significand that gets one bit too many is carried to
the next exponent. -/
theorem rounds_carried (hleast : leastExponent ≤ e) (hsmall : lower < 2 ^ 53)
    (hfull : 2 ^ 52 ≤ lower ∨ e = leastExponent)
    (hlower : magnitude lower e ≤ q) (hupper : q < magnitude (lower + 1) e)
    (hround : (m = lower
        ∧ q - magnitude lower e ≤ magnitude (lower + 1) e - q)
      ∨ (m = lower + 1
        ∧ magnitude (lower + 1) e - q ≤ q - magnitude lower e))
    (htie : q - magnitude lower e = magnitude (lower + 1) e - q →
      m % 2 = 0) :
    Rounds q negative
      (if m = 2 ^ 53 then
        if greatestExponent < e + 1 then .infinite negative
        else .finite negative (2 ^ 52) (e + 1)
      else if greatestExponent < e then .infinite negative
      else .finite negative m e) := by
  by_cases hcarry : m = 2 ^ 53
  · obtain ⟨rfl, hup⟩ : lower = 2 ^ 53 - 1
        ∧ magnitude (lower + 1) e - q ≤ q - magnitude lower e := by
      rcases hround with ⟨hm, -⟩ | ⟨hm, hle⟩
      · omega
      · exact ⟨by omega, hle⟩
    rw [if_pos hcarry]
    exact rounds_next negative hleast hlower hupper hup
  · rw [if_neg hcarry]
    exact rounds_kept negative hleast hsmall hfull hlower hupper hround htie
      hcarry

end Neighbours

/-- A quotient is rounded to the nearest double. -/
theorem rounds_ofQuotient (negative : Bool) {num den : Nat} (hden : 0 < den) :
    Rounds (num / den) negative (ofQuotient negative num den) := by
  by_cases hnum : num = 0
  · unfold ofQuotient
    rw [if_pos hnum, hnum, Nat.cast_zero, zero_div]
    refine rounds_zero negative (le_refl _) ?_
    rw [mul_zero, magnitude]
    positivity
  obtain ⟨hleast, hlt, hfull⟩ := exponentFor_spec (Nat.pos_of_ne_zero hnum) hden
  obtain ⟨hd, hscaled⟩ := scaleDown_spec Nat.two_pos num hden
    (exponentFor num den)
  rw [Nat.cast_ofNat] at hscaled
  have hsmall := (scaled_lt_iff hden _).2 hlt
  obtain ⟨hlower, hupper, hround, htie⟩ := roundHalfEven_spec hd hscaled
  have hlow := hfull.imp_left fun hle => Nat.lt_succ_iff.1
    (magnitude_lt_iff.1 (lt_of_le_of_lt hle hupper))
  have hrounds := rounds_carried negative hleast hsmall hlow hlower hupper
    hround htie
  unfold ofQuotient
  rw [if_neg hnum]
  dsimp only
  split at hrounds
  · next hcarry =>
    rw [if_pos (show _ = Nat.pow 2 53 from hcarry)]
    exact hrounds
  · next hcarry =>
    rw [if_neg (show ¬ _ = Nat.pow 2 53 from hcarry)]
    exact hrounds

-- ============================================================== decimals

/-- A power of two has more than 30102 decimal places for every 100000 binary
ones. -/
theorem ten_pow_le (n : Nat) : 10 ^ (n * 30102 / 100000) ≤ 2 ^ n := by
  obtain ⟨k, hk⟩ : ∃ k, k = n * 30102 / 100000 := ⟨_, rfl⟩
  have hrate : 10 ^ 59 ≤ 2 ^ 196 := by decide
  rw [← hk]
  refine le_of_pow_le_pow_left₀ (n := 196) (by decide) (Nat.zero_le _) ?_
  calc (10 ^ k) ^ 196 = 10 ^ (k * 196) := (pow_mul ..).symm
    _ ≤ 10 ^ (59 * n) := Nat.pow_le_pow_right (by decide) (by omega)
    _ = (10 ^ 59) ^ n := pow_mul ..
    _ ≤ (2 ^ 196) ^ n := Nat.pow_le_pow_left hrate n
    _ = (2 ^ n) ^ 196 := by rw [← pow_mul, ← pow_mul, Nat.mul_comm]

/-- A power of two has fewer than 30103 decimal places for every 100000 binary
ones. -/
theorem two_pow_le (n : Nat) : 2 ^ n ≤ 10 ^ (n * 30103 / 100000 + 1) := by
  obtain ⟨k, hk⟩ : ∃ k, k = n * 30103 / 100000 := ⟨_, rfl⟩
  have hrate : 2 ^ 13301 ≤ 10 ^ 4004 := by decide +kernel
  rw [← hk]
  refine le_of_pow_le_pow_left₀ (n := 13301) (by decide) (Nat.zero_le _) ?_
  calc (2 ^ n) ^ 13301 = (2 ^ 13301) ^ n := by
        rw [← pow_mul, ← pow_mul, Nat.mul_comm]
    _ ≤ (10 ^ 4004) ^ n := Nat.pow_le_pow_left hrate n
    _ = 10 ^ (4004 * n) := (pow_mul ..).symm
    _ ≤ 10 ^ ((k + 1) * 13301) := Nat.pow_le_pow_right (by decide) (by omega)
    _ = (10 ^ (k + 1)) ^ 13301 := pow_mul ..

/-- The number that digits and a power of ten stand for. -/
def decimal (digits : Nat) (exponent : Int) : ℚ := digits * 10 ^ exponent

/-- A decimal below `10 ^ (-399)` is less than half of the least finite
double. -/
theorem decimal_tiny {digits : Nat} {exponent : Int}
    (h : (digits.log2 * 30103 / 100000 : Nat) + exponent < -400) :
    2 * decimal digits exponent ≤ magnitude 1 leastExponent := by
  obtain ⟨k, hk⟩ : ∃ k, k = digits.log2 * 30103 / 100000 := ⟨_, rfl⟩
  rw [← hk] at h
  have hdigits : (digits : ℚ) ≤ 10 ^ (k + 2) := by
    have hlt : digits < 2 ^ (digits.log2 + 1) := Nat.lt_log2_self
    have hle : 2 ^ digits.log2 ≤ 10 ^ (k + 1) := hk ▸ two_pow_le _
    have : digits ≤ 10 ^ (k + 2) := by
      rw [pow_succ] at hlt ⊢
      omega
    exact_mod_cast this
  calc 2 * decimal digits exponent
      ≤ 2 * (10 ^ (k + 2) * 10 ^ exponent) := by
        unfold decimal
        gcongr
    _ = 2 * 10 ^ (((k + 2 : Nat) : Int) + exponent) := by
        rw [zpow_add₀ (by decide), zpow_natCast]
    _ ≤ 2 * 10 ^ (-399 : Int) := by
        gcongr
        · norm_num
        · push_cast
          omega
    _ ≤ 2 * 8 ^ (-399 : Int) := by
        rw [zpow_neg, zpow_neg, zpow_ofNat, zpow_ofNat]
        have := pow_le_pow_left₀ (by norm_num : (0 : ℚ) ≤ 8)
          (by norm_num : (8 : ℚ) ≤ 10) 399
        gcongr
    _ = 2 ^ (1 - 1197 : Int) := by
        rw [show (8 : ℚ) = 2 ^ (3 : Int) by norm_num, ← zpow_mul,
          zpow_sub₀ two_ne_zero, zpow_one, div_eq_mul_inv, ← zpow_neg]
        rfl
    _ ≤ 2 ^ leastExponent := zpow_le_zpow_right₀ one_le_two (by decide)
    _ = magnitude 1 leastExponent := by rw [magnitude, Nat.cast_one, one_mul]

/-- A decimal from `10 ^ 401` on is too large. -/
theorem decimal_huge {digits : Nat} {exponent : Int} (hdigits : digits ≠ 0)
    (h : 400 < (digits.log2 * 30102 / 100000 : Nat) + exponent) :
    overflow ≤ decimal digits exponent := by
  obtain ⟨k, hk⟩ : ∃ k, k = digits.log2 * 30102 / 100000 := ⟨_, rfl⟩
  rw [← hk] at h
  have hle : (10 : ℚ) ^ k ≤ digits := by
    have : 10 ^ k ≤ digits :=
      (hk ▸ ten_pow_le _).trans (Nat.log2_self_le hdigits)
    exact_mod_cast this
  calc overflow ≤ magnitude (2 ^ 52) 1151 :=
        (overflow_lt (by decide) (le_refl _)).le
    _ = 8 ^ (401 : Int) := by
        rw [magnitude_two_pow, show (8 : ℚ) = 2 ^ (3 : Int) by norm_num,
          ← zpow_mul]
        rfl
    _ ≤ 10 ^ (401 : Int) := by
        rw [zpow_ofNat, zpow_ofNat]
        exact pow_le_pow_left₀ (by norm_num) (by norm_num) 401
    _ ≤ 10 ^ ((k : Int) + exponent) := by
        gcongr
        · norm_num
        · omega
    _ = 10 ^ k * 10 ^ exponent := by
        rw [zpow_add₀ (by decide), zpow_natCast]
    _ ≤ decimal digits exponent := by
        unfold decimal
        gcongr

/-- A decimal is rounded to the nearest double. -/
theorem rounds_ofDecimal (negative : Bool) (digits : Nat) (exponent : Int) :
    Rounds (decimal digits exponent) negative
      (ofDecimal negative digits exponent) := by
  have hnonneg : 0 ≤ decimal digits exponent := by
    unfold decimal
    positivity
  unfold ofDecimal
  dsimp only
  split
  · next h =>
    simp only [Bool.or_eq_true, decide_eq_true_eq] at h
    refine rounds_zero negative hnonneg ?_
    rcases h with rfl | h
    · rw [decimal, Nat.cast_zero, zero_mul, mul_zero, magnitude]
      positivity
    · exact decimal_tiny h
  · next hzero =>
    simp only [Bool.or_eq_true, decide_eq_true_eq, not_or] at hzero
    split
    · next h => exact .infinite (decimal_huge hzero.1 h)
    · obtain ⟨hden, hq⟩ := scaleDown_spec (by decide : 0 < 10) digits
        Nat.one_pos (-exponent)
      have hvalue : decimal digits exponent
          = (scaleDown 10 digits 1 (-exponent)).1
            / (scaleDown 10 digits 1 (-exponent)).2 := by
        rw [hq, Nat.cast_one, Nat.cast_ofNat, decimal, zpow_neg,
          div_one, div_inv_eq_mul]
      rw [hvalue]
      exact rounds_ofQuotient negative hden

end Marginalia.Binary64
