/-
Where strings, blocks and lists end, by the columns of the text they stand
in. A string ends at the first quote behind its opening one with an even run
of backslashes right before it: backslashes pair off from the left, so only
the last one of an odd run escapes what follows. A block ends at the first
closing brace outside strings that brings the depth, counted outside strings
from its opening brace on, back to zero, and a list at the first closing
bracket outside strings (`ends_by_columns`).

Being outside strings is said without the walk that keeps track of it: strings
are taken off a text one after the other, each from the first quote up to the
one that closes it (`OutsideAt`).

# The search

The three searches are one: the walk goes on until it may stop, and what it
finds is the first column where that is so (`search_eq_some_iff`).
-/
import Mathlib.Algebra.Group.Nat.Even
import Mathlib.Order.Bounds.Basic
import Mathlib.Order.Nat
import Marginalia.Proofs.Text.Occurrence
import Marginalia.Proofs.Text.Spans

namespace Marginalia.Text

-- ======================================================= least columns

section Least

variable {P Q : Nat → Prop} {k m : Nat}

theorem isLeast_iff : IsLeast {i | P i} k ↔ P k ∧ ∀ i < k, ¬ P i :=
  ⟨fun h => ⟨h.1, fun _ hi hp => Nat.not_le.2 hi (h.2 hp)⟩,
    fun h => ⟨h.1, fun _ hp => Nat.le_of_not_lt fun hi => h.2 _ hi hp⟩⟩

theorem exists_isLeast (h : Exists P) : ∃ k, IsLeast {i | P i} k := by
  classical
  exact ⟨Nat.find h, Nat.find_spec h, fun _ hp => Nat.find_min' h hp⟩

/-- Two properties that agree as long as the second has not come hold first
at the same column. -/
theorem isLeast_congr (h : ∀ k, (∀ i < k, ¬ Q i) → (P k ↔ Q k)) :
    IsLeast {i | P i} k ↔ IsLeast {i | Q i} k := by
  rw [isLeast_iff, isLeast_iff]
  constructor
  · rintro ⟨hk, hfirst⟩
    have hnone : ∀ i < k, ¬ Q i := by
      intro i
      induction i using Nat.strong_induction_on with
      | _ i ih =>
          intro hi hq
          have hbefore : ∀ j < i, ¬ Q j := fun j hj => ih j hj (hj.trans hi)
          exact hfirst i hi ((h i hbefore).2 hq)
    exact ⟨(h k hnone).1 hk, hnone⟩
  · rintro ⟨hk, hnone⟩
    exact ⟨(h k hnone).2 hk, fun i hi hp =>
      hnone i hi ((h i fun j hj => hnone j (hj.trans hi)).1 hp)⟩

/-- Columns counted from `m` on, where nothing before `m` counts. -/
theorem isLeast_add_iff (hle : ∀ j, Q j → m ≤ j)
    (h : ∀ k, Q (m + k) ↔ P k) :
    IsLeast {j | Q j} (m + k) ↔ IsLeast {i | P i} k := by
  rw [isLeast_iff, isLeast_iff, h]
  refine and_congr_right fun _ => ⟨fun hfirst i hi hp => ?_,
    fun hfirst j hj hq => ?_⟩
  · exact hfirst (m + i) (by omega) ((h i).2 hp)
  · obtain ⟨i, rfl⟩ := Nat.exists_eq_add_of_le (hle j hq)
    exact hfirst i (by omega) ((h i).1 hq)

end Least

-- ============================================================== slices

theorem slice_add (t : Text) (start n : Nat) :
    t.slice start (start + n) = (t.drop start).take n := by
  unfold slice
  rw [List.drop_take, Nat.add_sub_cancel_left]

theorem slice_append {t : Text} {a b c : Nat} (hab : a ≤ b) (hbc : b ≤ c) :
    t.slice a b ++ t.slice b c = t.slice a c := by
  obtain ⟨m, rfl⟩ := Nat.exists_eq_add_of_le hab
  obtain ⟨n, rfl⟩ := Nat.exists_eq_add_of_le hbc
  rw [Nat.add_assoc, slice_add, slice_add, ← Nat.add_assoc, slice_add,
    List.take_add, List.drop_drop]

theorem slice_succ (t : Text) (j : Nat) :
    t.slice j (j + 1) = t[j]?.toList := by
  rw [slice_add, ← List.head?_drop]
  cases t.drop j <;> rfl

/-- What stands in a slice stands at one of its columns. -/
theorem mem_slice_iff {t : Text} {c : CodePoint} {a b : Nat} :
    c ∈ t.slice a b ↔ ∃ i, a ≤ i ∧ i < b ∧ t[i]? = some c := by
  unfold slice
  rw [List.mem_iff_getElem?]
  constructor
  · rintro ⟨i, hi⟩
    rw [List.getElem?_drop, List.getElem?_take] at hi
    split at hi
    · exact ⟨a + i, Nat.le_add_right .., ‹_›, hi⟩
    · cases hi
  · rintro ⟨i, ha, hb, hi⟩
    refine ⟨i - a, ?_⟩
    rw [List.getElem?_drop, Nat.add_sub_cancel' ha, List.getElem?_take,
      if_pos hb, hi]

-- ============================================================= searches

section Search

variable {σ : Type} (step : σ → CodePoint → σ) (stops : σ → CodePoint → Prop)
  [∀ s c, Decidable (stops s c)]

/-- How far it is to the first code point at which a walk may stop, that one
counted too. -/
def search (s : σ) : Text → Option Nat
  | [] => none
  | c :: t =>
    if stops s c then some 1 else (search (step s c) t).map (· + 1)

/-- The walk may stop at a column. -/
def StopsAt (s : σ) (t : Text) (k : Nat) : Prop :=
  ∃ c, t[k]? = some c ∧ stops ((t.take k).foldl step s) c

variable {step stops}

/-- A search finds the first column where the walk may stop. -/
theorem search_eq_some_iff {s : σ} {t : Text} {n : Nat} :
    search step stops s t = some n
      ↔ ∃ k, n = k + 1 ∧ IsLeast {k | StopsAt step stops s t k} k := by
  induction t generalizing s n with
  | nil =>
      refine ⟨nofun, ?_⟩
      rintro ⟨k, -, ⟨c, hc, -⟩, -⟩
      cases hc
  | cons c t ih =>
      have hzero : StopsAt step stops s (c :: t) 0 ↔ stops s c :=
        ⟨fun ⟨x, hx, h⟩ => Option.some.inj hx ▸ h, fun h => ⟨c, rfl, h⟩⟩
      rw [search]
      split
      · next hstop =>
        constructor
        · intro h
          cases h
          exact ⟨0, rfl, hzero.2 hstop, fun _ _ => Nat.zero_le _⟩
        · rintro ⟨k, rfl, hk⟩
          rw [Nat.le_zero.1 (hk.2 (hzero.2 hstop))]
      · next hgo =>
        -- what the rest of the text finds is found one column later
        have hrest : ∀ k, IsLeast {k | StopsAt step stops s (c :: t) k} (1 + k)
            ↔ IsLeast {k | StopsAt step stops (step s c) t k} k := by
          intro k
          refine isLeast_add_iff (fun j hj => ?_) fun i => ?_
          · cases j with
            | zero => exact absurd (hzero.1 hj) hgo
            | succ j => omega
          · rw [Nat.add_comm 1 i]
            exact Iff.rfl
        rw [Option.map_eq_some_iff]
        constructor
        · rintro ⟨m, hm, rfl⟩
          obtain ⟨k, rfl, hk⟩ := ih.1 hm
          exact ⟨1 + k, by omega, (hrest k).2 hk⟩
        · rintro ⟨k, rfl, hk⟩
          cases k with
          | zero => exact absurd (hzero.1 hk.1) hgo
          | succ k =>
              rw [Nat.add_comm k 1] at hk
              exact ⟨k + 1, ih.2 ⟨k, rfl, (hrest k).1 hk⟩, rfl⟩

end Search

-- ============================================================= strings

/-- How many backslashes stand side by side at the end of a text. -/
def slashRun (t : Text) : Nat :=
  (t.reverse.takeWhile (· == .scalar '\\')).length

theorem slashRun_concat (t : Text) (c : CodePoint) :
    slashRun (t ++ [c])
      = if c = .scalar '\\' then slashRun t + 1 else 0 := by
  unfold slashRun
  rw [List.reverse_concat]
  split
  · next hc =>
    rw [List.takeWhile_cons_of_pos (by simp [hc]), List.length_cons]
  · next hc =>
    rw [List.takeWhile_cons_of_neg (by simp [hc]), List.length_nil]

/-- A quote behind the one at column `pos` with an even run of backslashes
right before it, those at `pos` or before it not counted. -/
structure IsBareQuote (t : Text) (pos j : Nat) : Prop where
  behind : pos < j
  quote : t[j]? = some (.scalar '"')
  even : Even (slashRun (t.slice (pos + 1) j))

/-- The same, counted from the first column inside the string. -/
def IsBareIn (t : Text) (k : Nat) : Prop :=
  t[k]? = some (.scalar '"') ∧ Even (slashRun (t.take k))

/-- As long as no bare quote has come a walk through a string is inside, and
just after a backslash when the run of backslashes before it is odd. -/
theorem inside_after_take {t : Text} {k : Nat}
    (h : ∀ i < k, ¬ IsBareIn t i) :
    Quoting.inside.after (t.take k)
      = if Even (slashRun (t.take k)) then .inside else .escaped := by
  induction k with
  | zero => rfl
  | succ k ih =>
      have hbefore := ih fun i hi => h i (Nat.lt_succ_of_lt hi)
      have hquote := h k (Nat.lt_succ_self k)
      rw [List.take_add_one]
      cases hc : t[k]? with
      | none =>
          rw [Option.toList_none, List.append_nil]
          exact hbefore
      | some c =>
          rw [Option.toList_some, slashRun_concat, Quoting.after_append,
            hbefore]
          by_cases heven : Even (slashRun (t.take k))
          · have hne : c ≠ .scalar '"' := fun hq => hquote ⟨hq ▸ hc, heven⟩
            rw [if_pos heven]
            by_cases hslash : c = .scalar '\\'
            · rw [if_pos hslash, if_neg fun h => Nat.even_add_one.1 h heven,
                hslash]
              rfl
            · rw [if_neg hslash, if_pos Even.zero]
              show Quoting.inside.step c = .inside
              rw [Quoting.step, if_neg hslash, if_neg hne]
          · have hodd : Even (slashRun (t.take k) + 1) :=
              Nat.even_add_one.2 heven
            rw [if_neg heven, if_pos]
            · rfl
            · split
              · exact hodd
              · exact Even.zero

/-- A string ends where a walk gets outside. -/
theorem closingQuote_eq_search (q : Quoting) (t : Text) :
    closingQuote q t
      = search Quoting.step (fun q c => q.step c = .outside) q t := by
  induction t generalizing q with
  | nil => rfl
  | cons c t ih => rw [closingQuote_cons, search, ih]

/-- A string ends at its first bare quote. -/
theorem closingQuote_inside_iff {t : Text} {n : Nat} :
    closingQuote .inside t = some n
      ↔ ∃ k, n = k + 1 ∧ IsLeast {k | IsBareIn t k} k := by
  rw [closingQuote_eq_search, search_eq_some_iff]
  refine exists_congr fun k => and_congr_right fun _ => isLeast_congr ?_
  intro k hnone
  have hstate := inside_after_take hnone
  unfold StopsAt IsBareIn
  change (∃ c, t[k]? = some c
    ∧ (Quoting.inside.after (t.take k)).step c = .outside) ↔ _
  rw [hstate]
  split
  · next heven =>
    constructor
    · rintro ⟨c, hc, hstep⟩
      obtain ⟨-, rfl⟩ := Quoting.of_step_outside (by decide) hstep
      exact ⟨hc, heven⟩
    · rintro ⟨hc, -⟩
      exact ⟨_, hc, rfl⟩
  · next hodd =>
    constructor
    · rintro ⟨c, -, hstep⟩
      cases hstep
    · rintro ⟨-, heven⟩
      exact absurd heven hodd

theorem isBareQuote_iff {t : Text} {pos k : Nat} :
    IsBareQuote t pos (pos + 1 + k) ↔ IsBareIn (t.drop (pos + 1)) k := by
  unfold IsBareIn
  rw [List.getElem?_drop, ← slice_add]
  exact ⟨fun h => ⟨h.quote, h.even⟩, fun h => ⟨by omega, h.1, h.2⟩⟩

/-- The first bare quote, counted from the first column inside. -/
theorem isLeast_isBareQuote_iff {t : Text} {pos k : Nat} :
    IsLeast {j | IsBareQuote t pos j} (pos + 1 + k)
      ↔ IsLeast {k | IsBareIn (t.drop (pos + 1)) k} k :=
  isLeast_add_iff (fun _ h => h.behind) fun _ => isBareQuote_iff

-- ===================================================== outside strings

/-- Column `j` lies outside every string of a text that is read from column
`start` on. The strings up to there are taken off one by one, each from the
first quote up to the first bare quote behind it. -/
inductive OutsideAt (t : Text) : Nat → Nat → Prop
  | plain {start j : Nat} (le : start ≤ j)
      (noQuote : ∀ i, start ≤ i → i < j → t[i]? ≠ some (.scalar '"')) :
      OutsideAt t start j
  | string {start opening closing j : Nat} (le : start ≤ opening)
      (noQuote : ∀ i, start ≤ i → i < opening → t[i]? ≠ some (.scalar '"'))
      (quote : t[opening]? = some (.scalar '"'))
      (closes : IsLeast {j | IsBareQuote t opening j} closing)
      (rest : OutsideAt t (closing + 1) j) :
      OutsideAt t start j

theorem not_mem_slice_iff {t : Text} {c : CodePoint} {a b : Nat} :
    c ∉ t.slice a b ↔ ∀ i, a ≤ i → i < b → t[i]? ≠ some c := by
  rw [mem_slice_iff]
  exact ⟨fun h i ha hb hi => h ⟨i, ha, hb, hi⟩,
    fun h ⟨i, ha, hb, hi⟩ => h i ha hb hi⟩

theorem slice_cons {t : Text} {a b : Nat} {c : CodePoint} (h : a < b)
    (hc : t[a]? = some c) : t.slice a b = c :: t.slice (a + 1) b := by
  rw [← slice_append (Nat.le_succ a) h, slice_succ, hc]
  rfl

/-- Behind the bare quote that closes a string a walk is outside. -/
theorem inside_after_closing {t : Text} {opening closing : Nat}
    (h : IsLeast {j | IsBareQuote t opening j} closing) :
    Quoting.inside.after (t.slice (opening + 1) (closing + 1)) = .outside := by
  obtain ⟨k, rfl⟩ := Nat.exists_eq_add_of_le (show opening + 1 ≤ closing from
    h.1.behind)
  obtain ⟨⟨hquote, heven⟩, hfirst⟩ :=
    isLeast_iff.1 (isLeast_isBareQuote_iff.1 h)
  rw [Nat.add_assoc (opening + 1), slice_add, List.take_add_one, hquote,
    Quoting.after_append, inside_after_take hfirst, if_pos heven]
  rfl

/-- A walk that gets outside has met a bare quote. -/
theorem exists_isBareQuote {t : Text} {opening j : Nat}
    (hle : opening + 1 ≤ j)
    (h : Quoting.inside.after (t.slice (opening + 1) j) = .outside) :
    ∃ closing < j, IsLeast {j | IsBareQuote t opening j} closing := by
  obtain ⟨n, rfl⟩ := Nat.exists_eq_add_of_le hle
  rw [slice_add] at h
  by_cases hnone : ∀ i < n, ¬ IsBareIn (t.drop (opening + 1)) i
  · rw [inside_after_take hnone] at h
    split at h <;> cases h
  · obtain ⟨i, hi, hbare⟩ : ∃ i < n, IsBareIn (t.drop (opening + 1)) i := by
      simpa using hnone
    obtain ⟨k, hk⟩ := exists_isLeast ⟨i, hbare⟩
    exact ⟨opening + 1 + k, by have := hk.2 hbare; omega,
      isLeast_isBareQuote_iff.2 hk⟩

/-- The strings that are taken off are those that the walk goes through. -/
theorem outsideAt_iff {t : Text} {start j : Nat} :
    OutsideAt t start j
      ↔ start ≤ j ∧ Quoting.outside.after (t.slice start j) = .outside := by
  constructor
  · intro h
    induction h with
    | plain le noQuote =>
        exact ⟨le, Quoting.after_of_no_quote (not_mem_slice_iff.2 noQuote)⟩
    | @string start opening closing j le noQuote quote closes _ ih =>
        obtain ⟨hle, hafter⟩ := ih
        have hbehind : opening < closing := closes.1.behind
        refine ⟨by omega, ?_⟩
        rw [← slice_append le (show opening ≤ j by omega),
          Quoting.after_append,
          Quoting.after_of_no_quote (not_mem_slice_iff.2 noQuote),
          slice_cons (by omega) quote, Quoting.after_cons,
          ← slice_append (show opening + 1 ≤ closing + 1 by omega) hle,
          Quoting.after_append]
        rw [show Quoting.outside.step (.scalar '"') = .inside from rfl,
          inside_after_closing closes, hafter]
  · rintro ⟨hle, hafter⟩
    induction hn : j - start using Nat.strong_induction_on
      generalizing start with
    | _ n ih =>
        by_cases hquote : .scalar '"' ∈ t.slice start j
        · obtain ⟨opening, hopening⟩ := exists_isLeast
            (P := fun i => start ≤ i ∧ i < j ∧ t[i]? = some (.scalar '"'))
            (mem_slice_iff.1 hquote)
          obtain ⟨⟨hstart, hlt, hquote⟩, hfirst⟩ := isLeast_iff.1 hopening
          have hnone : ∀ i, start ≤ i → i < opening →
              t[i]? ≠ some (.scalar '"') :=
            fun i hi hio hq => hfirst i hio ⟨hi, by omega, hq⟩
          rw [← slice_append hstart hlt.le, Quoting.after_append,
            Quoting.after_of_no_quote (not_mem_slice_iff.2 hnone),
            slice_cons hlt hquote, Quoting.after_cons] at hafter
          obtain ⟨closing, hclosing, hcloses⟩ := exists_isBareQuote hlt hafter
          have hbehind : opening < closing := hcloses.1.behind
          refine .string hstart hnone hquote hcloses
            (ih (j - (closing + 1)) (by omega) (by omega) ?_ rfl)
          change Quoting.inside.after _ = _ at hafter
          rwa [← slice_append (show opening + 1 ≤ closing + 1 by omega)
            (show closing + 1 ≤ j by omega), Quoting.after_append,
            inside_after_closing hcloses] at hafter
        · exact .plain hle (not_mem_slice_iff.1 hquote)

instance (t : Text) (start j : Nat) : Decidable (OutsideAt t start j) :=
  decidable_of_iff _ outsideAt_iff.symm

theorem outsideAt_add {t : Text} {start n : Nat} :
    OutsideAt t start (start + n)
      ↔ Quoting.outside.after ((t.drop start).take n) = .outside := by
  rw [outsideAt_iff, slice_add]
  exact and_iff_right (Nat.le_add_right ..)

/-- How often a code point stands outside strings from column `start` up to
column `stop`. -/
def countOutside (c : CodePoint) (t : Text) (start stop : Nat) : Nat :=
  (List.range' start (stop - start)).countP fun i =>
    t[i]? = some c ∧ OutsideAt t start i

/-- How deep in braces a text is before column `stop`, when it is read from
column `start` on. -/
def braceDepth (t : Text) (start stop : Nat) : Int :=
  countOutside (.scalar '\x7b') t start stop
    - countOutside (.scalar '\x7d') t start stop

theorem countOutside_add (c : CodePoint) (t : Text) (start n : Nat) :
    countOutside c t start (start + n)
      = (Quoting.outside.bare ((t.drop start).take n)).count c := by
  unfold countOutside
  rw [Nat.add_sub_cancel_left]
  induction n with
  | zero => rfl
  | succ n ih =>
      rw [List.range'_concat, List.countP_append, ih, List.take_add_one,
        Quoting.bare_append, List.count_append, List.getElem?_drop, Nat.one_mul]
      congr 1
      rw [List.countP_singleton]
      cases hx : t[start + n]? with
      | none => simp [Quoting.bare]
      | some x =>
          by_cases hq : Quoting.outside.after ((t.drop start).take n) = .outside
          · by_cases hxc : x = c
            · simp [outsideAt_add, hq, Quoting.bare, hxc]
            · simp [outsideAt_add, hq, Quoting.bare, hxc]
          · simp [outsideAt_add, hq, Quoting.bare]

theorem braceDepth_add (t : Text) (start n : Nat) :
    braceDepth t start (start + n)
      = Quoting.outside.braces ((t.drop start).take n) := by
  unfold braceDepth Quoting.braces
  rw [countOutside_add, countOutside_add]

-- ================================================================ ends

/-- The column behind the string that is opened at column `pos`. -/
def stringEnd? (t : Text) (pos : Nat) : Option Nat :=
  (stringSpan (t.drop pos)).map (pos + ·)

/-- The column behind the block that is opened at column `pos`. -/
def blockEnd? (t : Text) (pos : Nat) : Option Nat :=
  (braceSpan (t.drop pos)).map (pos + ·)

/-- The column behind the list that is opened at column `pos`. -/
def listEnd? (t : Text) (pos : Nat) : Option Nat :=
  (bracketSpan (t.drop pos)).map (pos + ·)

/-- A column right behind a closing brace outside strings, with which the
depth is back to zero. -/
structure EndsBlockAt (t : Text) (pos stop : Nat) : Prop where
  behind : pos < stop
  within : stop ≤ t.length
  brace : t[stop - 1]? = some (.scalar '\x7d')
  outside : OutsideAt t pos (stop - 1)
  closed : braceDepth t pos stop = 0

/-- A column right behind a closing bracket outside strings. What stands at
column `pos` opens the list and is not read. -/
structure EndsListAt (t : Text) (pos stop : Nat) : Prop where
  behind : pos + 1 < stop
  within : stop ≤ t.length
  bracket : t[stop - 1]? = some (.scalar ']')
  outside : OutsideAt t (pos + 1) (stop - 1)

/-- One step of the search for the brace that closes a block, which keeps the
braces that are open. -/
def braceStep (s : Quoting × Int) (c : CodePoint) : Quoting × Int :=
  (s.1.step c, s.2 + s.1.brace c)

theorem foldl_braceStep (q : Quoting) (depth : Int) (t : Text) :
    t.foldl braceStep (q, depth) = (q.after t, depth + q.braces t) := by
  induction t generalizing q depth with
  | nil => simp
  | cons c t ih =>
      rw [List.foldl_cons, braceStep, ih, Quoting.braces_cons, Int.add_assoc]
      rfl

theorem braces_concat (q : Quoting) (t : Text) (c : CodePoint) :
    q.braces (t ++ [c]) = q.braces t + (q.after t).brace c := by
  induction t generalizing q with
  | nil => simp [Quoting.braces_cons]
  | cons x t ih =>
      rw [List.cons_append, Quoting.braces_cons, ih, Quoting.braces_cons,
        Quoting.after_cons, Int.add_assoc]

instance (q : Quoting) (depth : Int) (c : CodePoint) :
    Decidable (EndsBlock q depth c) :=
  inferInstanceAs (Decidable (_ ∧ _ ∧ _))

theorem braceSpanFrom_eq_search (q : Quoting) (depth : Int) (t : Text) :
    braceSpanFrom q depth t
      = search braceStep (fun s c => EndsBlock s.1 s.2 c) (q, depth) t := by
  induction t generalizing q depth with
  | nil => rfl
  | cons c t ih =>
      rw [search]
      split
      · next hend => exact braceSpanFrom_end hend t
      · next hmore =>
        rw [braceSpanFrom_more hmore, ih]
        rfl

theorem bracketSpanFrom_eq_search (q : Quoting) (t : Text) :
    bracketSpanFrom q t
      = search Quoting.step (fun q c => q = .outside ∧ c = .scalar ']') q t
    := by
  induction t generalizing q with
  | nil => rfl
  | cons c t ih => rw [bracketSpanFrom, search, ih]

/-- What is found behind column `m`, counted from there, is found at a column
of the whole text. -/
theorem map_add_eq_some_iff {P Q : Nat → Prop} {found : Option Nat} {m : Nat}
    (hfound : ∀ n, found = some n ↔ ∃ k, n = k + 1 ∧ IsLeast {k | P k} k)
    (hle : ∀ j, Q j → m + 1 ≤ j) (h : ∀ k, Q (m + 1 + k) ↔ P k) (stop : Nat) :
    found.map (m + ·) = some stop ↔ IsLeast {j | Q j} stop := by
  rw [Option.map_eq_some_iff]
  constructor
  · rintro ⟨n, hn, rfl⟩
    obtain ⟨k, rfl, hk⟩ := (hfound n).1 hn
    rw [← Nat.add_assoc, Nat.add_right_comm]
    exact (isLeast_add_iff hle h).2 hk
  · intro hstop
    obtain ⟨k, rfl⟩ := Nat.exists_eq_add_of_le (hle stop hstop.1)
    exact ⟨k + 1, (hfound _).2 ⟨k, rfl, (isLeast_add_iff hle h).1 hstop⟩,
      by omega⟩

theorem stringEnd?_eq_some_iff {t : Text} {pos stop : Nat} :
    t.stringEnd? pos = some stop
      ↔ ∃ j, stop = j + 1 ∧ IsLeast {j | IsBareQuote t pos j} j := by
  have hspan : stringSpan (t.drop pos)
      = (closingQuote .inside (t.drop (pos + 1))).map (· + 1) := by
    rw [← List.tail_drop]
    cases t.drop pos <;> rfl
  unfold stringEnd?
  rw [hspan, Option.map_map, Option.map_eq_some_iff]
  constructor
  · rintro ⟨n, hn, rfl⟩
    obtain ⟨k, rfl, hk⟩ := closingQuote_inside_iff.1 hn
    refine ⟨pos + 1 + k, ?_, isLeast_isBareQuote_iff.2 hk⟩
    simp only [Function.comp]
    omega
  · rintro ⟨j, rfl, hj⟩
    obtain ⟨k, rfl⟩ := Nat.exists_eq_add_of_le (show pos + 1 ≤ j from
      hj.1.behind)
    refine ⟨k + 1, closingQuote_inside_iff.2
      ⟨k, rfl, isLeast_isBareQuote_iff.1 hj⟩, ?_⟩
    simp only [Function.comp]
    omega

theorem endsBlockAt_iff {t : Text} {pos k : Nat} :
    EndsBlockAt t pos (pos + 1 + k)
      ↔ StopsAt braceStep (fun s c => EndsBlock s.1 s.2 c) (.outside, 0)
          (t.drop pos) k := by
  have hcolumn : pos + 1 + k - 1 = pos + k := by omega
  have hstop : pos + 1 + k = pos + (k + 1) := by omega
  unfold StopsAt EndsBlock
  rw [foldl_braceStep, List.getElem?_drop]
  -- the brace itself takes one off the depth
  have hdepth : t[pos + k]? = some (.scalar '\x7d') →
      Quoting.outside.after ((t.drop pos).take k) = .outside →
      braceDepth t pos (pos + 1 + k)
        = Quoting.outside.braces ((t.drop pos).take k) - 1 := by
    intro hbrace hafter
    rw [hstop, braceDepth_add, List.take_add_one, List.getElem?_drop, hbrace,
      Option.toList_some, braces_concat, hafter]
    rfl
  constructor
  · rintro ⟨-, -, hbrace, hout, hclosed⟩
    rw [hcolumn] at hbrace hout
    have hafter := outsideAt_add.1 hout
    rw [hdepth hbrace hafter] at hclosed
    exact ⟨_, hbrace, hafter, rfl, by dsimp only; omega⟩
  · rintro ⟨c, hbrace, hafter, rfl, hopen⟩
    dsimp only at hafter hopen
    refine ⟨by omega, ?_, by rw [hcolumn, hbrace], ?_, ?_⟩
    · have := (List.getElem?_eq_some_iff.1 hbrace).1
      omega
    · rw [hcolumn]
      exact outsideAt_add.2 hafter
    · rw [hdepth hbrace hafter]
      omega

theorem blockEnd?_eq_some_iff {t : Text} {pos stop : Nat} :
    t.blockEnd? pos = some stop ↔ IsLeast {j | EndsBlockAt t pos j} stop := by
  refine map_add_eq_some_iff (fun n => ?_) (fun _ h => h.behind)
    (fun _ => endsBlockAt_iff) stop
  unfold braceSpan
  rw [braceSpanFrom_eq_search, search_eq_some_iff]

theorem endsListAt_iff {t : Text} {pos k : Nat} :
    EndsListAt t pos (pos + 1 + 1 + k)
      ↔ StopsAt Quoting.step (fun q c => q = .outside ∧ c = .scalar ']')
          .outside (t.drop (pos + 1)) k := by
  have hcolumn : pos + 1 + 1 + k - 1 = pos + 1 + k := by omega
  unfold StopsAt
  rw [List.getElem?_drop]
  constructor
  · rintro ⟨-, -, hbracket, hout⟩
    rw [hcolumn] at hbracket hout
    exact ⟨_, hbracket, outsideAt_add.1 hout, rfl⟩
  · rintro ⟨c, hbracket, hafter, rfl⟩
    refine ⟨by omega, ?_, by rw [hcolumn, hbracket], ?_⟩
    · have := (List.getElem?_eq_some_iff.1 hbracket).1
      omega
    · rw [hcolumn]
      exact outsideAt_add.2 hafter

theorem listEnd?_eq_some_iff {t : Text} {pos stop : Nat} :
    t.listEnd? pos = some stop ↔ IsLeast {j | EndsListAt t pos j} stop := by
  have hspan : t.listEnd? pos
      = (bracketSpanFrom .outside (t.drop (pos + 1))).map (pos + 1 + ·) := by
    unfold listEnd?
    rw [← List.tail_drop]
    cases t.drop pos with
    | nil => rfl
    | cons c u =>
        rw [bracketSpan, Option.map_map, List.tail_cons]
        congr 1
        funext n
        simp only [Function.comp]
        omega
  rw [hspan]
  refine map_add_eq_some_iff (fun n => ?_) (fun _ h => h.behind)
    (fun _ => endsListAt_iff) stop
  rw [bracketSpanFrom_eq_search, search_eq_some_iff]

/-- Nothing is found just when there is no column for it, if what is found
stands for a column and the least one is found. -/
theorem eq_none_iff_of_isLeast {Q : Nat → Prop} {found : Option Nat}
    (hfound : ∀ stop, found = some stop → Exists Q)
    (hleast : ∀ j, IsLeast {j | Q j} j → ∃ stop, found = some stop) :
    found = none ↔ ∀ j, ¬ Q j := by
  constructor
  · intro hnone j hj
    obtain ⟨first, hfirst⟩ := exists_isLeast ⟨j, hj⟩
    obtain ⟨stop, hstop⟩ := hleast first hfirst
    rw [hnone] at hstop
    cases hstop
  · intro hall
    rw [Option.eq_none_iff_forall_ne_some]
    intro stop hstop
    obtain ⟨j, hj⟩ := hfound stop hstop
    exact hall j hj

/-- Where spans end. A string opened at a column ends right behind the first
quote after that column with an even run of backslashes before it; a block
ends at the first closing brace, outside strings, with which the depth is
back to zero; a list ends at the first closing bracket outside strings. Each
of them has no end just when there is no such column. -/
theorem ends_by_columns (t : Text) (pos : Nat) :
    (∀ stop, t.stringEnd? pos = some stop
        ↔ ∃ j, stop = j + 1 ∧ IsLeast {j | IsBareQuote t pos j} j)
      ∧ (t.stringEnd? pos = none ↔ ∀ j, ¬ IsBareQuote t pos j)
      ∧ (∀ stop, t.blockEnd? pos = some stop
        ↔ IsLeast {j | EndsBlockAt t pos j} stop)
      ∧ (t.blockEnd? pos = none ↔ ∀ j, ¬ EndsBlockAt t pos j)
      ∧ (∀ stop, t.listEnd? pos = some stop
        ↔ IsLeast {j | EndsListAt t pos j} stop)
      ∧ (t.listEnd? pos = none ↔ ∀ j, ¬ EndsListAt t pos j) := by
  refine ⟨fun _ => stringEnd?_eq_some_iff, ?_, fun _ => blockEnd?_eq_some_iff,
    ?_, fun _ => listEnd?_eq_some_iff, ?_⟩
  · refine eq_none_iff_of_isLeast (fun stop hstop => ?_) fun j hj =>
      ⟨_, stringEnd?_eq_some_iff.2 ⟨j, rfl, hj⟩⟩
    obtain ⟨j, -, hj⟩ := stringEnd?_eq_some_iff.1 hstop
    exact ⟨j, hj.1⟩
  · exact eq_none_iff_of_isLeast
      (fun _ hstop => ⟨_, (blockEnd?_eq_some_iff.1 hstop).1⟩)
      fun _ hj => ⟨_, blockEnd?_eq_some_iff.2 hj⟩
  · exact eq_none_iff_of_isLeast
      (fun _ hstop => ⟨_, (listEnd?_eq_some_iff.1 hstop).1⟩)
      fun _ hj => ⟨_, listEnd?_eq_some_iff.2 hj⟩

/-- A closing brace and an escaped quote inside a string, and a string that is
never closed. -/
example :
    let t : Text := Text.ofString "a \x7b\"\x7d\\\"\x7d\": \x7b\x7d\x7d [\"]"
    t.blockEnd? 2 = some 14 ∧ t.stringEnd? 3 = some 9
      ∧ t.listEnd? 15 = none := by
  decide

end Marginalia.Text
