/-
How deep a text nests. The depth of a point is the number of brackets and
braces that are open there, those inside strings left out. The guard of
depth answers whether some point of the text lies deeper than a limit
(`nestsDeeper_iff`), and it does so for any text, whether its brackets match
or not.

# Exact nesting

`Nested n` is the text whose brackets and braces match and enclose each
other `n` deep and no deeper. `Balanced n` asks only for the bound. Behind a
nested piece within the limit the guard goes on as if the piece were not
there, and it stops inside the piece just when the limit is passed there.
-/
import Marginalia.Proofs.Text.Quoting

namespace Marginalia

-- ====================================================== open brackets

/-- What a code point that is read outside strings adds to the number of
open brackets and braces. -/
def CodePoint.opening (c : CodePoint) : Int :=
  if c = .scalar '[' ∨ c = .scalar '\x7b' then 1
  else if c = .scalar ']' ∨ c = .scalar '\x7d' then -1
  else 0

/-- What a code point adds to the number of open brackets and braces where
the walk stands. -/
def Quoting.opening (q : Quoting) (c : CodePoint) : Int :=
  if q = .outside then c.opening else 0

/-- How many more brackets and braces a text opens than it closes, those
inside strings not counted. -/
def Quoting.opened (q : Quoting) (t : Text) : Int :=
  (q.bare t).foldr (·.opening + ·) 0

namespace Quoting

@[simp]
theorem opened_nil (q : Quoting) : q.opened [] = 0 := rfl

theorem opened_cons (q : Quoting) (c : CodePoint) (t : Text) :
    q.opened (c :: t) = q.opening c + (q.step c).opened t := by
  unfold opened opening
  rw [bare]
  split
  · rw [List.foldr_cons]
  · rw [Int.zero_add]

end Quoting

-- ============================================================ the guard

namespace Text

/-- The guard stops at a code point that takes the depth past the limit and
goes on with the new depth otherwise. -/
theorem nestsDeeperFrom_cons (limit : Int) (q : Quoting) (depth : Int)
    (c : CodePoint) (t : Text) :
    nestsDeeperFrom limit q depth (c :: t)
      = (decide (0 < q.opening c ∧ limit < depth + q.opening c)
        || nestsDeeperFrom limit (q.step c) (depth + q.opening c) t) := by
  rw [nestsDeeperFrom]
  split
  · next h =>
    have hone : q.opening c = 1 := by
      rw [Quoting.opening, if_pos h.1, CodePoint.opening, if_pos h.2]
    rw [hone]
    congr 1
    exact decide_eq_decide.2 (by omega)
  · next hopen =>
    split
    · next h =>
      have hminus : q.opening c = -1 := by
        rw [Quoting.opening, if_pos h.1, CodePoint.opening,
          if_neg fun ho => hopen ⟨h.1, ho⟩, if_pos h.2]
      rw [hminus, decide_eq_false (by omega), Bool.false_or]
      rfl
    · next hclose =>
      have hzero : q.opening c = 0 := by
        rw [Quoting.opening]
        split
        · next hq =>
          rw [CodePoint.opening, if_neg fun ho => hopen ⟨hq, ho⟩,
            if_neg fun hc => hclose ⟨hq, hc⟩]
        · rfl
      rw [hzero, decide_eq_false (by omega), Bool.false_or, Int.add_zero]

/-- From a depth within the limit the guard finds out whether some point of
the text lies deeper. -/
theorem nestsDeeperFrom_iff {limit depth : Int} {q : Quoting} {t : Text}
    (h : depth ≤ limit) :
    nestsDeeperFrom limit q depth t = true
      ↔ ∃ u, u <+: t ∧ limit < depth + q.opened u := by
  induction t generalizing q depth with
  | nil =>
      refine ⟨fun hn => absurd hn Bool.false_ne_true, ?_⟩
      rintro ⟨u, hu, hlt⟩
      rw [List.prefix_nil.1 hu, Quoting.opened_nil] at hlt
      omega
  | cons c t ih =>
      rw [nestsDeeperFrom_cons, Bool.or_eq_true, decide_eq_true_iff]
      -- either the limit is passed at this point or the rest is asked
      by_cases hpass : limit < depth + q.opening c
      · refine ⟨fun _ => ⟨[c], ⟨t, rfl⟩, ?_⟩, fun _ => .inl ⟨?_, hpass⟩⟩
        · rw [Quoting.opened_cons, Quoting.opened_nil]
          omega
        · omega
      · rw [ih (Int.not_lt.1 hpass)]
        constructor
        · rintro (hlt | ⟨u, hu, hlt⟩)
          · exact absurd hlt.2 hpass
          · refine ⟨c :: u, (List.cons_prefix_cons).2 ⟨rfl, hu⟩, ?_⟩
            rw [Quoting.opened_cons]
            omega
        · rintro ⟨u, hu, hlt⟩
          cases u with
          | nil =>
              rw [Quoting.opened_nil] at hlt
              omega
          | cons d u =>
              obtain ⟨rfl, hprefix⟩ := List.cons_prefix_cons.1 hu
              rw [Quoting.opened_cons] at hlt
              exact .inr ⟨u, hprefix, by omega⟩

/-- The guard finds out whether some point of a text lies inside more than
`limit` brackets and braces. -/
theorem nestsDeeper_iff {limit : Nat} {t : Text} :
    t.nestsDeeper limit = true
      ↔ ∃ u, u <+: t ∧ limit < Quoting.outside.opened u := by
  unfold nestsDeeper
  rw [nestsDeeperFrom_iff (Int.natCast_nonneg limit)]
  simp only [Int.zero_add]

-- ======================================================== exact nesting

/-- Brackets outside strings match, and `n` pairs of them enclose each other
at the deepest point. -/
inductive Nested : Nat → Text → Prop
  | flat {t : Text} (flat : Flat t) : Nested 0 t
  | append {m n : Nat} {t u : Text} (first : Nested m t)
      (second : Nested n u) : Nested (max m n) (t ++ u)
  | brackets {n : Nat} {t : Text} (inside : Nested n t) :
      Nested (n + 1) (.scalar '[' :: (t ++ [.scalar ']']))
  | braces {n : Nat} {t : Text} (inside : Nested n t) :
      Nested (n + 1) (.scalar '\x7b' :: (t ++ [.scalar '\x7d']))

/-- Text that is balanced to some depth is balanced to any greater one. -/
theorem Balanced.mono {m n : Nat} {t : Text} (h : Balanced m t)
    (hmn : m ≤ n) : Balanced n t := by
  induction h generalizing n with
  | flat flat => exact .flat flat
  | append _ _ iht ihu => exact .append (iht hmn) (ihu hmn)
  | brackets _ ih =>
      obtain ⟨k, rfl⟩ := Nat.exists_eq_add_of_lt hmn
      exact .brackets (ih (Nat.le_add_right ..))
  | braces _ ih =>
      obtain ⟨k, rfl⟩ := Nat.exists_eq_add_of_lt hmn
      exact .braces (ih (Nat.le_add_right ..))

namespace Nested

/-- Flat text in front of a nested piece does not change its depth. -/
theorem flat_append {n : Nat} {t u : Text} (ht : Flat t) (hu : Nested n u) :
    Nested n (t ++ u) := by
  have h := append (flat ht) hu
  rwa [Nat.zero_max] at h

/-- Flat text behind a nested piece does not change its depth. -/
theorem append_flat {n : Nat} {t u : Text} (ht : Nested n t) (hu : Flat u) :
    Nested n (t ++ u) := by
  have h := append ht (flat hu)
  rwa [Nat.max_zero] at h

theorem balanced {n : Nat} {t : Text} (h : Nested n t) : Balanced n t := by
  induction h with
  | flat flat => exact .flat flat
  | append _ _ iht ihu =>
      exact .append (iht.mono (Nat.le_max_left ..))
        (ihu.mono (Nat.le_max_right ..))
  | brackets _ ih => exact .brackets ih
  | braces _ ih => exact .braces ih

/-- A piece between a bracket or a brace and its counterpart: the guard
stops at the opening one or goes on one deeper. -/
theorem nestsDeeperFrom_enclosed {n : Nat} {t : Text}
    {left right : CodePoint}
    (hleft : left = .scalar '[' ∨ left = .scalar '\x7b')
    (hright : right = .scalar ']' ∨ right = .scalar '\x7d')
    {limit depth : Int} (rest : Text)
    (ih : depth + 1 ≤ limit →
      Text.nestsDeeperFrom limit .outside (depth + 1)
          (t ++ right :: rest)
        = (decide (limit < depth + 1 + n)
          || Text.nestsDeeperFrom limit .outside (depth + 1)
            (right :: rest))) :
    Text.nestsDeeperFrom limit .outside depth (left :: (t ++ right :: rest))
      = (decide (limit < depth + (n + 1 : Nat))
        || Text.nestsDeeperFrom limit .outside depth rest) := by
  have hone : Quoting.outside.opening left = 1 := by
    rw [Quoting.opening, if_pos rfl, CodePoint.opening, if_pos hleft]
  have hstep : Quoting.outside.step left = .outside := by
    rcases hleft with rfl | rfl <;> rfl
  rw [nestsDeeperFrom_cons, hone, hstep]
  by_cases hroom : depth + 1 ≤ limit
  · rw [ih hroom, nestsDeeperFrom_close hright, Int.add_sub_cancel,
      decide_eq_false (by omega), Bool.false_or]
    congr 1
    exact decide_eq_decide.2 (by omega)
  · rw [decide_eq_true (by omega), decide_eq_true (by omega), Bool.true_or,
      Bool.true_or]

/-- Behind a nested piece the guard goes on as if the piece were not there,
unless it stopped in it. -/
theorem nestsDeeperFrom {n : Nat} {t : Text} (h : Nested n t)
    {limit depth : Int} (hdepth : depth ≤ limit) (rest : Text) :
    Text.nestsDeeperFrom limit .outside depth (t ++ rest)
      = (decide (limit < depth + n)
        || Text.nestsDeeperFrom limit .outside depth rest) := by
  induction h generalizing depth rest with
  | flat flat =>
      rw [nestsDeeperFrom_of_bare flat.bare, flat.after,
        decide_eq_false (by omega), Bool.false_or]
  | @append m n t u _ _ iht ihu =>
      rw [List.append_assoc, iht hdepth, ihu hdepth, ← Bool.or_assoc,
        ← Bool.decide_or]
      congr 1
      exact decide_eq_decide.2 (by omega)
  | brackets _ ih =>
      rw [List.cons_append, List.append_assoc]
      exact nestsDeeperFrom_enclosed (.inl rfl) (.inl rfl) rest
        fun hroom => ih hroom _
  | braces _ ih =>
      rw [List.cons_append, List.append_assoc]
      exact nestsDeeperFrom_enclosed (.inr rfl) (.inr rfl) rest
        fun hroom => ih hroom _

/-- A nested text nests deeper than a limit when its depth is greater. -/
theorem nestsDeeper {n limit : Nat} {t : Text} (h : Nested n t) :
    t.nestsDeeper limit = true ↔ limit < n := by
  have hwalk := h.nestsDeeperFrom (Int.natCast_nonneg limit) []
  rw [List.append_nil, Text.nestsDeeperFrom, Bool.or_false] at hwalk
  unfold Text.nestsDeeper
  rw [hwalk, decide_eq_true_iff]
  omega

end Nested

end Text

end Marginalia
