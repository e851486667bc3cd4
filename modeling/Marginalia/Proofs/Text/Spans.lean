/-
Where strings, lists and blocks end. Each of them is looked for by a walk
over the text behind its first code point, and each ends as soon as it can:
a string at the first quote that is not escaped, a list at the first closing
bracket outside strings, and a block at the first brace that brings the
number of open braces, counted outside strings, back to none. There is no
end just when the walk meets no such point.

Every search is described twice, for the end that it finds and for the end
that it does not find; what is found is said by cutting the text there.
-/
import Marginalia.Proofs.Text.Quoting

namespace Marginalia

-- ============================================================== braces

/-- What a code point adds to the number of open braces where the walk
stands. -/
def Quoting.brace (q : Quoting) (c : CodePoint) : Int :=
  if q ≠ .outside then 0
  else if c = .scalar '\x7b' then 1
  else if c = .scalar '\x7d' then -1
  else 0

/-- How many more braces a text opens than it closes, those inside strings
not counted. -/
def Quoting.braces (q : Quoting) (t : Text) : Int :=
  (q.bare t).count (.scalar '\x7b') - (q.bare t).count (.scalar '\x7d')

namespace Quoting

@[simp]
theorem braces_nil (q : Quoting) : q.braces [] = 0 := rfl

theorem braces_cons (q : Quoting) (c : CodePoint) (t : Text) :
    q.braces (c :: t) = q.brace c + (q.step c).braces t := by
  unfold braces brace
  rw [bare]
  by_cases hq : q = .outside
  · by_cases hopen : c = .scalar '\x7b'
    · simp [hq, hopen]
      omega
    · by_cases hclose : c = .scalar '\x7d'
      · simp [hq, hclose]
        omega
      · simp [hq, hopen, hclose]
  · simp [hq]

/-- A walk that is inside a string gets outside at a quote only. -/
theorem of_step_outside {q : Quoting} {c : CodePoint} (hq : q ≠ .outside)
    (h : q.step c = .outside) : q = .inside ∧ c = .scalar '"' := by
  cases q with
  | outside => exact absurd rfl hq
  | escaped => cases h
  | inside =>
      rw [step] at h
      split at h
      · cases h
      · split at h
        · next hc => exact ⟨rfl, hc⟩
        · cases h

end Quoting

namespace Text

-- ============================================================= strings

theorem closingQuote_cons (q : Quoting) (c : CodePoint) (t : Text) :
    closingQuote q (c :: t)
      = if q.step c = .outside then some 1
        else (closingQuote (q.step c) t).map (· + 1) := by
  rw [closingQuote]
  cases q.step c <;> rfl

/-- The closing quote is the first one that the walk reads as such. -/
theorem closingQuote_eq_some_iff {q : Quoting} (hq : q ≠ .outside) {t : Text}
    {n : Nat} :
    closingQuote q t = some n
      ↔ ∃ u rest, t = u ++ .scalar '"' :: rest ∧ q.after u = .inside
        ∧ q.bare u = [] ∧ n = u.length + 1 := by
  induction t generalizing q n with
  | nil => simp [closingQuote]
  | cons c t ih =>
      rw [closingQuote_cons]
      by_cases hstep : q.step c = .outside
      · obtain ⟨rfl, rfl⟩ := Quoting.of_step_outside hq hstep
        rw [if_pos hstep]
        constructor
        · intro h
          cases h
          exact ⟨[], t, rfl, rfl, rfl, rfl⟩
        · rintro ⟨u, rest, ht, hafter, hbare, rfl⟩
          cases u with
          | nil => rfl
          | cons d u =>
              -- behind the quote the walk is outside and reads all there is
              obtain ⟨rfl, rfl⟩ := List.cons.inj ht
              rw [Quoting.after_cons, hstep] at hafter
              rw [Quoting.bare, if_neg hq, hstep] at hbare
              cases u with
              | nil => cases hafter
              | cons x u =>
                  rw [Quoting.bare, if_pos rfl] at hbare
                  cases hbare
      · rw [if_neg hstep, Option.map_eq_some_iff]
        constructor
        · rintro ⟨m, hm, rfl⟩
          obtain ⟨u, rest, rfl, hafter, hbare, rfl⟩ := (ih hstep).1 hm
          refine ⟨c :: u, rest, rfl, hafter, ?_, rfl⟩
          rw [Quoting.bare, if_neg hq, hbare]
        · rintro ⟨u, rest, ht, hafter, hbare, rfl⟩
          cases u with
          | nil =>
              obtain ⟨rfl, rfl⟩ := List.cons.inj ht
              rw [Quoting.after_nil] at hafter
              subst hafter
              exact absurd rfl hstep
          | cons d u =>
              obtain ⟨rfl, rfl⟩ := List.cons.inj ht
              rw [Quoting.bare, if_neg hq] at hbare
              exact ⟨u.length + 1, (ih hstep).2 ⟨u, rest, rfl, hafter, hbare, rfl⟩,
                rfl⟩

/-- There is no closing quote when the walk never gets outside. -/
theorem closingQuote_eq_none_iff {q : Quoting} (hq : q ≠ .outside)
    {t : Text} :
    closingQuote q t = none ↔ ∀ u, u <+: t → q.after u ≠ .outside := by
  induction t generalizing q with
  | nil => simpa [closingQuote] using hq
  | cons c t ih =>
      rw [closingQuote_cons]
      by_cases hstep : q.step c = .outside
      · rw [if_pos hstep]
        refine ⟨fun h => absurd h (Option.some_ne_none _), fun h => ?_⟩
        exact absurd hstep (h [c] ⟨t, rfl⟩)
      · rw [if_neg hstep, Option.map_eq_none_iff, ih hstep]
        constructor
        · intro h u hu
          cases u with
          | nil => exact hq
          | cons d u =>
              obtain ⟨rfl, hprefix⟩ := List.cons_prefix_cons.1 hu
              exact h u hprefix
        · exact fun h u hu => h (c :: u) (List.cons_prefix_cons.2 ⟨rfl, hu⟩)

-- =============================================================== lists

/-- A list ends at the first closing bracket that is read outside. -/
theorem bracketSpanFrom_eq_some_iff {q : Quoting} {t : Text} {n : Nat} :
    bracketSpanFrom q t = some n
      ↔ ∃ u rest, t = u ++ .scalar ']' :: rest ∧ q.after u = .outside
        ∧ .scalar ']' ∉ q.bare u ∧ n = u.length + 1 := by
  constructor
  · intro h
    induction t generalizing q n with
    | nil => cases h
    | cons c t ih =>
        rw [bracketSpanFrom] at h
        split at h
        · next hc =>
          obtain ⟨rfl, rfl⟩ := hc
          cases h
          exact ⟨[], t, rfl, rfl, List.not_mem_nil, rfl⟩
        · next hc =>
          obtain ⟨m, hm, rfl⟩ := Option.map_eq_some_iff.1 h
          obtain ⟨u, rest, rfl, hafter, hbare, rfl⟩ := ih hm
          refine ⟨c :: u, rest, rfl, hafter, ?_, rfl⟩
          rw [Quoting.bare]
          split
          · next hq =>
            rw [List.mem_cons, not_or]
            exact ⟨fun heq => hc ⟨hq, heq.symm⟩, hbare⟩
          · exact hbare
  · rintro ⟨u, rest, rfl, hafter, hbare, rfl⟩
    exact bracketSpanFrom_of_bare hafter hbare rest

/-- A list has no end when no closing bracket is read outside. -/
theorem bracketSpanFrom_eq_none_iff {q : Quoting} {t : Text} :
    bracketSpanFrom q t = none ↔ .scalar ']' ∉ q.bare t := by
  induction t generalizing q with
  | nil => simp [bracketSpanFrom, Quoting.bare]
  | cons c t ih =>
      rw [bracketSpanFrom, Quoting.bare]
      by_cases hq : q = .outside
      · by_cases hc : c = .scalar ']'
        · simp [hq, hc]
        · rw [if_neg fun h => hc h.2, if_pos hq, Option.map_eq_none_iff, ih,
            List.mem_cons, not_or]
          exact ⟨fun h => ⟨Ne.symm hc, h⟩, And.right⟩
      · rw [if_neg fun h => hq h.1, if_neg hq, Option.map_eq_none_iff, ih]

-- ============================================================== blocks

/-- The code point is the brace that closes a block that is open so many
braces deep. -/
def EndsBlock (q : Quoting) (depth : Int) (c : CodePoint) : Prop :=
  q = .outside ∧ c = .scalar '\x7d' ∧ depth = 1

theorem braceSpanFrom_end {q : Quoting} {depth : Int} {c : CodePoint}
    (h : EndsBlock q depth c) (t : Text) :
    braceSpanFrom q depth (c :: t) = some 1 := by
  unfold EndsBlock at h
  rw [braceSpanFrom, if_pos h]

theorem braceSpanFrom_more {q : Quoting} {depth : Int} {c : CodePoint}
    (h : ¬ EndsBlock q depth c) (t : Text) :
    braceSpanFrom q depth (c :: t)
      = (braceSpanFrom (q.step c) (depth + q.brace c) t).map (· + 1) := by
  have hdepth : (if q ≠ .outside then depth
      else if c = .scalar '\x7b' then depth + 1
      else if c = .scalar '\x7d' then depth - 1 else depth)
        = depth + q.brace c := by
    unfold Quoting.brace
    repeat' split
    all_goals omega
  unfold EndsBlock at h
  rw [braceSpanFrom, if_neg h]
  dsimp only
  rw [hdepth]

/-- Behind the end of a block nothing is open, and before it something is. -/
theorem depth_pos_iff {q : Quoting} {depth : Int} (hdepth : 1 ≤ depth)
    (c : CodePoint) : 1 ≤ depth + q.brace c ↔ ¬ EndsBlock q depth c := by
  unfold Quoting.brace EndsBlock
  by_cases hq : q = .outside
  · by_cases hclose : c = .scalar '\x7d'
    · simp [hq, hclose]
      omega
    · by_cases hopen : c = .scalar '\x7b'
      · simp [hq, hopen]
        omega
      · simp [hq, hopen, hclose, hdepth]
  · simp [hq, hdepth]

/-- A block that is open so many braces deep ends where the braces behind it
have closed all of them. -/
theorem braceSpanFrom_eq_some_iff {q : Quoting} {depth : Int}
    (hdepth : 1 ≤ depth) {t : Text} {n : Nat} :
    braceSpanFrom q depth t = some n
      ↔ ∃ u rest, t = u ++ .scalar '\x7d' :: rest ∧ q.after u = .outside
        ∧ depth + q.braces u = 1 ∧ (∀ w, w <+: u → 1 ≤ depth + q.braces w)
        ∧ n = u.length + 1 := by
  induction t generalizing q depth n with
  | nil => simp [braceSpanFrom]
  | cons c t ih =>
      have hpos := depth_pos_iff (q := q) hdepth c
      by_cases hend : EndsBlock q depth c
      · rw [braceSpanFrom_end hend]
        constructor
        · intro h
          cases h
          obtain ⟨rfl, rfl, rfl⟩ := hend
          refine ⟨[], t, rfl, rfl, rfl, fun w hw => ?_, rfl⟩
          rw [List.prefix_nil.1 hw]
          decide
        · rintro ⟨u, rest, ht, -, -, hopen, rfl⟩
          cases u with
          | nil => rfl
          | cons d u =>
              -- the first brace has closed the block already
              obtain ⟨rfl, rfl⟩ := List.cons.inj ht
              have h := hopen [c] ⟨u, rfl⟩
              rw [Quoting.braces_cons, Quoting.braces_nil, Int.add_zero] at h
              exact absurd hend (hpos.1 h)
      · rw [braceSpanFrom_more hend, Option.map_eq_some_iff]
        constructor
        · rintro ⟨m, hm, rfl⟩
          obtain ⟨u, rest, rfl, hafter, hbalance, hopen, rfl⟩ :=
            (ih (hpos.2 hend)).1 hm
          refine ⟨c :: u, rest, rfl, hafter, ?_, fun w hw => ?_, rfl⟩
          · rw [Quoting.braces_cons]
            omega
          · cases w with
            | nil => simpa using hdepth
            | cons d w =>
                obtain ⟨rfl, hprefix⟩ := List.cons_prefix_cons.1 hw
                have h := hopen w hprefix
                rw [Quoting.braces_cons]
                omega
        · rintro ⟨u, rest, ht, hafter, hbalance, hopen, rfl⟩
          cases u with
          | nil =>
              obtain ⟨rfl, rfl⟩ := List.cons.inj ht
              rw [Quoting.braces_nil, Int.add_zero] at hbalance
              exact absurd ⟨hafter, rfl, hbalance⟩ hend
          | cons d u =>
              obtain ⟨rfl, rfl⟩ := List.cons.inj ht
              rw [Quoting.braces_cons] at hbalance
              refine ⟨u.length + 1, (ih (hpos.2 hend)).2 ⟨u, rest, rfl, hafter,
                by omega, fun w hw => ?_, rfl⟩, rfl⟩
              have h := hopen (c :: w) (List.cons_prefix_cons.2 ⟨rfl, hw⟩)
              rw [Quoting.braces_cons] at h
              omega

/-- A block has no end when the braces behind it never close all of them. -/
theorem braceSpanFrom_eq_none_iff {q : Quoting} {depth : Int}
    (hdepth : 1 ≤ depth) {t : Text} :
    braceSpanFrom q depth t = none
      ↔ ∀ w, w <+: t → 1 ≤ depth + q.braces w := by
  induction t generalizing q depth with
  | nil => simpa [braceSpanFrom] using hdepth
  | cons c t ih =>
      have hpos := depth_pos_iff (q := q) hdepth c
      by_cases hend : EndsBlock q depth c
      · rw [braceSpanFrom_end hend]
        refine ⟨fun h => absurd h (Option.some_ne_none _), fun h => ?_⟩
        have hc := h [c] ⟨t, rfl⟩
        rw [Quoting.braces_cons, Quoting.braces_nil, Int.add_zero] at hc
        exact absurd hend (hpos.1 hc)
      · rw [braceSpanFrom_more hend, Option.map_eq_none_iff,
          ih (hpos.2 hend)]
        constructor
        · intro h w hw
          cases w with
          | nil => simpa using hdepth
          | cons d w =>
              obtain ⟨rfl, hprefix⟩ := List.cons_prefix_cons.1 hw
              have hw' := h w hprefix
              rw [Quoting.braces_cons]
              omega
        · intro h w hw
          have hw' := h (c :: w) (List.cons_prefix_cons.2 ⟨rfl, hw⟩)
          rw [Quoting.braces_cons] at hw'
          omega

end Text

end Marginalia
