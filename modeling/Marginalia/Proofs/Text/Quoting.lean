/-
Walks over a text that is made of pieces. What a walk does in a piece hangs
on two things only: where it stands behind the piece, and which code points
of the piece it reads outside strings. A search for a code point that is
not among those passes over the piece.

# Balanced text

The matcher of braces and the guard of depth count brackets, and they see
the same ones. `Balanced n` is the shape they agree on: pieces without a
bracket outside strings, side by side and between matching brackets, at
most `n` of them inside each other. Each of the two passes over a balanced
piece as if it were not there.
-/
import Marginalia.Text.Quoting

namespace Marginalia

-- =========================================================== the walk

namespace Quoting

/-- Where the walk stands behind a text. -/
def after (q : Quoting) (t : Text) : Quoting := t.foldl step q

/-- The code points of a text that the walk reads outside strings. -/
def bare (q : Quoting) : Text → Text
  | [] => []
  | c :: t => if q = .outside then c :: (q.step c).bare t else (q.step c).bare t

@[simp]
theorem after_nil (q : Quoting) : q.after [] = q := rfl

@[simp]
theorem after_cons (q : Quoting) (c : CodePoint) (t : Text) :
    q.after (c :: t) = (q.step c).after t := rfl

theorem after_append (q : Quoting) (t u : Text) :
    q.after (t ++ u) = (q.after t).after u :=
  List.foldl_append

theorem bare_append (q : Quoting) (t u : Text) :
    q.bare (t ++ u) = q.bare t ++ (q.after t).bare u := by
  induction t generalizing q with
  | nil => rfl
  | cons c t ih =>
      rw [List.cons_append, bare, ih, bare, after_cons]
      split
      · rw [List.cons_append]
      · rfl

/-- The point at which a walk stands outside is read outside. -/
theorem mem_bare_of_outside {c : CodePoint} {t : Text} :
    c ∈ bare .outside (c :: t) := by
  rw [bare, if_pos rfl]
  exact List.mem_cons_self ..

/-- What is read outside behind the first point is read outside. -/
theorem mem_bare_cons {q : Quoting} {c x : CodePoint} {t : Text}
    (h : x ∈ (q.step c).bare t) : x ∈ q.bare (c :: t) := by
  rw [bare]
  split
  · exact List.mem_cons_of_mem _ h
  · exact h

/-- A text without quotes is read outside from its first point on. -/
theorem after_of_no_quote {t : Text} (h : .scalar '"' ∉ t) :
    after .outside t = .outside := by
  induction t with
  | nil => rfl
  | cons c t ih =>
      obtain ⟨hc, ht⟩ := not_or.1 (mt List.mem_cons.2 h)
      rw [after_cons, show step .outside c = .outside from if_neg (Ne.symm hc)]
      exact ih ht

/-- What is read outside is part of the text. -/
theorem bare_subset {q : Quoting} {t : Text} {x : CodePoint}
    (h : x ∈ q.bare t) : x ∈ t := by
  induction t generalizing q with
  | nil => exact h
  | cons c t ih =>
      rw [bare] at h
      split at h
      · rcases List.mem_cons.1 h with rfl | h
        · exact List.mem_cons_self ..
        · exact List.mem_cons_of_mem _ (ih h)
      · exact List.mem_cons_of_mem _ (ih h)

end Quoting

namespace Text

-- =========================================================== literals

/-- The inside of a string: a walk that is inside stays there. -/
structure Inner (t : Text) : Prop where
  after : Quoting.inside.after t = .inside
  bare : Quoting.inside.bare t = []

namespace Inner

theorem nil : Inner [] := ⟨rfl, rfl⟩

theorem append {t u : Text} (ht : Inner t) (hu : Inner u) :
    Inner (t ++ u) := by
  refine ⟨?_, ?_⟩
  · rw [Quoting.after_append, ht.after, hu.after]
  · rw [Quoting.bare_append, ht.after, ht.bare, hu.bare]
    rfl

theorem flatMap {α : Type} {f : α → Text} {xs : List α}
    (h : ∀ x ∈ xs, Inner (f x)) : Inner (xs.flatMap f) := by
  induction xs with
  | nil => exact nil
  | cons x xs ih =>
      rw [List.flatMap_cons]
      exact append (h x (List.mem_cons_self ..))
        (ih fun y hy => h y (List.mem_cons_of_mem _ hy))

/-- A code point that is neither a quote nor a backslash. -/
theorem plain {c : CodePoint} (hquote : c ≠ .scalar '"')
    (hslash : c ≠ .scalar '\\') : Inner [c] := by
  have hstep : Quoting.inside.step c = .inside := by
    rw [Quoting.step, if_neg hslash, if_neg hquote]
  exact ⟨hstep, rfl⟩

/-- A backslash with the code point that it escapes. -/
theorem escape (c : CodePoint) : Inner [.scalar '\\', c] := ⟨rfl, rfl⟩

/-- Code points that are neither quotes nor backslashes. -/
theorem of_forall {t : Text}
    (h : ∀ c ∈ t, c ≠ .scalar '"' ∧ c ≠ .scalar '\\') : Inner t := by
  induction t with
  | nil => exact nil
  | cons c t ih =>
      have hc := h c (List.mem_cons_self ..)
      exact append (plain hc.1 hc.2)
        (ih fun x hx => h x (List.mem_cons_of_mem _ hx))

/-- Where the quote is that closes a string. -/
theorem closingQuote {t : Text} (h : Inner t) (rest : Text) :
    Text.closingQuote .inside (t ++ .scalar '"' :: rest)
      = some (t.length + 1) := by
  have walk : ∀ (t : Text) (q : Quoting), q ≠ .outside →
      q.after t = .inside → q.bare t = [] →
      Text.closingQuote q (t ++ .scalar '"' :: rest) = some (t.length + 1) := by
    intro t
    induction t with
    | nil =>
        intro q _ hq _
        rw [Quoting.after_nil] at hq
        subst hq
        rfl
    | cons c t ih =>
        intro q hne hq hbare
        -- a walk that stood outside would have read a point there
        have hstep : q.step c ≠ .outside := by
          intro hout
          rw [Quoting.after_cons, hout] at hq
          rw [Quoting.bare, if_neg hne, hout] at hbare
          cases t with
          | nil => cases hq
          | cons x t =>
              rw [Quoting.bare, if_pos rfl] at hbare
              cases hbare
        rw [Quoting.bare, if_neg hne] at hbare
        rw [List.cons_append, Text.closingQuote]
        split
        · next hout => exact absurd hout hstep
        · rw [ih _ hstep hq hbare, Option.map_some, List.length_cons]
  exact walk t .inside (by decide) h.after h.bare

/-- The string that a text starts with, when it is all of this. -/
theorem stringSpan {t : Text} (h : Inner t) (quote : CodePoint) (rest : Text) :
    Text.stringSpan (quote :: (t ++ .scalar '"' :: rest))
      = some (t.length + 2) := by
  rw [Text.stringSpan, h.closingQuote, Option.map_some]

/-- A walk that is outside is outside again behind a string. -/
theorem after_quoted {t : Text} (h : Inner t) :
    Quoting.outside.after (.scalar '"' :: (t ++ [.scalar '"'])) = .outside := by
  rw [Quoting.after_cons, Quoting.after_append,
    show Quoting.outside.step (.scalar '"') = .inside from rfl, h.after]
  rfl

/-- Of a string only the opening quote is read outside. -/
theorem bare_quoted {t : Text} (h : Inner t) :
    Quoting.outside.bare (.scalar '"' :: (t ++ [.scalar '"']))
      = [.scalar '"'] := by
  rw [Quoting.bare, if_pos rfl, Quoting.bare_append,
    show Quoting.outside.step (.scalar '"') = .inside from rfl, h.bare,
    h.after]
  rfl

end Inner

-- =========================================================== searches

/-- The bracket that closes a list stands behind a piece without one. -/
theorem bracketSpanFrom_of_bare {t : Text} {q : Quoting}
    (hafter : q.after t = .outside) (hbare : .scalar ']' ∉ q.bare t)
    (rest : Text) :
    bracketSpanFrom q (t ++ .scalar ']' :: rest) = some (t.length + 1) := by
  induction t generalizing q with
  | nil =>
      rw [Quoting.after_nil] at hafter
      subst hafter
      rfl
  | cons c t ih =>
      have hc : ¬ (q = .outside ∧ c = .scalar ']') := by
        rintro ⟨rfl, rfl⟩
        exact hbare Quoting.mem_bare_of_outside
      rw [List.cons_append, bracketSpanFrom, if_neg hc,
        ih hafter fun h => hbare (Quoting.mem_bare_cons h), Option.map_some,
        List.length_cons]

/-- A piece without a comma is not cut. -/
theorem commaPiecesFrom_of_bare {t : Text} {q : Quoting}
    (hbare : .scalar ',' ∉ q.bare t) : commaPiecesFrom q t = [t] := by
  induction t generalizing q with
  | nil => rfl
  | cons c t ih =>
      have hc : ¬ (q = .outside ∧ c = .scalar ',') := by
        rintro ⟨rfl, rfl⟩
        exact hbare Quoting.mem_bare_of_outside
      rw [commaPiecesFrom, if_neg hc,
        ih fun h => hbare (Quoting.mem_bare_cons h)]

theorem commaPiecesFrom_ne_nil (q : Quoting) (t : Text) :
    commaPiecesFrom q t ≠ [] := by
  cases t with
  | nil => exact List.cons_ne_nil _ _
  | cons c t =>
      rw [commaPiecesFrom]
      split
      · exact List.cons_ne_nil _ _
      · split <;> exact List.cons_ne_nil _ _

/-- At a comma behind closed strings a text is cut in two. -/
theorem commaPiecesFrom_append {t : Text} {q : Quoting}
    (hafter : q.after t = .outside) (rest : Text) :
    commaPiecesFrom q (t ++ .scalar ',' :: rest)
      = commaPiecesFrom q t ++ rest.commaPieces := by
  induction t generalizing q with
  | nil =>
      rw [Quoting.after_nil] at hafter
      subst hafter
      rfl
  | cons c t ih =>
      have hrest := ih hafter
      rw [List.cons_append, commaPiecesFrom, commaPiecesFrom]
      by_cases hc : q = .outside ∧ c = .scalar ','
      · obtain ⟨rfl, rfl⟩ := hc
        rw [if_pos ⟨rfl, rfl⟩, if_pos ⟨rfl, rfl⟩, List.cons_append]
        exact congrArg _ hrest
      · rw [if_neg hc, if_neg hc, hrest]
        cases hpieces : commaPiecesFrom (q.step c) t with
        | nil => exact absurd hpieces (commaPiecesFrom_ne_nil _ _)
        | cons piece pieces => rfl

/-- The pieces between commas are parts of the text. -/
theorem subset_of_mem_commaPiecesFrom {q : Quoting} {t piece : Text}
    (h : piece ∈ commaPiecesFrom q t) : piece ⊆ t := by
  induction t generalizing q piece with
  | nil =>
      rw [List.mem_singleton.1 h]
      exact List.Subset.refl _
  | cons c t ih =>
      rw [commaPiecesFrom] at h
      split at h
      · rcases List.mem_cons.1 h with rfl | h
        · exact List.nil_subset _
        · exact List.subset_cons_of_subset _ (ih h)
      · split at h
        · rw [List.mem_singleton.1 h]
          exact List.cons_subset_cons _ (List.nil_subset _)
        · next first pieces heq =>
          rcases List.mem_cons.1 h with rfl | h
          · refine List.cons_subset_cons _ (ih (q := q.step c) ?_)
            rw [heq]
            exact List.mem_cons_self ..
          · refine List.subset_cons_of_subset _ (ih (q := q.step c) ?_)
            rw [heq]
            exact List.mem_cons_of_mem _ h

/-- Two texts at least are joined with a separator behind the first. -/
theorem joinWith_cons_cons (separator t u : Text) (ts : List Text) :
    joinWith separator (t :: u :: ts)
      = t ++ (separator ++ joinWith separator (u :: ts)) :=
  List.append_assoc ..

/-- Pieces without commas that are joined by commas are cut apart again. -/
theorem commaPieces_joinWith {ts : List Text} (hne : ts ≠ [])
    (h : ∀ t ∈ ts, Quoting.outside.after t = .outside
      ∧ .scalar ',' ∉ Quoting.outside.bare t) :
    (joinWith "," ts).commaPieces = ts := by
  induction ts with
  | nil => exact absurd rfl hne
  | cons t ts ih =>
      have ht := h t (List.mem_cons_self ..)
      cases ts with
      | nil => exact commaPiecesFrom_of_bare ht.2
      | cons u us =>
          rw [joinWith_cons_cons]
          show commaPiecesFrom _
            (t ++ .scalar ',' :: joinWith "," (u :: us)) = _
          rw [commaPiecesFrom_append ht.1, commaPiecesFrom_of_bare ht.2,
            ih (List.cons_ne_nil _ _)]
          · rfl
          · exact fun x hx => h x (List.mem_cons_of_mem _ hx)

-- =========================================================== balance

/-- A bracket or a brace of either side. -/
def isBracket (c : CodePoint) : Bool :=
  c == .scalar '[' || c == .scalar ']' || c == .scalar '\x7b'
    || c == .scalar '\x7d'

/-- Strings are closed, and no bracket stands outside them. -/
structure Flat (t : Text) : Prop where
  after : Quoting.outside.after t = .outside
  bare : ∀ c ∈ Quoting.outside.bare t, isBracket c = false

namespace Flat

theorem nil : Flat [] := ⟨rfl, fun _ hc => absurd hc List.not_mem_nil⟩

theorem append {t u : Text} (ht : Flat t) (hu : Flat u) : Flat (t ++ u) := by
  refine ⟨?_, fun c hc => ?_⟩
  · rw [Quoting.after_append, ht.after, hu.after]
  · rw [Quoting.bare_append, ht.after] at hc
    rcases List.mem_append.1 hc with hc | hc
    · exact ht.bare c hc
    · exact hu.bare c hc

/-- A text without quotes and brackets. -/
theorem of_forall {t : Text}
    (h : ∀ c ∈ t, c ≠ .scalar '"' ∧ isBracket c = false) : Flat t :=
  ⟨Quoting.after_of_no_quote fun hq => (h _ hq).1 rfl,
    fun c hc => (h c (Quoting.bare_subset hc)).2⟩

/-- A string by itself. -/
theorem quoted {t : Text} (h : Inner t) :
    Flat (.scalar '"' :: (t ++ [.scalar '"'])) := by
  refine ⟨h.after_quoted, fun c hc => ?_⟩
  rw [h.bare_quoted, List.mem_singleton] at hc
  rw [hc]
  rfl

end Flat

/-- Brackets outside strings match, and at most `n` pairs of them enclose
each other. -/
inductive Balanced : Nat → Text → Prop
  | flat {n : Nat} {t : Text} (flat : Flat t) : Balanced n t
  | append {n : Nat} {t u : Text} (first : Balanced n t)
      (second : Balanced n u) : Balanced n (t ++ u)
  | brackets {n : Nat} {t : Text} (inside : Balanced n t) :
      Balanced (n + 1) (.scalar '[' :: (t ++ [.scalar ']']))
  | braces {n : Nat} {t : Text} (inside : Balanced n t) :
      Balanced (n + 1) (.scalar '\x7b' :: (t ++ [.scalar '\x7d']))

/-- The matcher of braces passes over a piece without brackets. -/
theorem braceSpanFrom_of_bare {t : Text} {q : Quoting}
    (hbare : ∀ c ∈ q.bare t, isBracket c = false) (depth : Int)
    (rest : Text) :
    braceSpanFrom q depth (t ++ rest)
      = (braceSpanFrom (q.after t) depth rest).map (· + t.length) := by
  induction t generalizing q with
  | nil => simp
  | cons c t ih =>
      have hc : q = .outside → c ≠ .scalar '\x7b' ∧ c ≠ .scalar '\x7d' := by
        rintro rfl
        have hb := hbare c Quoting.mem_bare_of_outside
        constructor
        · rintro rfl
          cases hb
        · rintro rfl
          cases hb
      have hend : ¬ (q = .outside ∧ c = .scalar '\x7d' ∧ depth = 1) :=
        fun h => (hc h.1).2 h.2.1
      have hdepth : (if q ≠ .outside then depth
          else if c = .scalar '\x7b' then depth + 1
          else if c = .scalar '\x7d' then depth - 1 else depth) = depth := by
        by_cases hq : q = .outside
        · rw [if_neg (fun h => h hq), if_neg (hc hq).1, if_neg (hc hq).2]
        · rw [if_pos hq]
      rw [List.cons_append, braceSpanFrom, if_neg hend]
      dsimp only
      rw [hdepth, ih fun x hx => hbare x (Quoting.mem_bare_cons hx),
        Option.map_map, Quoting.after_cons]
      congr 1

/-- A bracket of a list is nothing to the matcher of braces. -/
theorem braceSpanFrom_bracket {c : CodePoint}
    (hc : c = .scalar '[' ∨ c = .scalar ']') (depth : Int) (t : Text) :
    braceSpanFrom .outside depth (c :: t)
      = (braceSpanFrom .outside depth t).map (· + 1) := by
  rcases hc with rfl | rfl <;> rfl

/-- An opening brace. -/
theorem braceSpanFrom_open (depth : Int) (t : Text) :
    braceSpanFrom .outside depth (.scalar '\x7b' :: t)
      = (braceSpanFrom .outside (depth + 1) t).map (· + 1) := rfl

/-- A closing brace that is not the last one. -/
theorem braceSpanFrom_close {depth : Int} (hdepth : depth ≠ 1) (t : Text) :
    braceSpanFrom .outside depth (.scalar '\x7d' :: t)
      = (braceSpanFrom .outside (depth - 1) t).map (· + 1) := by
  rw [braceSpanFrom, if_neg fun h => hdepth h.2.2]
  rfl

namespace Balanced

/-- The matcher of braces passes over balanced text between braces. -/
theorem braceSpanFrom {n : Nat} {t : Text} (h : Balanced n t)
    {depth : Int} (hdepth : 1 ≤ depth) (rest : Text) :
    Text.braceSpanFrom .outside depth (t ++ rest)
      = (Text.braceSpanFrom .outside depth rest).map (· + t.length) := by
  induction h generalizing depth rest with
  | flat h => rw [braceSpanFrom_of_bare h.bare, h.after]
  | append _ _ iht ihu =>
      rw [List.append_assoc, iht hdepth, ihu hdepth, Option.map_map,
        List.length_append]
      congr 1
      funext k
      show k + _ + _ = k + (_ + _)
      omega
  | @brackets _ t _ ih =>
      rw [List.cons_append, List.append_assoc,
        braceSpanFrom_bracket (.inl rfl), ih hdepth, List.singleton_append,
        braceSpanFrom_bracket (.inr rfl), Option.map_map, Option.map_map]
      congr 1
      funext k
      simp only [Function.comp, List.length_cons, List.length_append,
        List.length_nil]
      omega
  | @braces _ t _ ih =>
      rw [List.cons_append, List.append_assoc, braceSpanFrom_open,
        ih (by omega), List.singleton_append, braceSpanFrom_close (by omega),
        Int.add_sub_cancel, Option.map_map, Option.map_map]
      congr 1
      funext k
      simp only [Function.comp, List.length_cons, List.length_append,
        List.length_nil]
      omega

/-- The brace that matches an opening one, with balanced text between. -/
theorem braceSpan {n : Nat} {t : Text} (h : Balanced n t) (rest : Text) :
    Text.braceSpan (.scalar '\x7b' :: (t ++ .scalar '\x7d' :: rest))
      = some (t.length + 2) := by
  have hclose : Text.braceSpanFrom .outside 1 (.scalar '\x7d' :: rest)
      = some 1 := rfl
  rw [Text.braceSpan, braceSpanFrom_open, Int.zero_add,
    h.braceSpanFrom (Int.le_refl 1), hclose, Option.map_some,
    Option.map_some, Nat.add_comm 1]

end Balanced

-- ============================================================= depth

/-- The guard of depth passes over a piece without brackets. -/
theorem nestsDeeperFrom_of_bare {t : Text} {q : Quoting}
    (hbare : ∀ c ∈ q.bare t, isBracket c = false) (limit depth : Int)
    (rest : Text) :
    nestsDeeperFrom limit q depth (t ++ rest)
      = nestsDeeperFrom limit (q.after t) depth rest := by
  induction t generalizing q with
  | nil => rfl
  | cons c t ih =>
      have hc : q = .outside → isBracket c = false := by
        rintro rfl
        exact hbare c Quoting.mem_bare_of_outside
      have hopen : ¬ (q = .outside
          ∧ (c = .scalar '[' ∨ c = .scalar '\x7b')) := by
        rintro ⟨hq, rfl | rfl⟩ <;> exact absurd (hc hq) (by decide)
      have hclose : ¬ (q = .outside
          ∧ (c = .scalar ']' ∨ c = .scalar '\x7d')) := by
        rintro ⟨hq, rfl | rfl⟩ <;> exact absurd (hc hq) (by decide)
      rw [List.cons_append, nestsDeeperFrom, if_neg hopen, if_neg hclose,
        ih fun x hx => hbare x (Quoting.mem_bare_cons hx)]
      rfl

/-- An opening bracket or brace within the limit. -/
theorem nestsDeeperFrom_open {c : CodePoint}
    (hc : c = .scalar '[' ∨ c = .scalar '\x7b') {limit depth : Int}
    (h : depth + 1 ≤ limit) (t : Text) :
    nestsDeeperFrom limit .outside depth (c :: t)
      = nestsDeeperFrom limit .outside (depth + 1) t := by
  have hstep : Quoting.outside.step c = .outside := by
    rcases hc with rfl | rfl <;> rfl
  rw [nestsDeeperFrom, if_pos ⟨rfl, hc⟩, hstep,
    decide_eq_false (by omega : ¬ limit < depth + 1), Bool.false_or]

/-- A closing bracket or brace. -/
theorem nestsDeeperFrom_close {c : CodePoint}
    (hc : c = .scalar ']' ∨ c = .scalar '\x7d') (limit depth : Int)
    (t : Text) :
    nestsDeeperFrom limit .outside depth (c :: t)
      = nestsDeeperFrom limit .outside (depth - 1) t := by
  rcases hc with rfl | rfl <;> rfl

namespace Balanced

/-- The guard of depth passes over balanced text for which there is
room. -/
theorem nestsDeeperFrom {n : Nat} {t : Text} (h : Balanced n t)
    {limit depth : Int} (hroom : depth + n ≤ limit) (rest : Text) :
    Text.nestsDeeperFrom limit .outside depth (t ++ rest)
      = Text.nestsDeeperFrom limit .outside depth rest := by
  induction h generalizing depth rest with
  | flat h => rw [nestsDeeperFrom_of_bare h.bare, h.after]
  | append _ _ iht ihu => rw [List.append_assoc, iht hroom, ihu hroom]
  | brackets _ ih =>
      rw [List.cons_append, List.append_assoc,
        nestsDeeperFrom_open (.inl rfl) (by omega), ih (by omega),
        List.singleton_append, nestsDeeperFrom_close (.inl rfl),
        Int.add_sub_cancel]
  | braces _ ih =>
      rw [List.cons_append, List.append_assoc,
        nestsDeeperFrom_open (.inr rfl) (by omega), ih (by omega),
        List.singleton_append, nestsDeeperFrom_close (.inr rfl),
        Int.add_sub_cancel]

/-- Balanced text does not nest deeper than its depth. -/
theorem nestsDeeper {n limit : Nat} {t : Text} (h : Balanced n t)
    (hn : n ≤ limit) : t.nestsDeeper limit = false := by
  have hpass : Text.nestsDeeperFrom limit .outside 0 (t ++ []) = false :=
    h.nestsDeeperFrom (by omega) []
  rwa [List.append_nil] at hpass

end Balanced

end Text

end Marginalia
