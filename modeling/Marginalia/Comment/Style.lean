/-
Comment styles: how a language writes its comments. A line comment starts
with one of the style's line marks and runs to the end of the line; a block
comment runs from an opener to the closer that goes with it. Nothing else
of a language matters here.

The opener that counts is the leftmost one, and of several that start at
one place the longest, so that `<!--` beats `<` and `--[[` beats `--`; of
equally long ones the earlier row wins, line marks before block openers.
-/
import Marginalia.Text.CodePoint

namespace Marginalia.Comment

-- ============================================================= styles

/-- The marks that open line comments and the pairs of delimiters that
enclose block comments, in the order in which they are preferred. -/
structure Style where
  name : Text
  lineMarks : List Text := []
  blockMarks : List (Text × Text) := []
  deriving DecidableEq, Repr

/-- A mark that opens a comment; line comments have no closer. -/
structure Opener where
  mark : Text
  closer : Option Text
  deriving DecidableEq, Repr

/-- A block comment by its delimiters. -/
structure Block where
  opener : Text
  closer : Text
  deriving DecidableEq, Repr

namespace Style

-- ============================================================ openers

/-- All openers, line marks first. -/
def openers (s : Style) : List Opener :=
  s.lineMarks.map (⟨·, none⟩) ++ s.blockMarks.map fun b => ⟨b.1, some b.2⟩

/-- Does the text start with this opener? An empty mark opens nothing. -/
def opens (t : Text) (o : Opener) : Bool :=
  !o.mark.isEmpty && t.startsWith o.mark

/-- The better of the best opener so far and the next one: a later opener
has to be longer. -/
def longer (best : Option Opener) (o : Opener) : Option Opener :=
  match best with
  | none => some o
  | some b => if b.mark.length < o.mark.length then some o else some b

/-- The opener that counts at the start of a text. -/
def openerAt? (s : Style) (t : Text) : Option Opener :=
  (s.openers.filter (opens t)).foldl longer none

/-- The text before the first opener, that opener, and the text after
it. -/
def split? (s : Style) : Text → Option (Text × Opener × Text)
  | [] => none
  | c :: t =>
    match s.openerAt? (c :: t) with
    | some o => some ([], o, (c :: t).drop o.mark.length)
    | none =>
      match s.split? t with
      | some (before, o, after) => some (c :: before, o, after)
      | none => none

-- ======================================================= small lemmas

theorem foldl_longer_mem {os : List Opener} {best : Option Opener}
    {o : Opener} (h : os.foldl longer best = some o) :
    o ∈ os ∨ best = some o := by
  induction os generalizing best with
  | nil => exact Or.inr h
  | cons a os ih =>
    rcases ih h with hm | hb
    · exact Or.inl (List.mem_cons_of_mem _ hm)
    · cases best with
      | none => simp only [longer, Option.some.injEq] at hb; simp [hb]
      | some b =>
        simp only [longer] at hb
        split at hb
        · simp only [Option.some.injEq] at hb; simp [hb]
        · exact Or.inr hb

/-- The opener found at a text is one of the style's and starts it. -/
theorem openerAt?_opens {s : Style} {t : Text} {o : Opener}
    (h : s.openerAt? t = some o) : o ∈ s.openers ∧ opens t o := by
  rcases foldl_longer_mem h with hm | hb
  · exact List.mem_filter.1 hm
  · simp at hb

/-- Splitting at an opener loses nothing, and the mark is not empty. -/
theorem eq_of_split? {s : Style} {t before after : Text} {o : Opener}
    (h : s.split? t = some (before, o, after)) :
    t = before ++ o.mark ++ after ∧ o.mark ≠ [] := by
  induction t generalizing before with
  | nil => simp [split?] at h
  | cons c t ih =>
    simp only [split?] at h
    split at h
    · next o' ho =>
      simp only [Option.some.injEq, Prod.mk.injEq] at h
      obtain ⟨rfl, rfl, rfl⟩ := h
      have hopen := (openerAt?_opens ho).2
      simp only [opens, Bool.and_eq_true, Bool.not_eq_true',
        List.isEmpty_eq_false_iff] at hopen
      have hp : o'.mark <+: c :: t := List.isPrefixOf_iff_prefix.1 hopen.2
      exact ⟨by simpa using (List.prefix_iff_eq_append.1 hp).symm, hopen.1⟩
    · split at h
      · next b o' a hs =>
        simp only [Option.some.injEq, Prod.mk.injEq] at h
        obtain ⟨rfl, rfl, rfl⟩ := h
        exact ⟨by simp [(ih hs).1], (ih hs).2⟩
      · simp at h

end Style

end Marginalia.Comment
