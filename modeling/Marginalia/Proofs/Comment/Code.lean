/-
Where code stands on a line: at the visible characters that lie outside
every comment. A comment takes up more columns than its content, for its
delimiters are no code either; `Covers` runs over the comments of a line
like `Lexes` and keeps the columns that each of them takes up.

A line is said to have code by what stands before its first comment, and
between that comment and the next one. What stands behind the second
comment is not looked at (`hasCode_readLine`), so on a line with more
comments code may be overlooked, and it is never seen where there is none.
-/
import Mathlib.Data.List.Forall2
import Marginalia.Proofs.Comment.Lexer

namespace Marginalia

-- ============================================================= visible

namespace Text

/-- Something visible stands at a column of the text. -/
def VisibleAt (t : Text) (column : Nat) : Prop :=
  ∃ c, t[column]? = some c ∧ c.isBlank = false

/-- A slice is not blank when something visible stands at one of its
columns. -/
theorem isBlank_slice {t : Text} {first last : Nat} :
    (t.slice first last).isBlank = false
      ↔ ∃ column, first ≤ column ∧ column < last ∧ t.VisibleAt column := by
  unfold isBlank slice VisibleAt
  rw [List.all_eq_false]
  simp only [List.mem_iff_getElem?, List.getElem?_drop, List.getElem?_take,
    Bool.not_eq_true]
  constructor
  · rintro ⟨c, ⟨i, hi⟩, hc⟩
    split at hi
    · exact ⟨first + i, Nat.le_add_right .., ‹_›, c, hi, hc⟩
    · cases hi
  · rintro ⟨column, hle, hlt, c, hget, hc⟩
    refine ⟨c, ⟨column - first, ?_⟩, hc⟩
    rw [Nat.add_sub_cancel' hle, if_pos hlt, hget]

/-- Nothing stands past the end of a text. -/
theorem VisibleAt.lt_length {t : Text} {column : Nat}
    (h : t.VisibleAt column) : column < t.length := by
  obtain ⟨c, hget, -⟩ := h
  exact (List.getElem?_eq_some_iff.1 hget).1

end Text

namespace Comment

open Text (StartsAt FirstAt)

-- ============================================================= extents

/-- The columns that a comment takes up on a line, its delimiters included:
from column `first` up to column `last`. -/
structure Extent where
  first : Nat
  last : Nat
  deriving DecidableEq, Repr

/-- The column lies inside the comment. -/
def Extent.Holds (e : Extent) (column : Nat) : Prop :=
  e.first ≤ column ∧ column < e.last

/-- Code stands at a column: something visible, outside every comment. -/
def CodeAt (line : Text) (extents : List Extent) (column : Nat) : Prop :=
  line.VisibleAt column ∧ ∀ e ∈ extents, ¬ e.Holds column

/-- Is there code at a column that stands before the second comment of the
line? -/
def CodeBeforeSecond (line : Text) (extents : List Extent) : Prop :=
  ∃ column, CodeAt line extents column
    ∧ ∀ e ∈ extents[1]?, column < e.first

/-- The columns that the comments of a line take up from a column on, for a
walk that is outside there, or inside a block that began at a column. -/
inductive Covers (s : Style) (line : Text) :
    Option (Block × Nat) → Nat → List Extent → Prop
  | code {start : Nat}
      (noOpener : ∀ c, start ≤ c → ∀ o ∈ s.openers,
        ¬ StartsAt o.mark line c) :
      Covers s line none start []
  | toLineEnd {start column : Nat} {o : Opener}
      (opens : s.OpensAt line start column o) (isLine : o.closer = none) :
      Covers s line none start [⟨column, line.length⟩]
  | opened {start column : Nat} {o : Opener} {closer : Text}
      {extents : List Extent}
      (opens : s.OpensAt line start column o)
      (isBlock : o.closer = some closer)
      (rest : Covers s line (some (⟨o.mark, closer⟩, column))
        (column + o.mark.length) extents) :
      Covers s line none start extents
  | unclosed {b : Block} {began start : Nat}
      (noCloser : ∀ c, start ≤ c → ¬ StartsAt b.closer line c) :
      Covers s line (some (b, began)) start [⟨began, line.length⟩]
  | closed {b : Block} {began start column : Nat} {extents : List Extent}
      (closes : FirstAt b.closer line start column)
      (rest : Covers s line none (column + b.closer.length) extents) :
      Covers s line (some (b, began)) start
        (⟨began, column + b.closer.length⟩ :: extents)

variable {s : Style} {line : Text} {start began : Nat} {extents : List Extent}

/-- The part in front of an opener is not blank when something visible
stands at one of its columns. -/
theorem Style.isBlank_before {before after : Text} {o : Opener}
    (hsplit : s.split? (line.drop start) = some (before, o, after)) :
    before.isBlank = false
      ↔ ∃ column, start ≤ column ∧ column < start + before.length
        ∧ line.VisibleAt column := by
  have hslice : line.slice start (start + before.length) = before := by
    have hline := (Style.eq_of_split? hsplit).1
    unfold Text.slice
    rw [List.drop_take, Nat.add_sub_cancel_left, hline, List.append_assoc,
      List.take_left]
  rw [← Text.isBlank_slice, hslice]

/-- Every comment that is lexed takes up columns, and its content is among
them. -/
theorem Lexes.covers {state : Option Block}
    {segs : List Segment} {after : Option Block}
    (h : Lexes s line state start segs after) (hbegan : began ≤ start) :
    ∃ extents, Covers s line (state.map (·, began)) start extents
      ∧ List.Forall₂ (fun seg e => e.first ≤ seg.first ∧ seg.last ≤ e.last)
          segs extents := by
  induction h generalizing began with
  | code noOpener => exact ⟨[], .code noOpener, .nil⟩
  | toLineEnd opens isLine =>
      exact ⟨_, .toLineEnd opens isLine,
        .cons ⟨Nat.le_add_right .., Nat.le_refl _⟩ .nil⟩
  | @opened start column _ _ _ _ opens isBlock _ ih =>
      obtain ⟨extents, hcovers, hwithin⟩ :=
        ih (Nat.le_add_right column _)
      exact ⟨extents, .opened opens isBlock hcovers, hwithin⟩
  | unclosed noCloser =>
      exact ⟨_, .unclosed noCloser, .cons ⟨hbegan, Nat.le_refl _⟩ .nil⟩
  | closed closes _ ih =>
      obtain ⟨extents, hcovers, hwithin⟩ := ih (Nat.zero_le _)
      exact ⟨_, .closed closes hcovers,
        .cons ⟨hbegan, Nat.le_add_right ..⟩ hwithin⟩

namespace Covers

-- ============================================================== order

/-- No comment begins before the place where the walk starts, nor before
the block that is open there. -/
theorem le_first {state : Option (Block × Nat)}
    (h : Covers s line state start extents) {low : Nat} (hlow : low ≤ start)
    (hbegan : ∀ p ∈ state, low ≤ p.2) : ∀ e ∈ extents, low ≤ e.first := by
  induction h with
  | code _ => exact fun e he => absurd he List.not_mem_nil
  | toLineEnd opens _ =>
      intro e he
      rw [List.mem_singleton.1 he]
      exact Nat.le_trans hlow opens.le
  | opened opens _ _ ih =>
      have hcolumn := Nat.le_trans hlow opens.le
      refine ih (Nat.le_trans hcolumn (Nat.le_add_right ..)) fun p hp => ?_
      rw [← Option.mem_some_iff.1 hp]
      exact hcolumn
  | unclosed _ =>
      intro e he
      rw [List.mem_singleton.1 he]
      exact hbegan _ rfl
  | closed closes _ ih =>
      intro e he
      rcases List.mem_cons.1 he with rfl | he
      · exact hbegan _ rfl
      · refine ih ?_ (fun p hp => absurd hp (Option.not_mem_none p)) e he
        exact Nat.le_trans (Nat.le_trans hlow closes.le)
          (Nat.le_add_right ..)

/-- The comments of a line come one after the other. -/
theorem pairwise_first {state : Option (Block × Nat)}
    (h : Covers s line state start extents)
    (hbegan : ∀ p ∈ state, p.2 ≤ start) :
    extents.Pairwise (·.first ≤ ·.first) := by
  induction h with
  | code _ => exact .nil
  | toLineEnd _ _ => exact List.pairwise_singleton ..
  | opened _ _ _ ih =>
      refine ih fun p hp => ?_
      rw [← Option.mem_some_iff.1 hp]
      exact Nat.le_add_right ..
  | unclosed _ => exact List.pairwise_singleton ..
  | closed closes rest ih =>
      refine List.pairwise_cons.2 ⟨?_, ih fun p hp =>
        absurd hp (Option.not_mem_none p)⟩
      refine rest.le_first ?_ fun p hp => absurd hp (Option.not_mem_none p)
      exact Nat.le_trans (Nat.le_trans (hbegan _ rfl) closes.le)
        (Nat.le_add_right ..)

/-- What stands before the first comment stands before all of them. -/
theorem lt_first_of_lt_head (h : Covers s line none start extents)
    {column : Nat} (hhead : ∀ e ∈ extents.head?, column < e.first) :
    ∀ e ∈ extents, column < e.first := by
  have hsorted := h.pairwise_first fun p hp =>
    absurd hp (Option.not_mem_none p)
  cases extents with
  | nil => exact fun e he => absurd he List.not_mem_nil
  | cons first more =>
      have hfirst := hhead first rfl
      intro e he
      rcases List.mem_cons.1 he with rfl | he
      · exact hfirst
      · exact Nat.lt_of_lt_of_le hfirst
          ((List.pairwise_cons.1 hsorted).1 e he)

-- =========================================================== inversion

/-- A line that is not split has no comment. -/
theorem of_split?_none (hs : s.Delimited)
    (h : Covers s line none start extents)
    (hsplit : s.split? (line.drop start) = none) : extents = [] := by
  have hnone : ∀ {column o}, ¬ s.OpensAt line start column o :=
    fun opens => Style.not_startsAt_of_split?_drop hs.marked hsplit opens.le
      opens.counts.mem opens.counts.starts
  cases h with
  | code _ => rfl
  | toLineEnd opens _ => exact absurd opens hnone
  | opened opens _ _ => exact absurd opens hnone

/-- The first comment begins where the line is split. -/
theorem of_split?_some (hs : s.Delimited)
    (h : Covers s line none start extents) {before after : Text} {o : Opener}
    (hsplit : s.split? (line.drop start) = some (before, o, after)) :
    (o.closer = none ∧ extents = [⟨start + before.length, line.length⟩])
      ∨ ∃ closer, o.closer = some closer
        ∧ Covers s line (some (⟨o.mark, closer⟩, start + before.length))
            (start + before.length + o.mark.length) extents := by
  obtain ⟨hopens, -⟩ := Style.opensAt_of_split?_drop hs.marked hsplit
  cases h with
  | code noOpener =>
      exact absurd hopens.counts.starts
        (noOpener _ hopens.le _ hopens.counts.mem)
  | toLineEnd opens isLine =>
      obtain ⟨rfl, rfl⟩ := opens.unique hopens
      exact .inl ⟨isLine, rfl⟩
  | opened opens isBlock rest =>
      obtain ⟨rfl, rfl⟩ := opens.unique hopens
      exact .inr ⟨_, isBlock, rest⟩

/-- A block whose closer is not found takes up the rest of the line. -/
theorem of_cut?_none {b : Block}
    (h : Covers s line (some (b, began)) start extents)
    (hcut : Text.cut? b.closer (line.drop start) = none) :
    extents = [⟨began, line.length⟩] := by
  cases h with
  | unclosed _ => rfl
  | closed closes _ =>
      exact absurd closes.starts
        (Text.not_startsAt_of_cut?_drop hcut closes.le)

/-- A block ends behind its closer, and the walk goes on there. -/
theorem of_cut?_some {b : Block}
    (h : Covers s line (some (b, began)) start extents)
    {inside rest : Text}
    (hcut : Text.cut? b.closer (line.drop start) = some (inside, rest)) :
    ∃ last more, rest = line.drop last ∧ start ≤ last
      ∧ extents = ⟨began, last⟩ :: more ∧ Covers s line none last more := by
  obtain ⟨hfirst, hrest⟩ := Text.firstAt_of_cut?_drop hcut
  cases h with
  | unclosed noCloser =>
      exact absurd hfirst.starts (noCloser _ hfirst.le)
  | closed closes hcovers =>
      obtain rfl := closes.unique hfirst
      refine ⟨_, _, hrest, ?_, rfl, hcovers⟩
      exact Nat.le_trans closes.le (Nat.le_add_right ..)

-- =============================================================== code

/-- What is looked at behind a comment is what stands before the next
one. -/
theorem hasCodeIn_iff (hs : s.Delimited)
    (h : Covers s line none start extents) :
    s.hasCodeIn (line.drop start) = true
      ↔ ∃ column, start ≤ column ∧ line.VisibleAt column
        ∧ ∀ e ∈ extents.head?, column < e.first := by
  unfold Style.hasCodeIn
  cases hsplit : s.split? (line.drop start) with
  | none =>
      obtain rfl := h.of_split?_none hs hsplit
      dsimp only
      rw [Bool.not_eq_true', ← Text.slice_length, Text.isBlank_slice]
      constructor
      · rintro ⟨column, hle, -, hvisible⟩
        exact ⟨column, hle, hvisible, fun e he => absurd he nofun⟩
      · rintro ⟨column, hle, hvisible, -⟩
        exact ⟨column, hle, hvisible.lt_length, hvisible⟩
  | some parts =>
      obtain ⟨before, o, after⟩ := parts
      have hhead : extents.head?.map (·.first)
          = some (start + before.length) := by
        rcases h.of_split?_some hs hsplit with ⟨-, rfl⟩ | ⟨_, -, hblock⟩
        · rfl
        · cases hblock <;> rfl
      obtain ⟨first, hfirst, hcolumn⟩ := Option.map_eq_some_iff.1 hhead
      dsimp only
      rw [Bool.not_eq_true', Style.isBlank_before hsplit, ← hcolumn, hfirst]
      constructor
      · rintro ⟨column, hle, hlt, hvisible⟩
        refine ⟨column, hle, hvisible, fun e he => ?_⟩
        rwa [← Option.mem_some_iff.1 he]
      · rintro ⟨column, hle, hvisible, hlt⟩
        exact ⟨column, hle, hlt first rfl, hvisible⟩

end Covers

-- ================================================= before the second one

/-- A line without comments has code when it is not blank. -/
theorem codeBeforeSecond_nil :
    CodeBeforeSecond line [] ↔ line.isBlank = false := by
  have hline : line.slice 0 line.length = line := Text.slice_length ..
  rw [← hline, Text.isBlank_slice, hline]
  constructor
  · rintro ⟨column, hcode, -⟩
    exact ⟨column, Nat.zero_le _, hcode.1.lt_length, hcode.1⟩
  · rintro ⟨column, -, -, hvisible⟩
    exact ⟨column, ⟨hvisible, nofun⟩, nofun⟩

/-- A comment that runs to the end of the line has code before it only. -/
theorem codeBeforeSecond_toLineEnd :
    CodeBeforeSecond line [⟨began, line.length⟩]
      ↔ ∃ column < began, line.VisibleAt column := by
  constructor
  · rintro ⟨column, ⟨hvisible, hout⟩, -⟩
    refine ⟨column, Nat.lt_of_not_le fun hle => ?_, hvisible⟩
    exact hout _ (List.mem_cons_self ..) ⟨hle, hvisible.lt_length⟩
  · rintro ⟨column, hlt, hvisible⟩
    refine ⟨column, ⟨hvisible, fun e he hin => ?_⟩, nofun⟩
    rw [List.mem_singleton.1 he] at hin
    exact Nat.not_le.2 hlt hin.1

/-- A comment that is closed has code before it, or behind it and before
the next one. -/
theorem codeBeforeSecond_closed (hs : s.Delimited) {last : Nat}
    {more : List Extent} (hle : began ≤ last)
    (h : Covers s line none last more) :
    CodeBeforeSecond line (⟨began, last⟩ :: more)
      ↔ (∃ column < began, line.VisibleAt column)
        ∨ s.hasCodeIn (line.drop last) = true := by
  have hsecond : (⟨began, last⟩ :: more : List Extent)[1]? = more.head? :=
    List.head?_eq_getElem?.symm
  have hmore : ∀ e ∈ more, last ≤ e.first := h.le_first (Nat.le_refl _)
    fun p hp => absurd hp (Option.not_mem_none p)
  unfold CodeBeforeSecond
  rw [h.hasCodeIn_iff hs, hsecond]
  constructor
  · -- outside the first comment is before it or behind it
    rintro ⟨column, ⟨hvisible, hcode⟩, hnext⟩
    have hout := hcode _ (List.mem_cons_self ..)
    rcases Nat.lt_or_ge column began with hlt | hge
    · exact .inl ⟨column, hlt, hvisible⟩
    · refine .inr ⟨column, Nat.le_of_not_lt fun hlt => ?_, hvisible, hnext⟩
      exact hout ⟨hge, hlt⟩
  · rintro (⟨column, hlt, hvisible⟩ | ⟨column, hge, hvisible, hnext⟩)
    · have hbefore : ∀ e ∈ more, column < e.first := fun e he =>
        Nat.lt_of_lt_of_le hlt (Nat.le_trans hle (hmore e he))
      refine ⟨column, ⟨hvisible, fun e he hin => ?_⟩,
        fun e he => hbefore e (List.mem_of_mem_head? he)⟩
      rcases List.mem_cons.1 he with rfl | he
      · exact Nat.not_le.2 hlt hin.1
      · exact Nat.not_le.2 (hbefore e he) hin.1
    · refine ⟨column, ⟨hvisible, fun e he hin => ?_⟩, hnext⟩
      rcases List.mem_cons.1 he with rfl | he
      · exact Nat.not_lt.2 hge hin.2
      · exact Nat.not_le.2 (h.lt_first_of_lt_head hnext e he) hin.1

/-- A line is said to have code when it has some before its second
comment. -/
theorem Covers.hasCode_readLine (hs : s.Delimited) {state : Option Block}
    (h : Covers s line (state.map (·, 0)) 0 extents) :
    (s.readLine state line).hasCode = true
      ↔ CodeBeforeSecond line extents := by
  -- the walk and the reader look for the same thing at column 0
  cases state with
  | some b =>
      cases hcut : Text.cut? b.closer (line.drop 0) with
      | none =>
          obtain rfl := h.of_cut?_none hcut
          simp only [Style.readLine, show Text.cut? b.closer line = _ from hcut]
          rw [codeBeforeSecond_toLineEnd]
          simp only [Bool.false_eq_true, Nat.not_lt_zero, false_and,
            exists_false]
      | some parts =>
          obtain ⟨inside, rest⟩ := parts
          obtain ⟨last, more, rfl, hle, rfl, hmore⟩ := h.of_cut?_some hcut
          simp only [Style.readLine, show Text.cut? b.closer line = _ from hcut]
          rw [codeBeforeSecond_closed hs hle hmore]
          simp only [Nat.not_lt_zero, false_and, exists_false, false_or]
  | none =>
      cases hsplit : s.split? (line.drop 0) with
      | none =>
          obtain rfl := h.of_split?_none hs hsplit
          simp only [Style.readLine, show s.split? line = _ from hsplit]
          rw [codeBeforeSecond_nil, Bool.not_eq_true']
      | some parts =>
          obtain ⟨before, o, after⟩ := parts
          obtain ⟨-, rfl⟩ := Style.opensAt_of_split?_drop hs.marked hsplit
          have hbefore := Style.isBlank_before hsplit
          simp only [Nat.zero_le, true_and] at hbefore
          simp only [Style.readLine, show s.split? line = _ from hsplit]
          rcases h.of_split?_some hs hsplit with
            ⟨hline, rfl⟩ | ⟨closer, hblock, hcovers⟩
          · simp only [hline]
            rw [codeBeforeSecond_toLineEnd, Bool.not_eq_true', hbefore]
          · simp only [hblock]
            split
            · next hcut =>
              obtain rfl := hcovers.of_cut?_none hcut
              rw [codeBeforeSecond_toLineEnd, Bool.not_eq_true', hbefore]
            · next inside rest hcut =>
              obtain ⟨last, more, rfl, hle, rfl, hmore⟩ :=
                hcovers.of_cut?_some hcut
              have hbegan : 0 + before.length ≤ last :=
                Nat.le_trans (Nat.le_add_right ..) hle
              rw [codeBeforeSecond_closed hs hbegan hmore, Bool.or_eq_true,
                Bool.not_eq_true', hbefore]

-- ========================================================== whole texts

/-- Every line of a text has comments, which are lexed from the state that
the lines before it leave, and which take up columns of it. The line is said
to have code when something visible stands outside all of them, before the
second one. That is as good as code anywhere on the line unless all of it
stands behind the second comment. -/
theorem hasCode_of_line (hs : s.Delimited) (t : Text) {k : Nat} {raw : Text}
    (hraw : t.lines[k]? = some raw) :
    ∃ l, (s.lines t)[k]? = some l
      ∧ (∃ readings before segs after extents,
          LexesLines s none (t.lines.take k) readings before
            ∧ Lexes s raw before 0 segs after
            ∧ Covers s raw (before.map (·, 0)) 0 extents
            ∧ List.Forall₂ (fun seg e => e.first ≤ seg.first
                ∧ seg.last ≤ e.last) segs extents)
      ∧ ∀ readings before extents,
          LexesLines s none (t.lines.take k) readings before →
          Covers s raw (before.map (·, 0)) 0 extents →
          (l.hasCode = true ↔ CodeBeforeSecond raw extents)
            ∧ ((l.hasCode = true ↔ ∃ column, CodeAt raw extents column)
              ↔ ((∃ column, CodeAt raw extents column) →
                CodeBeforeSecond raw extents)) := by
  obtain ⟨readings, hreadings⟩ :=
    lexesLines_blockAfter hs none (t.lines.take k)
  obtain ⟨segs, hsegs, -⟩ :=
    lexes_readLine hs (s.blockAfter none (t.lines.take k)) raw
  obtain ⟨extents, hcovers, hwithin⟩ := hsegs.covers (Nat.le_refl 0)
  refine ⟨s.lineAt (1 + k) (s.blockAfter none (t.lines.take k)) raw, ?_,
    ⟨_, _, _, _, _, hreadings, hsegs, hcovers, hwithin⟩, ?_⟩
  · unfold Style.lines
    rw [s.getElem?_readLines, hraw, Option.map_some]
  · -- however the lines before are lexed, they leave the same block open
    intro readings' before extents' hlines hline
    obtain ⟨-, rfl⟩ := hlines.unique hreadings
    have hcode := hline.hasCode_readLine hs
    refine ⟨hcode, ?_⟩
    show ((s.readLine _ raw).hasCode = true ↔ _) ↔ _
    rw [hcode]
    refine ⟨Iff.mpr, fun h => ⟨?_, h⟩⟩
    rintro ⟨column, hat, -⟩
    exact ⟨column, hat⟩

/-- In `/* a */ x /* b */ y` there is code between the comments. -/
theorem hasCode_of_line_between :
    let s : Style := ⟨"c", ["//"], [("/*", "*/")]⟩
    let t : Text := "/* a */ x /* b */ y"
    s.Delimited ∧ t.lines[0]? = some t
      ∧ ∃ l, (s.lines t)[0]? = some l ∧ l.hasCode = true
        ∧ ∀ extents, Covers s t none 0 extents →
            CodeBeforeSecond t extents := by
  intro s t
  have hs : s.Delimited := by
    refine ⟨?_, ?_⟩ <;> decide
  have ht : t.lines[0]? = some t := by
    decide
  obtain ⟨l, hl, -, hall⟩ := hasCode_of_line hs t ht
  have hcode : l.hasCode = true := by
    have hcode' : (s.lines t)[0]?.map (·.hasCode) = some true := by
      decide +kernel
    rw [hl] at hcode'
    injection hcode'
  refine ⟨hs, ht, l, hl, hcode, fun extents hcovers => ?_⟩
  exact (hall [] none extents .nil hcovers).1.1 hcode

/-- In `/* a */ /* b */ x` the code stands behind the second comment, and
the line is said to have none. -/
theorem hasCode_overlooked :
    let s : Style := ⟨"c", ["//"], [("/*", "*/")]⟩
    let t : Text := "/* a */ /* b */ x"
    let extents : List Extent := [⟨0, 7⟩, ⟨8, 15⟩]
    s.Delimited ∧ Covers s t none 0 extents
      ∧ ∃ l, s.lines t = [l]
        ∧ ¬ (l.hasCode = true ↔ ∃ column, CodeAt t extents column) := by
  intro s t extents
  have hs : s.Delimited := by
    refine ⟨?_, ?_⟩ <;> decide
  refine ⟨hs, ?_, ⟨1, some "a", t, false⟩, by decide +kernel, fun h => ?_⟩
  · let o : Opener := ⟨"/*", some "*/"⟩
    have hfirst : s.split? (t.drop 0)
        = some ([], o, Text.ofString " a */ /* b */ x") := by decide
    have hclose : Text.cut? "*/" (t.drop 2)
        = some (Text.ofString " a ", Text.ofString " /* b */ x") := by decide
    have hsecond : s.split? (t.drop 7)
        = some (Text.ofString " ", o, Text.ofString " b */ x") := by decide
    have hclose' : Text.cut? "*/" (t.drop 10)
        = some (Text.ofString " b ", Text.ofString " x") := by decide
    have hrest : s.split? (t.drop 15) = none := by decide
    refine .opened (Style.opensAt_of_split?_drop hs.marked hfirst).1 rfl
      (.closed (Text.firstAt_of_cut?_drop hclose).1 ?_)
    refine .opened (Style.opensAt_of_split?_drop hs.marked hsecond).1 rfl
      (.closed (Text.firstAt_of_cut?_drop hclose').1 (.code ?_))
    intro c hc o ho
    exact Style.not_startsAt_of_split?_drop hs.marked hrest hc ho
  · refine Bool.false_ne_true (h.2 ⟨16, ⟨.scalar 'x', rfl, rfl⟩, ?_⟩)
    unfold Extent.Holds
    decide

end Comment

end Marginalia
