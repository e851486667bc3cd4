/-
The comments of a line, by columns. This is the rule for what is a comment
and what is not, said without the walk that finds it: outside a block, the
leftmost place where an opener starts, and of the openers there the longest
one and then the one in the earliest row; inside a block, the first place
where its closer starts.

# The lexer and the lines

`Lexes` relates a line and the state it starts in to the segments of
comment on it and the state it leaves. A line has one reading
(`Lexes.unique`), and reading a line finds it: the content is that of the
first segment, and the block carried over is the state that all segments
leave, however many there are (`lexes_readLine`).
-/
import Marginalia.Proofs.Text.Occurrence
import Marginalia.Proofs.Comment.Lines

namespace Marginalia.Comment

open Text (StartsAt FirstAt)

-- ============================================================== openers

namespace Style

/-- No mark of the style is empty. -/
structure Delimited (s : Style) : Prop where
  lineMarks : ∀ m ∈ s.lineMarks, m ≠ []
  blockMarks : ∀ b ∈ s.blockMarks, b.1 ≠ [] ∧ b.2 ≠ []

/-- No opener of the style is empty; a closer may be. -/
def Marked (s : Style) : Prop := ∀ o ∈ s.openers, o.mark ≠ []

theorem Delimited.marked {s : Style} (h : s.Delimited) : s.Marked := by
  intro o ho
  rcases List.mem_append.1 ho with ho | ho
  · obtain ⟨m, hm, rfl⟩ := List.mem_map.1 ho
    exact h.lineMarks m hm
  · obtain ⟨b, hb, rfl⟩ := List.mem_map.1 ho
    exact (h.blockMarks b hb).1

/-- The opener that counts at a column: it starts there, openers in earlier
rows that start there too are shorter, and those in later rows are not
longer. -/
structure CountsAt (s : Style) (line : Text) (column : Nat) (o : Opener) :
    Prop where
  starts : StartsAt o.mark line column
  wins : ∃ earlier later, s.openers = earlier ++ o :: later
    ∧ (∀ o' ∈ earlier, StartsAt o'.mark line column →
      o'.mark.length < o.mark.length)
    ∧ ∀ o' ∈ later, StartsAt o'.mark line column →
      o'.mark.length ≤ o.mark.length

/-- The first opener at or after column `start`. -/
structure OpensAt (s : Style) (line : Text) (start column : Nat)
    (o : Opener) : Prop where
  le : start ≤ column
  counts : s.CountsAt line column o
  leftmost : ∀ c, start ≤ c → c < column →
    ∀ o' ∈ s.openers, ¬ StartsAt o'.mark line c

variable {s : Style} {line : Text}

/-- One opener counts at a column. -/
theorem CountsAt.unique {column : Nat} {o o' : Opener}
    (h : s.CountsAt line column o) (h' : s.CountsAt line column o') :
    o = o' := by
  obtain ⟨earlier, later, hsplit, hearlier, hlater⟩ := h.wins
  obtain ⟨earlier', later', hsplit', hearlier', hlater'⟩ := h'.wins
  rw [hsplit] at hsplit'
  rcases List.append_eq_append_iff.1 hsplit' with
    ⟨between, rfl, hb⟩ | ⟨between, rfl, hb⟩
  · cases between with
    | nil =>
        rw [List.nil_append] at hb
        injection hb
    | cons x between =>
        injection hb with hx hl
        subst hx
        have hlt := hearlier' o (by simp) h.starts
        have hle := hlater o' (by simp [hl]) h'.starts
        omega
  · cases between with
    | nil =>
        rw [List.nil_append] at hb
        injection hb with hx
        exact hx.symm
    | cons x between =>
        injection hb with hx hl
        subst hx
        have hlt := hearlier o' (by simp) h'.starts
        have hle := hlater' o (by simp [hl]) h.starts
        omega

/-- An opener that counts is one of the style's. -/
theorem CountsAt.mem {column : Nat} {o : Opener}
    (h : s.CountsAt line column o) : o ∈ s.openers := by
  obtain ⟨earlier, later, hsplit, -⟩ := h.wins
  rw [hsplit]
  exact List.mem_append_right _ (List.mem_cons_self ..)

/-- There is one first opener. -/
theorem OpensAt.unique {start column column' : Nat} {o o' : Opener}
    (h : s.OpensAt line start column o)
    (h' : s.OpensAt line start column' o') : column = column' ∧ o = o' := by
  rcases Nat.lt_trichotomy column column' with hlt | rfl | hlt
  · exact absurd h.counts.starts
      (h'.leftmost column h.le hlt o h.counts.mem)
  · exact ⟨rfl, h.counts.unique h'.counts⟩
  · exact absurd h'.counts.starts
      (h.leftmost column' h'.le hlt o' h'.counts.mem)

/-- The best of some openers, when there is a best one so far: either it
stays, or a longer one takes its place. -/
theorem foldl_longer_some {os : List Opener} {b o : Opener}
    (h : os.foldl longer (some b) = some o) :
    (o = b ∧ ∀ x ∈ os, x.mark.length ≤ b.mark.length)
      ∨ ∃ earlier later, os = earlier ++ o :: later
        ∧ b.mark.length < o.mark.length
        ∧ (∀ x ∈ earlier, x.mark.length < o.mark.length)
        ∧ ∀ x ∈ later, x.mark.length ≤ o.mark.length := by
  induction os generalizing b with
  | nil =>
      injection h with h
      exact Or.inl ⟨h.symm, fun x hx => absurd hx List.not_mem_nil⟩
  | cons a os ih =>
      rw [List.foldl_cons] at h
      by_cases hlt : b.mark.length < a.mark.length
      · rw [show longer (some b) a = some a from if_pos hlt] at h
        rcases ih h with ⟨rfl, hall⟩ | ⟨earlier, later, rfl, hb, he, hl⟩
        · exact Or.inr ⟨[], os, rfl, hlt, by simp, hall⟩
        · refine Or.inr ⟨a :: earlier, later, rfl, by omega, ?_, hl⟩
          intro x hx
          rcases List.mem_cons.1 hx with rfl | hx
          · exact hb
          · exact he x hx
      · rw [show longer (some b) a = some b from if_neg hlt] at h
        rcases ih h with ⟨rfl, hall⟩ | ⟨earlier, later, rfl, hb, he, hl⟩
        · refine Or.inl ⟨rfl, fun x hx => ?_⟩
          rcases List.mem_cons.1 hx with rfl | hx
          · omega
          · exact hall x hx
        · refine Or.inr ⟨a :: earlier, later, rfl, hb, ?_, hl⟩
          intro x hx
          rcases List.mem_cons.1 hx with rfl | hx
          · omega
          · exact he x hx

/-- The best of some openers: the first of the longest ones. -/
theorem foldl_longer_none {os : List Opener} {o : Opener}
    (h : os.foldl longer none = some o) :
    ∃ earlier later, os = earlier ++ o :: later
      ∧ (∀ x ∈ earlier, x.mark.length < o.mark.length)
      ∧ ∀ x ∈ later, x.mark.length ≤ o.mark.length := by
  cases os with
  | nil => cases h
  | cons a os =>
      rcases foldl_longer_some h with
        ⟨rfl, hall⟩ | ⟨earlier, later, rfl, hb, he, hl⟩
      · exact ⟨[], os, rfl, by simp, hall⟩
      · refine ⟨a :: earlier, later, rfl, ?_, hl⟩
        intro x hx
        rcases List.mem_cons.1 hx with rfl | hx
        · exact hb
        · exact he x hx

/-- Marks that are not empty open a text when they start it. -/
theorem opens_iff (hs : s.Marked) {o : Opener} (ho : o ∈ s.openers)
    {t : Text} : opens t o = true ↔ StartsAt o.mark t 0 := by
  unfold opens
  rw [Text.startsAt_zero, Bool.and_eq_true, Bool.not_eq_true',
    List.isEmpty_eq_false_iff]
  exact ⟨And.right, fun h => ⟨hs o ho, h⟩⟩

/-- The opener found at the head of a text is the one that counts there. -/
theorem countsAt_of_openerAt? (hs : s.Marked) {t : Text} {o : Opener}
    (h : s.openerAt? t = some o) : s.CountsAt t 0 o := by
  obtain ⟨ho, hopens⟩ := openerAt?_opens h
  refine ⟨(opens_iff hs ho).1 hopens, ?_⟩
  obtain ⟨earlier, later, hsplit, hearlier, hlater⟩ := foldl_longer_none h
  obtain ⟨earlier', rest, hopeners, rfl, hrest⟩ :=
    List.filter_eq_append_iff.1 hsplit
  obtain ⟨skipped, later', rfl, hskipped, -, rfl⟩ :=
    List.filter_eq_cons_iff.1 hrest
  have hmem : ∀ x ∈ earlier' ++ skipped ++ o :: later', x ∈ s.openers := by
    intro x hx
    rw [hopeners, ← List.append_assoc]
    exact hx
  refine ⟨earlier' ++ skipped, later', ?_, ?_, ?_⟩
  · rw [hopeners, List.append_assoc]
  · intro x hx hstarts
    have hop := (opens_iff hs (hmem x (List.mem_append_left _ hx))).2 hstarts
    rcases List.mem_append.1 hx with hx | hx
    · exact hearlier x (List.mem_filter.2 ⟨hx, hop⟩)
    · exact absurd hop (hskipped x hx)
  · intro x hx hstarts
    have hop := (opens_iff hs (hmem x
      (List.mem_append_right _ (List.mem_cons_of_mem _ hx)))).2 hstarts
    exact hlater x (List.mem_filter.2 ⟨hx, hop⟩)

/-- Where no opener is found none starts. -/
theorem not_startsAt_of_openerAt? (hs : s.Marked) {t : Text}
    (h : s.openerAt? t = none) {o : Opener} (ho : o ∈ s.openers) :
    ¬ StartsAt o.mark t 0 := by
  intro hstarts
  have hmem : o ∈ s.openers.filter (opens t) :=
    List.mem_filter.2 ⟨ho, (opens_iff hs ho).2 hstarts⟩
  have hsome : ∀ (os : List Opener) (b : Opener),
      os.foldl longer (some b) ≠ none := by
    intro os
    induction os with
    | nil => intro b hb; cases hb
    | cons a os ih =>
        intro b
        have hlonger : ∃ b', longer (some b) a = some b' := by
          by_cases hlt : b.mark.length < a.mark.length
          · exact ⟨a, if_pos hlt⟩
          · exact ⟨b, if_neg hlt⟩
        obtain ⟨b', hb'⟩ := hlonger
        rw [List.foldl_cons, hb']
        exact ih b'
  unfold openerAt? at h
  cases hf : s.openers.filter (opens t) with
  | nil =>
      rw [hf] at hmem
      cases hmem
  | cons a os =>
      rw [hf] at h
      exact hsome os a h

/-- What counts at a column counts at the head of what stands there. -/
theorem countsAt_drop {start c : Nat} {o : Opener} :
    s.CountsAt (line.drop start) c o ↔ s.CountsAt line (start + c) o := by
  constructor
  · rintro ⟨hstarts, hwins⟩
    simp only [Text.startsAt_drop] at hstarts hwins
    exact ⟨hstarts, hwins⟩
  · rintro ⟨hstarts, hwins⟩
    simp only [← Text.startsAt_drop] at hstarts hwins
    exact ⟨hstarts, hwins⟩

/-- A text is split at its first opener. -/
theorem opensAt_of_split? (hs : s.Marked) {t before after : Text}
    {o : Opener} (h : s.split? t = some (before, o, after)) :
    s.OpensAt t 0 before.length o
      ∧ after = t.drop (before.length + o.mark.length) := by
  induction t generalizing before with
  | nil => cases h
  | cons x t ih =>
      simp only [split?] at h
      split at h
      · next o' ho =>
        injection h with h
        injection h with hb h
        injection h with ho' ha
        subst hb ho' ha
        refine ⟨⟨Nat.le_refl _, countsAt_of_openerAt? hs ho, ?_⟩, ?_⟩
        · exact fun c _ hc => absurd hc (Nat.not_lt_zero c)
        · rw [List.length_nil, Nat.zero_add]
      · next hnone =>
        split at h
        · next b o' a hsplit =>
          injection h with h
          injection h with hb h
          injection h with ho' ha
          subst hb ho' ha
          -- the rest of the text begins one column later
          obtain ⟨hopens, hafter⟩ := ih hsplit
          refine ⟨⟨Nat.zero_le _, ?_, ?_⟩, ?_⟩
          · have hcounts : s.CountsAt (x :: t) (1 + b.length) o' :=
              countsAt_drop.1 hopens.counts
            rwa [Nat.add_comm] at hcounts
          · intro c _ hc o'' ho'' hstarts
            cases c with
            | zero => exact not_startsAt_of_openerAt? hs hnone ho'' hstarts
            | succ c =>
                exact hopens.leftmost c (Nat.zero_le c)
                  (Nat.lt_of_succ_lt_succ hc) o'' ho''
                  (Text.startsAt_cons_succ.1 hstarts)
          · rw [hafter, List.length_cons, Nat.add_right_comm]
            rfl
        · cases h

/-- A text that is not split has no opener anywhere. -/
theorem not_startsAt_of_split? (hs : s.Marked) {t : Text}
    (h : s.split? t = none) (c : Nat) {o : Opener} (ho : o ∈ s.openers) :
    ¬ StartsAt o.mark t c := by
  induction t generalizing c with
  | nil =>
      intro hstarts
      have hzero : StartsAt o.mark [] 0 := by
        unfold StartsAt at hstarts ⊢
        rwa [List.drop_nil] at hstarts
      have hopens := (opens_iff hs ho).2 hzero
      unfold opens Text.startsWith at hopens
      cases hm : o.mark with
      | nil => rw [hm] at hopens; cases hopens
      | cons y m => rw [hm] at hopens; cases hopens
  | cons x t ih =>
      simp only [split?] at h
      split at h
      · cases h
      · next hnone =>
        split at h
        · cases h
        · next hsplit =>
          cases c with
          | zero => exact not_startsAt_of_openerAt? hs hnone ho
          | succ c =>
              exact fun hstarts =>
                ih hsplit c (Text.startsAt_cons_succ.1 hstarts)

/-- A split behind column `start`, said of the whole line. -/
theorem opensAt_of_split?_drop (hs : s.Marked) {start : Nat}
    {before after : Text} {o : Opener}
    (h : s.split? (line.drop start) = some (before, o, after)) :
    s.OpensAt line start (start + before.length) o
      ∧ after = line.drop (start + before.length + o.mark.length) := by
  obtain ⟨hopens, hafter⟩ := opensAt_of_split? hs h
  refine ⟨⟨Nat.le_add_right .., countsAt_drop.1 hopens.counts, ?_⟩, ?_⟩
  · intro c hle hlt o' ho' hstarts
    obtain ⟨d, rfl⟩ := Nat.exists_eq_add_of_le hle
    exact hopens.leftmost d (Nat.zero_le d) (Nat.lt_of_add_lt_add_left hlt)
      o' ho' (Text.startsAt_drop.2 hstarts)
  · rw [hafter, List.drop_drop, Nat.add_assoc]

/-- No split behind column `start`, said of the whole line. -/
theorem not_startsAt_of_split?_drop (hs : s.Marked) {start : Nat}
    (h : s.split? (line.drop start) = none) {c : Nat} (hc : start ≤ c)
    {o : Opener} (ho : o ∈ s.openers) : ¬ StartsAt o.mark line c := by
  obtain ⟨d, rfl⟩ := Nat.exists_eq_add_of_le hc
  exact fun hstarts =>
    not_startsAt_of_split? hs h d ho (Text.startsAt_drop.2 hstarts)

end Style

-- ============================================================== segments

/-- A stretch of comment on a line, without its delimiters: from column
`first` up to column `last`. It is inside a block, or a line comment. -/
structure Segment where
  block : Option Block
  first : Nat
  last : Nat
  deriving DecidableEq, Repr

/-- Are the lines of the block continued with stars? They are where its opener
ends in one. -/
def Block.isStarred (b : Block) : Bool :=
  b.opener.getLast? == some (.scalar '*')

/-- The content of a stretch of comment: what stands between the white space
at its ends. In a block that is continued with stars a star at the beginning
is left out, unless a slash follows, and so is the white space behind it. -/
def Segment.content (line : Text) (seg : Segment) : Text :=
  let inside : Text := (line.slice seg.first seg.last).trim
  let isContinued : Bool := seg.block.any (·.isStarred)
    && inside.head? == some (.scalar '*')
    && inside.tail.head? != some (.scalar '/')
  if isContinued then Text.trim inside.tail else inside

/-- The comments of a line from a column on, for a walk that is outside or
inside a block there, and the block that is open at the end of the line. -/
inductive Lexes (s : Style) (line : Text) :
    Option Block → Nat → List Segment → Option Block → Prop
  | code {start : Nat}
      (noOpener : ∀ c, start ≤ c → ∀ o ∈ s.openers,
        ¬ StartsAt o.mark line c) :
      Lexes s line none start [] none
  | toLineEnd {start column : Nat} {o : Opener}
      (opens : s.OpensAt line start column o) (isLine : o.closer = none) :
      Lexes s line none start
        [⟨none, column + o.mark.length, line.length⟩] none
  | opened {start column : Nat} {o : Opener} {closer : Text}
      {segs : List Segment} {after : Option Block}
      (opens : s.OpensAt line start column o)
      (isBlock : o.closer = some closer)
      (rest : Lexes s line (some ⟨o.mark, closer⟩) (column + o.mark.length)
        segs after) :
      Lexes s line none start segs after
  | unclosed {b : Block} {start : Nat}
      (noCloser : ∀ c, start ≤ c → ¬ StartsAt b.closer line c) :
      Lexes s line (some b) start [⟨some b, start, line.length⟩] (some b)
  | closed {b : Block} {start column : Nat} {segs : List Segment}
      {after : Option Block}
      (closes : FirstAt b.closer line start column)
      (rest : Lexes s line none (column + b.closer.length) segs after) :
      Lexes s line (some b) start (⟨some b, start, column⟩ :: segs) after

/-- Lines in order, the first of them from a given state: the segments of
each, and the state after the last. -/
inductive LexesLines (s : Style) :
    Option Block → List Text → List (List Segment) → Option Block → Prop
  | nil {block : Option Block} : LexesLines s block [] [] block
  | cons {before between after : Option Block} {line : Text}
      {rest : List Text} {segs : List Segment} {more : List (List Segment)}
      (first : Lexes s line before 0 segs between)
      (others : LexesLines s between rest more after) :
      LexesLines s before (line :: rest) (segs :: more) after

variable {s : Style} {line : Text}

/-- A line is read in one way. -/
theorem Lexes.unique {state : Option Block} {start : Nat}
    {segs segs' : List Segment} {after after' : Option Block}
    (h : Lexes s line state start segs after)
    (h' : Lexes s line state start segs' after') :
    segs = segs' ∧ after = after' := by
  -- in each case the other reading has to take the same step
  induction h generalizing segs' after' with
  | code noOpener =>
      cases h' with
      | code _ => exact ⟨rfl, rfl⟩
      | toLineEnd opens _ =>
          exact absurd opens.counts.starts
            (noOpener _ opens.le _ opens.counts.mem)
      | opened opens _ _ =>
          exact absurd opens.counts.starts
            (noOpener _ opens.le _ opens.counts.mem)
  | toLineEnd opens isLine =>
      cases h' with
      | code noOpener =>
          exact absurd opens.counts.starts
            (noOpener _ opens.le _ opens.counts.mem)
      | toLineEnd opens' _ =>
          obtain ⟨rfl, rfl⟩ := opens.unique opens'
          exact ⟨rfl, rfl⟩
      | opened opens' isBlock _ =>
          obtain ⟨rfl, rfl⟩ := opens.unique opens'
          rw [isLine] at isBlock
          cases isBlock
  | opened opens isBlock _ ih =>
      cases h' with
      | code noOpener =>
          exact absurd opens.counts.starts
            (noOpener _ opens.le _ opens.counts.mem)
      | toLineEnd opens' isLine =>
          obtain ⟨rfl, rfl⟩ := opens.unique opens'
          rw [isLine] at isBlock
          cases isBlock
      | opened opens' isBlock' rest' =>
          obtain ⟨rfl, rfl⟩ := opens.unique opens'
          rw [isBlock] at isBlock'
          injection isBlock' with hcloser
          subst hcloser
          exact ih rest'
  | unclosed noCloser =>
      cases h' with
      | unclosed _ => exact ⟨rfl, rfl⟩
      | closed closes _ => exact absurd closes.starts (noCloser _ closes.le)
  | closed closes _ ih =>
      cases h' with
      | unclosed noCloser => exact absurd closes.starts (noCloser _ closes.le)
      | closed closes' rest' =>
          obtain rfl := closes.unique closes'
          obtain ⟨rfl, rfl⟩ := ih rest'
          exact ⟨rfl, rfl⟩

/-- Lines are read in one way. -/
theorem LexesLines.unique {state : Option Block} {lines : List Text}
    {segs segs' : List (List Segment)} {after after' : Option Block}
    (h : LexesLines s state lines segs after)
    (h' : LexesLines s state lines segs' after') :
    segs = segs' ∧ after = after' := by
  induction h generalizing segs' after' with
  | nil =>
      cases h'
      exact ⟨rfl, rfl⟩
  | cons first _ ih =>
      cases h' with
      | cons first' others' =>
          obtain ⟨rfl, rfl⟩ := first.unique first'
          obtain ⟨rfl, rfl⟩ := ih others'
          exact ⟨rfl, rfl⟩

-- ========================================================= reading a line

/-- A block that is not closed on the line takes the rest of it. -/
theorem lexes_of_cut?_none {b : Block} {start : Nat}
    (h : Text.cut? b.closer (line.drop start) = none) :
    Lexes s line (some b) start [⟨some b, start, line.length⟩] (some b) :=
  .unclosed fun _ hc => Text.not_startsAt_of_cut?_drop h hc

/-- A block that is closed takes what comes before its closer. -/
theorem lexes_of_cut?_some {b : Block} {start : Nat} {inside rest : Text}
    (h : Text.cut? b.closer (line.drop start) = some (inside, rest))
    {segs : List Segment} {after : Option Block}
    (hrest : Lexes s line none (start + inside.length + b.closer.length)
      segs after) :
    Lexes s line (some b) start
      (⟨some b, start, start + inside.length⟩ :: segs) after :=
  .closed (Text.firstAt_of_cut?_drop h).1 hrest

/-- The walk over the rest of a line leaves the block that its comments
leave. -/
theorem lexes_unclosedIn (hs : s.Delimited) (line : Text) (start : Nat) :
    ∃ segs, Lexes s line none start segs
      (s.unclosedIn (line.drop start)) := by
  generalize ht : line.drop start = t
  fun_induction Style.unclosedIn s t generalizing start with
  | case1 t h =>
      subst ht
      exact ⟨_, .code fun c hc o ho =>
        Style.not_startsAt_of_split?_drop hs.marked h hc ho⟩
  | case2 t before o after h hcloser =>
      subst ht
      obtain ⟨hopens, -⟩ := Style.opensAt_of_split?_drop hs.marked h
      exact ⟨_, .toLineEnd hopens hcloser⟩
  | case3 t before o after h closer hcloser hcut =>
      subst ht
      obtain ⟨hopens, rfl⟩ := Style.opensAt_of_split?_drop hs.marked h
      exact ⟨_, .opened hopens hcloser (lexes_of_cut?_none hcut)⟩
  | case4 t before o after h closer hcloser inside rest hcut hlt ih =>
      subst ht
      obtain ⟨hopens, rfl⟩ := Style.opensAt_of_split?_drop hs.marked h
      obtain ⟨segs, hsegs⟩ := ih _ (Text.firstAt_of_cut?_drop hcut).2.symm
      exact ⟨_, .opened hopens hcloser (lexes_of_cut?_some hcut hsegs)⟩

/-- A block comment that is closed, and what the rest of the line leaves. -/
theorem lexes_closed (hs : s.Delimited) {b : Block} {start : Nat}
    {inside rest : Text}
    (h : Text.cut? b.closer (line.drop start) = some (inside, rest)) :
    ∃ segs, Lexes s line (some b) start
      (⟨some b, start, start + inside.length⟩ :: segs)
      (s.unclosedIn rest) := by
  obtain ⟨-, rfl⟩ := Text.firstAt_of_cut?_drop h
  obtain ⟨segs, hsegs⟩ := lexes_unclosedIn hs line
    (start + inside.length + b.closer.length)
  exact ⟨segs, lexes_of_cut?_some h hsegs⟩

theorem Block.isStarred_eq (b : Block) :
    b.isStarred = b.opener.endsWith "*" := by
  unfold isStarred Text.endsWith
  rw [Bool.eq_iff_iff, beq_iff_eq, List.isSuffixOf_iff_suffix]
  constructor
  · intro h
    obtain ⟨front, hfront⟩ := List.getLast?_eq_some_iff.1 h
    exact ⟨front, hfront.symm⟩
  · rintro ⟨front, hfront⟩
    rw [← hfront]
    exact List.getLast?_concat

/-- The content of a stretch of a block is what its lines are read as. -/
theorem content_block (b : Block) (first last : Nat) :
    Segment.content line ⟨some b, first, last⟩
      = blockContent b.opener (line.slice first last) := by
  unfold Segment.content blockContent
  dsimp only [Option.any_some]
  rw [b.isStarred_eq]
  generalize (line.slice first last).trim = t
  cases t with
  | nil => cases b.opener.endsWith "*" <;> rfl
  | cons c rest =>
      have hstar : Text.startsWith (c :: rest) "*"
          = (some c == some (.scalar '*')) := by
        show ((CodePoint.scalar '*' == c) && true) = _
        rw [Bool.and_true, Option.some_beq_some, BEq.comm]
      by_cases hc : c = .scalar '*'
      · have hslash : Text.startsWith (c :: rest) "*/"
            = (rest.head? == some (.scalar '/')) := by
          rw [hc]
          cases rest with
          | nil => rfl
          | cons d rest =>
              show ((CodePoint.scalar '/' == d) && true) = _
              rw [Bool.and_true, List.head?_cons, Option.some_beq_some,
                BEq.comm]
        rw [hstar, hslash]
        rfl
      · have hne : (some c == some (CodePoint.scalar '*')) = false := by
          simpa using hc
        rw [hstar, List.head?_cons, hne, Bool.and_false, Bool.false_and]
        simp

/-- Outside blocks only white space is left out. -/
theorem content_line (first last : Nat) :
    Segment.content line ⟨none, first, last⟩
      = (line.slice first last).trim := rfl

/-- The content of a block comment that runs to the end of the line. -/
theorem content_toEnd (b : Block) (start : Nat) :
    Segment.content line ⟨some b, start, line.length⟩
      = blockContent b.opener (line.drop start) := by
  rw [content_block, Text.slice_length]

/-- The content of a block comment that is closed on the line. -/
theorem content_of_cut?_some {b : Block} {start : Nat} {inside rest : Text}
    (h : Text.cut? b.closer (line.drop start) = some (inside, rest)) :
    Segment.content line ⟨some b, start, start + inside.length⟩
      = blockContent b.opener inside := by
  rw [content_block, Text.slice_of_cut?_drop h]

/-- A line is read as its comments say: the content is that of the first
one, and the block left open is the one that all of them leave. -/
theorem lexes_readLine (hs : s.Delimited) (block : Option Block)
    (line : Text) :
    ∃ segs, Lexes s line block 0 segs (s.readLine block line).block
      ∧ (s.readLine block line).content
        = segs.head?.map (Segment.content line) := by
  -- the cases are those of `readLine`; what it skips is lexed all the same
  cases block with
  | some b =>
      cases hcut : Text.cut? b.closer (line.drop 0) with
      | none =>
          simp only [Style.readLine, show Text.cut? b.closer line = _ from hcut]
          refine ⟨_, lexes_of_cut?_none hcut, ?_⟩
          rw [List.head?_cons, Option.map_some, content_toEnd, List.drop_zero]
      | some parts =>
          obtain ⟨inside, rest⟩ := parts
          obtain ⟨segs, hsegs⟩ := lexes_closed hs hcut
          simp only [Style.readLine, show Text.cut? b.closer line = _ from hcut]
          refine ⟨_, hsegs, ?_⟩
          rw [List.head?_cons, Option.map_some, content_of_cut?_some hcut]
  | none =>
      cases hsplit : s.split? (line.drop 0) with
      | none =>
          simp only [Style.readLine, show s.split? line = _ from hsplit]
          exact ⟨[], .code fun c hc o ho =>
            Style.not_startsAt_of_split?_drop hs.marked hsplit hc ho, rfl⟩
      | some parts =>
          obtain ⟨before, o, after⟩ := parts
          simp only [Style.readLine, show s.split? line = _ from hsplit]
          obtain ⟨hopens, rfl⟩ := Style.opensAt_of_split?_drop hs.marked hsplit
          cases hcloser : o.closer with
          | none =>
              refine ⟨_, .toLineEnd hopens hcloser, ?_⟩
              rw [List.head?_cons, Option.map_some, content_line,
                Text.slice_length]
          | some closer =>
              dsimp only
              split
              · next hcut =>
                refine ⟨_, .opened hopens hcloser (lexes_of_cut?_none hcut), ?_⟩
                rw [List.head?_cons, Option.map_some, content_toEnd]
              · next inside rest hcut =>
                obtain ⟨segs, hsegs⟩ :=
                  lexes_closed (b := ⟨o.mark, closer⟩) hs hcut
                refine ⟨_, .opened hopens hcloser hsegs, ?_⟩
                rw [List.head?_cons, Option.map_some,
                  content_of_cut?_some hcut]

/-- Lines in order are read as their comments say. -/
theorem lexesLines_blockAfter (hs : s.Delimited) (block : Option Block)
    (raws : List Text) :
    ∃ readings, LexesLines s block raws readings
      (s.blockAfter block raws) := by
  induction raws generalizing block with
  | nil => exact ⟨[], .nil⟩
  | cons raw raws ih =>
      obtain ⟨segs, hsegs, -⟩ := lexes_readLine hs block raw
      obtain ⟨readings, hrest⟩ := ih (s.readLine block raw).block
      exact ⟨segs :: readings, .cons hsegs hrest⟩

-- ============================================================ open blocks

/-- An opener with a closer is one of the pairs of delimiters. -/
theorem Style.mem_blockMarks_of_mem_openers {o : Opener} {closer : Text}
    (ho : o ∈ s.openers) (hcloser : o.closer = some closer) :
    (o.mark, closer) ∈ s.blockMarks := by
  rcases List.mem_append.1 ho with ho | ho
  · obtain ⟨m, -, rfl⟩ := List.mem_map.1 ho
    cases hcloser
  · obtain ⟨b, hb, rfl⟩ := List.mem_map.1 ho
    injection hcloser with hcloser
    rw [← hcloser]
    exact hb

/-- A block that is open at the end of a line was open at its start, or it
is one of the style's. -/
theorem Lexes.mem_blockMarks {state after : Option Block} {start : Nat}
    {segs : List Segment} (h : Lexes s line state start segs after)
    (hstate : ∀ b, state = some b → (b.opener, b.closer) ∈ s.blockMarks) :
    ∀ b, after = some b → (b.opener, b.closer) ∈ s.blockMarks := by
  induction h with
  | code _ | toLineEnd _ _ => exact nofun
  | opened opens isBlock _ ih =>
      refine ih fun b hb => ?_
      injection hb with hb
      rw [← hb]
      exact Style.mem_blockMarks_of_mem_openers opens.counts.mem isBlock
  | unclosed _ => exact hstate
  | closed _ _ ih => exact ih nofun

theorem LexesLines.mem_blockMarks {before after : Option Block}
    {lines : List Text} {segs : List (List Segment)}
    (h : LexesLines s before lines segs after)
    (hbefore : ∀ b, before = some b → (b.opener, b.closer) ∈ s.blockMarks) :
    ∀ b, after = some b → (b.opener, b.closer) ∈ s.blockMarks := by
  induction h with
  | nil => exact hbefore
  | cons first _ ih => exact ih (first.mem_blockMarks hbefore)

/-- The block that some lines leave open is one of the style's. -/
theorem Style.mem_blockMarks_of_blockAfter (hs : s.Delimited) {raws : List Text}
    {b : Block} (h : s.blockAfter none raws = some b) :
    (b.opener, b.closer) ∈ s.blockMarks := by
  obtain ⟨readings, hlexes⟩ := lexesLines_blockAfter hs none raws
  exact hlexes.mem_blockMarks nofun b h

-- ============================================================= the texts

/-- Reading a text is running the lexer over its lines. There is a line for
each of them, in order and numbered from 1. The lexer gets through the lines
before a line and through the line itself; the line is read in the state
that it is in there, and the content is that of the first segment. -/
theorem lines_lexed (hs : s.Delimited) (t : Text) :
    (s.lines t).length = t.lines.length
      ∧ ∀ (k : Nat) (raw : Text), t.lines[k]? = some raw →
        ∃ l, (s.lines t)[k]? = some l ∧ l.number = (k : Int) + 1 ∧ l.raw = raw
          ∧ (∃ readings before segs after,
              LexesLines s none (t.lines.take k) readings before
                ∧ Lexes s raw before 0 segs after)
          ∧ ∀ readings before segs after,
            LexesLines s none (t.lines.take k) readings before →
            Lexes s raw before 0 segs after →
            before = s.blockAfter none (t.lines.take k)
              ∧ after = s.blockAfter none (t.lines.take (k + 1))
              ∧ l = s.lineAt ((k : Int) + 1) before raw
              ∧ (l.content = none ↔ segs = [])
              ∧ l.content = segs.head?.map (Segment.content raw) := by
  refine ⟨s.length_readLines 1 none t.lines, fun k raw hraw => ?_⟩
  obtain ⟨readings, hreadings⟩ :=
    lexesLines_blockAfter hs none (t.lines.take k)
  obtain ⟨segs, hsegs, hcontent⟩ := lexes_readLine hs
    (s.blockAfter none (t.lines.take k)) raw
  have hafter : (s.readLine (s.blockAfter none (t.lines.take k)) raw).block
      = s.blockAfter none (t.lines.take (k + 1)) := by
    rw [List.take_add_one, hraw, Option.toList_some, s.blockAfter_append]
    rfl
  have hnumber : (1 : LineNumber) + k = (k : Int) + 1 := Int.add_comm ..
  refine ⟨s.lineAt ((k : Int) + 1) (s.blockAfter none (t.lines.take k)) raw,
    ?_, rfl, rfl, ⟨_, _, _, _, hreadings, hsegs⟩, ?_⟩
  · unfold Style.lines
    rw [s.getElem?_readLines, hraw, Option.map_some, hnumber]
  · intro readings' before' segs' after' hlines hline
    obtain ⟨-, rfl⟩ := hlines.unique hreadings
    obtain ⟨rfl, rfl⟩ := hline.unique hsegs
    refine ⟨rfl, hafter, rfl, ?_, hcontent⟩
    show (s.readLine _ raw).content = none ↔ _
    rw [hcontent, Option.map_eq_none_iff, List.head?_eq_none_iff]

/-- In `b ]] y --[[ c` behind a line that opens a block, the block is closed
and opened again. -/
theorem lines_lexed_reopened :
    let s : Style := ⟨"lua", ["--"], [("--[[", "]]")]⟩
    let t : Text := "x --[[ a\nb ]] y --[[ c"
    s.Delimited ∧ ∃ l, (s.lines t)[1]? = some l
      ∧ l.content = some (Text.ofString "b")
      ∧ ∀ readings before segs after,
        LexesLines s none ["x --[[ a"] readings before →
        Lexes s "b ]] y --[[ c" before 0 segs after →
        before = some ⟨"--[[", "]]"⟩ ∧ after = some ⟨"--[[", "]]"⟩
          ∧ l.content = segs.head?.map (Segment.content "b ]] y --[[ c") := by
  intro s t
  have hs : s.Delimited := by
    refine ⟨?_, ?_⟩ <;> decide
  refine ⟨hs, ?_⟩
  obtain ⟨l, hl, -, -, -, hall⟩ :=
    (lines_lexed hs t).2 1 "b ]] y --[[ c" (by decide)
  have hbefore : s.blockAfter none (t.lines.take 1) = some ⟨"--[[", "]]"⟩ := by
    decide
  have hafter : s.blockAfter none (t.lines.take 2) = some ⟨"--[[", "]]"⟩ := by
    decide +kernel
  refine ⟨l, hl, ?_, ?_⟩
  · have hcontent : (s.lines t)[1]?.map (·.content)
        = some (some (Text.ofString "b")) := by
      decide +kernel
    rw [hl] at hcontent
    injection hcontent
  · intro readings before segs after hlines hline
    obtain ⟨hb, ha, -, -, hc⟩ := hall readings before segs after hlines hline
    exact ⟨hb.trans hbefore, ha.trans hafter, hc⟩

end Marginalia.Comment
