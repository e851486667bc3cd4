/-
The walk over the rest of a line for the block that it leaves open, by
columns of the line. One round goes from a column past the first block
comment behind it that is closed on the line; the walk halts at the end of
the line, where there is no opener, at a line comment, and at a block that is
not closed.

# Progress

A round ends behind the opener that it found, and no opener is empty, so the
column grows even where the closer is empty (`Round.lt`). It never leaves the
line, so there are no more rounds than columns, and the walk from any column
halts (`exists_walk`). Rows of a style whose opener is empty open nothing, and
all of this is said of the other rows.

# The two readings

The walk starts in the middle of a line, and a text is read from its start. It
makes no difference: what the walk finds is the block that is left open when
the rest of the line is read as a text of its own (`walk_of_line`).
-/
import Marginalia.Proofs.Comment.Lexer
import Marginalia.Proofs.Comment.Rows
import Marginalia.Proofs.Text.Lines

namespace Marginalia.Comment.Style

open Text (StartsAt FirstAt)

-- ========================================================== proper rows

/-- The style without the rows that have an empty opener. -/
def proper (s : Style) : Style :=
  { s with
    lineMarks := s.lineMarks.filter (!·.isEmpty)
    blockMarks := s.blockMarks.filter (!·.1.isEmpty) }

theorem openers_proper (s : Style) :
    s.proper.openers = s.openers.filter (!·.mark.isEmpty) := by
  unfold openers proper
  rw [List.filter_append, List.filter_map, List.filter_map]
  rfl

theorem marked_proper (s : Style) : s.proper.Marked := by
  intro o ho
  rw [openers_proper] at ho
  simpa using (List.mem_filter.1 ho).2

/-- Rows with an empty opener open nothing. -/
theorem openerAt?_proper (s : Style) (t : Text) :
    s.openerAt? t = s.proper.openerAt? t := by
  unfold openerAt?
  rw [openers_proper, List.filter_filter]
  congr 2
  funext o
  unfold opens
  cases o.mark.isEmpty <;> simp

-- ============================================================== the walk

variable (s : Style) (line : Text)

/-- One round of the walk: the first opener from a column on is that of a
block, which is closed on the line, and the walk goes on behind its closer. -/
inductive Round : Nat → Nat → Prop
  | past {pos column stop : Nat} {o : Opener} {closer : Text}
      (inside : pos < line.length)
      (opens : s.proper.OpensAt line pos column o)
      (isBlock : o.closer = some closer)
      (closes : FirstAt closer line (column + o.mark.length) stop) :
      Round pos (stop + closer.length)

/-- The walk halts at a column, with the block that is left open. -/
inductive Halts : Nat → Option Block → Prop
  | lineEnd {pos : Nat} (atEnd : line.length ≤ pos) : Halts pos none
  | code {pos : Nat}
      (noOpener : ∀ c, pos ≤ c → ∀ o ∈ s.proper.openers,
        ¬ StartsAt o.mark line c) :
      Halts pos none
  | lineComment {pos column : Nat} {o : Opener}
      (opens : s.proper.OpensAt line pos column o)
      (isLine : o.closer = none) :
      Halts pos none
  | unclosed {pos column : Nat} {o : Opener} {closer : Text}
      (opens : s.proper.OpensAt line pos column o)
      (isBlock : o.closer = some closer)
      (noCloser : ∀ c, column + o.mark.length ≤ c →
        ¬ StartsAt closer line c) :
      Halts pos (some ⟨o.mark, closer⟩)

/-- A whole walk from a column: the columns where its rounds end, and the
block that is left open where it halts. -/
inductive Walk : Nat → List Nat → Option Block → Prop
  | halt {pos : Nat} {block : Option Block} (halts : Halts s line pos block) :
      Walk pos [] block
  | round {pos next : Nat} {rest : List Nat} {block : Option Block}
      (first : Round s line pos next) (more : Walk next rest block) :
      Walk pos (next :: rest) block

variable {s line}

-- ============================================================== progress

/-- An opener lies on the line. -/
theorem OpensAt.add_length_le {pos column : Nat} {o : Opener}
    (h : s.proper.OpensAt line pos column o) :
    pos < column + o.mark.length ∧ column + o.mark.length ≤ line.length := by
  have hmark := List.length_pos_iff.2 (s.marked_proper o h.counts.mem)
  have hle := h.le
  have hstarts := h.counts.starts.length_le
  rw [List.length_drop] at hstarts
  omega

/-- A closer that is looked for on the line lies on it, an empty one too. -/
theorem add_length_le_of_firstAt {closer : Text} {start stop : Nat}
    (hstart : start ≤ line.length) (h : FirstAt closer line start stop) :
    stop + closer.length ≤ line.length := by
  have hstarts := h.starts.length_le
  rw [List.length_drop] at hstarts
  by_cases hempty : closer = []
  · have hstop : ¬ start < stop := fun hlt =>
      h.first start (Nat.le_refl _) hlt (hempty ▸ List.nil_prefix)
    rw [hempty, List.length_nil]
    omega
  · have hpos := List.length_pos_iff.2 hempty
    omega

/-- A round makes progress and stays on the line. -/
theorem Round.lt {pos next : Nat} (h : Round s line pos next) :
    pos < next ∧ next ≤ line.length := by
  obtain ⟨-, opens, -, closes⟩ := h
  obtain ⟨hpos, hmark⟩ := OpensAt.add_length_le opens
  have hstop := closes.le
  exact ⟨by omega, add_length_le_of_firstAt hmark closes⟩

/-- Rounds in a row go on and on to the right. -/
theorem pairwise_of_isChain {pos : Nat} {ps : List Nat}
    (h : (pos :: ps).IsChain (Round s line)) :
    (pos :: ps).Pairwise (· < ·) ∧ ∀ p ∈ ps, p ≤ line.length := by
  induction ps generalizing pos with
  | nil => exact ⟨List.pairwise_singleton .., nofun⟩
  | cons next ps ih =>
      obtain ⟨hround, hrest⟩ := List.isChain_cons_cons.1 h
      obtain ⟨hlt, hle⟩ := hround.lt
      obtain ⟨hpairwise, hbound⟩ := ih hrest
      refine ⟨List.pairwise_cons.2 ⟨?_, hpairwise⟩,
        List.forall_mem_cons.2 ⟨hle, hbound⟩⟩
      refine List.forall_mem_cons.2 ⟨hlt, fun p hp => ?_⟩
      exact Nat.lt_trans hlt ((List.pairwise_cons.1 hpairwise).1 p hp)

/-- There are no more rounds than columns to the right. -/
theorem length_add_le {pos : Nat} {ps : List Nat}
    (h : (pos :: ps).IsChain (Round s line)) (hpos : pos ≤ line.length) :
    pos + ps.length ≤ line.length := by
  induction ps generalizing pos with
  | nil => exact hpos
  | cons next ps ih =>
      obtain ⟨hround, hrest⟩ := List.isChain_cons_cons.1 h
      obtain ⟨hlt, hle⟩ := hround.lt
      have := ih hrest hle
      rw [List.length_cons]
      omega

-- ================================================================= runs

/-- The walk from any column halts, with the block that the rest of the line
leaves open. -/
theorem exists_walk (s : Style) (line : Text) (start : Nat) :
    ∃ ps, Walk s line start ps (s.unclosedIn (line.drop start)) := by
  rw [unclosedIn_congr s.openerAt?_proper]
  have hs := s.marked_proper
  generalize ht : line.drop start = t
  -- the cases are those of the recursion: halted, or one round and the rest
  fun_induction unclosedIn s.proper t generalizing start with
  | case1 t h =>
      subst ht
      exact ⟨[], .halt (.code fun c hc o ho =>
        not_startsAt_of_split?_drop hs h hc ho)⟩
  | case2 t before o after h hcloser =>
      subst ht
      obtain ⟨hopens, -⟩ := opensAt_of_split?_drop hs h
      exact ⟨[], .halt (.lineComment hopens hcloser)⟩
  | case3 t before o after h closer hcloser hcut =>
      subst ht
      obtain ⟨hopens, rfl⟩ := opensAt_of_split?_drop hs h
      exact ⟨[], .halt (.unclosed hopens hcloser fun c hc =>
        Text.not_startsAt_of_cut?_drop hcut hc)⟩
  | case4 t before o after h closer hcloser inside rest hcut hlt ih =>
      subst ht
      obtain ⟨hopens, rfl⟩ := opensAt_of_split?_drop hs h
      obtain ⟨hcloses, hrest⟩ := Text.firstAt_of_cut?_drop hcut
      obtain ⟨ps, hwalk⟩ := ih _ hrest.symm
      have hinside := OpensAt.add_length_le hopens
      exact ⟨_, .round (.past (by omega) hopens hcloser hcloses) hwalk⟩

/-- A walk goes from round to round. -/
theorem Walk.isChain {pos : Nat} {ps : List Nat} {block : Option Block}
    (h : Walk s line pos ps block) : (pos :: ps).IsChain (Round s line) := by
  induction h with
  | halt _ => exact .singleton _
  | round first _ ih => exact .cons_cons first ih

/-- A walk takes the comments of the line as they come, so there is one block
that it can leave open. -/
theorem Walk.lexes {pos : Nat} {ps : List Nat} {block : Option Block}
    (h : Walk s line pos ps block) :
    ∃ segs, Lexes s.proper line none pos segs block := by
  induction h with
  | halt halts =>
      cases halts with
      | lineEnd atEnd =>
          refine ⟨_, .code fun c hc o ho hstarts => ?_⟩
          have hlength := List.IsPrefix.length_le hstarts
          rw [List.length_drop] at hlength
          exact s.marked_proper o ho (List.length_eq_zero_iff.1 (by omega))
      | code noOpener => exact ⟨_, .code noOpener⟩
      | lineComment opens isLine => exact ⟨_, .toLineEnd opens isLine⟩
      | unclosed opens isBlock noCloser =>
          exact ⟨_, .opened opens isBlock (.unclosed noCloser)⟩
  | round first _ ih =>
      obtain ⟨-, opens, isBlock, closes⟩ := first
      obtain ⟨segs, hrest⟩ := ih
      exact ⟨_, .opened opens isBlock (.closed closes hrest)⟩

theorem Walk.unique {pos : Nat} {ps ps' : List Nat}
    {block block' : Option Block}
    (h : Walk s line pos ps block) (h' : Walk s line pos ps' block') :
    block = block' := by
  obtain ⟨segs, hlexes⟩ := h.lexes
  obtain ⟨segs', hlexes'⟩ := h'.lexes
  exact (hlexes.unique hlexes').2

-- ========================================================== one-line texts

/-- A line that starts outside blocks leaves the block open that the walk
over all of it finds. -/
theorem block_readLine_none (s : Style) (raw : Text) :
    (s.readLine none raw).block = s.unclosedIn raw := by
  rw [unclosedIn_eq, readLine]
  cases s.split? raw with
  | none => rfl
  | some found =>
      obtain ⟨before, o, after⟩ := found
      dsimp only
      cases o.closer with
      | none => rfl
      | some closer =>
          dsimp only
          cases Text.cut? closer after <;> rfl

/-- A text without line ends leaves the block open that the walk over it
finds. -/
theorem blockAfter_lines (s : Style) {t : Text}
    (ht : .scalar '\n' ∉ t ∧ .scalar '\r' ∉ t) :
    s.blockAfter none t.lines = s.unclosedIn t := by
  by_cases hempty : t = []
  · rw [hempty, unclosedIn_eq]
    rfl
  · rw [Text.lines_plain ht hempty]
    exact s.block_readLine_none t

/-- The walk over a line from any of its columns. Rounds in a row go strictly
to the right and stay on the line, so there are no more of them than columns
that are left. There is a whole walk, which ends with the block that is
found; and every whole walk ends with the block that is left open behind the
rest of the line, when that is read as a text of its own. -/
theorem walk_of_line (s : Style) {line : Text}
    (hline : .scalar '\n' ∉ line ∧ .scalar '\r' ∉ line) {start : Nat}
    (hstart : start ≤ line.length) :
    (∀ ps, (start :: ps).IsChain (Round s line) →
        (start :: ps).Pairwise (· < ·) ∧ (∀ p ∈ ps, p ≤ line.length)
          ∧ start + ps.length ≤ line.length)
      ∧ (∃ ps, Walk s line start ps (s.unclosedIn (line.drop start)))
      ∧ ∀ ps block, Walk s line start ps block →
        (start :: ps).IsChain (Round s line)
          ∧ block = s.unclosedIn (line.drop start)
          ∧ block = s.blockAfter none (Text.lines (line.drop start)) := by
  obtain ⟨ps, hwalk⟩ := exists_walk s line start
  refine ⟨fun ps hps => ?_, ⟨ps, hwalk⟩, fun ps' block h => ?_⟩
  · obtain ⟨hpairwise, hbound⟩ := pairwise_of_isChain hps
    exact ⟨hpairwise, hbound, length_add_le hps hstart⟩
  · have hrest : .scalar '\n' ∉ line.drop start
        ∧ .scalar '\r' ∉ line.drop start :=
      ⟨fun h => hline.1 (List.mem_of_mem_drop h),
        fun h => hline.2 (List.mem_of_mem_drop h)⟩
    rw [s.blockAfter_lines hrest]
    exact ⟨h.isChain, h.unique hwalk, h.unique hwalk⟩

/-- A style with empty openers and an empty closer. From the second column on
a block that is closed at once and another one are passed before one that
stays open. -/
theorem walk_of_line_empty :
    let s : Style := ⟨"a", ["", "#"], [("", "]"), ("<", ""), ("/*", "*/"),
      ("(*", "*)")]⟩
    let line : Text := "(< /* # */ (* )"
    (.scalar '\n' ∉ line ∧ .scalar '\r' ∉ line) ∧ 1 ≤ line.length
      ∧ (∃ ps, Walk s line 1 ps (some ⟨"(*", "*)"⟩))
      ∧ s.blockAfter none (Text.lines (line.drop 1)) = some ⟨"(*", "*)"⟩ := by
  intro s line
  have hline : .scalar '\n' ∉ line ∧ .scalar '\r' ∉ line := by decide
  have hblock : s.unclosedIn (line.drop 1) = some ⟨"(*", "*)"⟩ := by
    decide +kernel
  have hstart : 1 ≤ line.length := by decide
  obtain ⟨-, ⟨ps, hwalk⟩, hwhole⟩ := walk_of_line s hline hstart
  obtain ⟨-, -, hafter⟩ := hwhole ps _ hwalk
  rw [hblock] at hwalk hafter
  exact ⟨hline, hstart, ⟨ps, hwalk⟩, hafter.symm⟩

end Marginalia.Comment.Style
