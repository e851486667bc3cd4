/-
The order of the rows of a comment style. Of two openers that start at one
place the longer one counts, and an opener is told by its mark, so a style
whose marks are all different has one longest opener at each place, whichever
row it is in (`openerAt?_perm`). Everything else that is read off a line goes
through that choice (`readLine_congr`), so rows can be put in any order.

Empty marks open nothing; they may come as often as they like, and with any
closers.
-/
import Mathlib.Data.List.Nodup
import Marginalia.Scan

namespace Marginalia.Comment.Style

-- ============================================================== openers

/-- The marks of a style in which something stands, those of line comments
and those of blocks together. -/
def marks (s : Style) : List Text :=
  (s.lineMarks ++ s.blockMarks.map (·.1)).filter (!·.isEmpty)

/-- Two openers are weighed in either order, unless they are equally long
and different. -/
theorem longer_comm {a b : Opener}
    (h : a.mark.length = b.mark.length → a = b) (best : Option Opener) :
    longer (longer best a) b = longer (longer best b) a := by
  by_cases hlength : a.mark.length = b.mark.length
  · rw [h hlength]
  · cases best with
    | none => grind [longer]
    | some _ => grind [longer]

/-- Marks that start one text are equal when they are equally long. -/
theorem mark_eq_of_opens {t : Text} {a b : Opener} (ha : opens t a = true)
    (hb : opens t b = true) (h : a.mark.length = b.mark.length) :
    a.mark = b.mark := by
  unfold opens at ha hb
  have hprefix : a.mark <+: b.mark :=
    List.prefix_of_prefix_length_le
      (List.isPrefixOf_iff_prefix.1 (Bool.and_eq_true_iff.1 ha).2)
      (List.isPrefixOf_iff_prefix.1 (Bool.and_eq_true_iff.1 hb).2)
      (Nat.le_of_eq h)
  exact hprefix.eq_of_length h

variable {s s' : Style}

/-- Where the marks of a style are all different, an opener is told by its
mark. -/
theorem eq_of_mark_eq (hdistinct : s.marks.Nodup) {a b : Opener}
    (ha : a ∈ s.openers) (hb : b ∈ s.openers) (hne : a.mark ≠ [])
    (h : a.mark = b.mark) : a = b := by
  have hmarks : (s.openers.filter (!·.mark.isEmpty)).map (·.mark)
      = s.marks := by
    have hall : s.openers.map (·.mark)
        = s.lineMarks ++ s.blockMarks.map (·.1) := by
      simp [openers, Function.comp_def]
    unfold marks
    rw [← hall, List.filter_map]
    rfl
  rw [← hmarks] at hdistinct
  have hmem : ∀ o ∈ s.openers, o.mark ≠ [] →
      o ∈ s.openers.filter (!·.mark.isEmpty) := by
    intro o ho hne
    refine List.mem_filter.2 ⟨ho, ?_⟩
    rw [List.isEmpty_eq_false_iff.2 hne]
    rfl
  exact List.inj_on_of_nodup_map hdistinct (hmem a ha hne)
    (hmem b hb (h ▸ hne)) h

/-- The opener that counts at the start of a text is the same one for any
order of the rows. -/
theorem openerAt?_perm (hdistinct : s.marks.Nodup)
    (hperm : s.openers.Perm s'.openers) (t : Text) :
    s.openerAt? t = s'.openerAt? t := by
  refine (hperm.filter (opens t)).foldl_eq' ?_ none
  intro a ha b hb best
  obtain ⟨ha, haopens⟩ := List.mem_filter.1 ha
  obtain ⟨hb, hbopens⟩ := List.mem_filter.1 hb
  have hne : a.mark ≠ [] := by
    unfold opens at haopens
    simpa using (Bool.and_eq_true_iff.1 haopens).1
  exact longer_comm (fun hlength =>
    eq_of_mark_eq hdistinct ha hb hne
      (mark_eq_of_opens haopens hbopens hlength)) best

-- ================================================================ lines

/-- The block that a text leaves open, by the first opener in it. -/
theorem unclosedIn_eq (s : Style) (t : Text) :
    s.unclosedIn t = match s.split? t with
      | none => none
      | some (_, o, after) =>
        match o.closer with
        | none => none
        | some closer =>
          match Text.cut? closer after with
          | none => some ⟨o.mark, closer⟩
          | some (_, rest) => s.unclosedIn rest := by
  fun_cases s.unclosedIn t with
  | case1 hsplit => simp only [hsplit]
  | case2 _ _ _ hsplit hcloser => simp only [hsplit, hcloser]
  | case3 _ _ _ hsplit _ hcloser hcut => simp only [hsplit, hcloser, hcut]
  | case4 _ _ _ hsplit _ hcloser _ _ hcut =>
      simp only [hsplit, hcloser, hcut]

section

variable (h : ∀ t, s.openerAt? t = s'.openerAt? t)

include h

theorem split?_congr (t : Text) : s.split? t = s'.split? t := by
  induction t with
  | nil => rfl
  | cons c t ih =>
      unfold split?
      rw [h, ih]

theorem hasCodeIn_congr (t : Text) : s.hasCodeIn t = s'.hasCodeIn t := by
  unfold hasCodeIn
  rw [split?_congr h]

theorem unclosedIn_congr (t : Text) : s.unclosedIn t = s'.unclosedIn t := by
  fun_induction s.unclosedIn t with
  | case1 t hsplit => rw [unclosedIn_eq s' t, ← split?_congr h, hsplit]
  | case2 t _ _ _ hsplit hcloser =>
      rw [unclosedIn_eq s' t, ← split?_congr h, hsplit]
      simp only [hcloser]
  | case3 t _ _ _ hsplit _ hcloser hcut =>
      rw [unclosedIn_eq s' t, ← split?_congr h, hsplit]
      simp only [hcloser, hcut]
  | case4 t _ _ _ hsplit _ hcloser _ _ hcut _ ih =>
      rw [unclosedIn_eq s' t, ← split?_congr h, hsplit]
      simp only [hcloser, hcut]
      exact ih

/-- What is read off a line goes through the choice of the opener. -/
theorem readLine_congr (block : Option Block) (raw : Text) :
    s.readLine block raw = s'.readLine block raw := by
  unfold readLine
  simp only [split?_congr h, hasCodeIn_congr h, unclosedIn_congr h]

theorem lines_congr (t : Text) : s.lines t = s'.lines t := by
  have hread : ∀ (raws : List Text) (n : LineNumber) (block : Option Block),
      s.readLines n block raws = s'.readLines n block raws := by
    intro raws
    induction raws with
    | nil => intro n block; rfl
    | cons raw rest ih =>
        intro n block
        simp only [readLines, readLine_congr h, ih]
  exact hread t.lines 1 none

end

/-- The rows of a style can be put in any order. Two styles with the same
marks of line comments and the same pairs of marks of blocks, in whatever
order, read the same lines off every text and scan it alike, when the marks
that open comments are all different but for empty ones. -/
theorem rows_reordered (hlines : s.lineMarks.Perm s'.lineMarks)
    (hblocks : s.blockMarks.Perm s'.blockMarks) (hdistinct : s.marks.Nodup)
    (report : Bool) (t : Text) :
    s.lines t = s'.lines t
      ∧ Scan.ofText s report t = Scan.ofText s' report t := by
  have hopeners : s.openers.Perm s'.openers :=
    (hlines.map _).append (hblocks.map _)
  have hsame := lines_congr (openerAt?_perm hdistinct hopeners) t
  refine ⟨hsame, ?_⟩
  unfold Scan.ofText
  rw [hsame]

/-- Marks that start each other, an empty one of either sort, and a line with
a block behind a comment that could have begun a column later. -/
theorem rows_reordered_overlapping :
    let s : Style := ⟨"a", ["-", "", "--"], [("--[[", "]]"), ("", "x"),
      ("[", "]"), ("", "y")]⟩
    let s' : Style := ⟨"b", ["--", "-", ""], [("", "y"), ("[", "]"),
      ("--[[", "]]"), ("", "x")]⟩
    let t : Text := "a --[[ @!k 1 ]] b [ c\n] - d\n"
    s.lines t = s'.lines t
      ∧ (s'.lines t).map (·.content)
        = [some (Text.ofString "@!k 1"), some []]
      ∧ Scan.ofText s true t = Scan.ofText s' true t := by
  intro s s' t
  obtain ⟨hlines, hscan⟩ := @rows_reordered s s' (by decide) (by decide)
    (by decide) true t
  refine ⟨hlines, ?_, hscan⟩
  rw [← hlines]
  decide +kernel

end Marginalia.Comment.Style
