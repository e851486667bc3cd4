/-
The lines of a text one by one. Line `k` is read in the state that the
lines before it leave, and it is numbered by its place; everything that is
said of a single line is said of `readLine`, and `getElem?_readLines` takes
it to a whole text.

Of the lines before a line only the block that they leave open counts, and
how many they are: what is read behind a cut is read as at the start of a
text, in that block and with larger numbers (`readLines_append`,
`readLines_add`).
-/
import Marginalia.Comment.Line
import Marginalia.Proofs.Text.Trim

namespace Marginalia.Comment

/-- The same line with another number. -/
def Line.renumber (f : LineNumber → LineNumber) (l : Line) : Line :=
  { l with number := f l.number }

/-- Of a renumbering only what becomes of the numbers counts. -/
theorem Line.map_renumber_congr {f g : LineNumber → LineNumber}
    {lines : List Line} (h : ∀ l ∈ lines, f l.number = g l.number) :
    lines.map (renumber f) = lines.map (renumber g) := by
  refine List.map_congr_left fun l hl => ?_
  unfold renumber
  rw [h l hl]

namespace Style

-- =========================================================== open blocks

/-- The block that is open after some lines, which start in the given
state. -/
def blockAfter (s : Style) (block : Option Block) (raws : List Text) :
    Option Block :=
  raws.foldl (fun b raw => (s.readLine b raw).block) block

theorem blockAfter_append (s : Style) (block : Option Block)
    (first rest : List Text) :
    s.blockAfter block (first ++ rest)
      = s.blockAfter (s.blockAfter block first) rest :=
  List.foldl_append

-- ============================================================= the lines

/-- A line as it is read in a given state. -/
def lineAt (s : Style) (number : LineNumber) (block : Option Block)
    (raw : Text) : Line :=
  ⟨number, (s.readLine block raw).content, raw,
    (s.readLine block raw).hasCode⟩

theorem readLines_cons (s : Style) (number : LineNumber)
    (block : Option Block) (raw : Text) (rest : List Text) :
    s.readLines number block (raw :: rest)
      = s.lineAt number block raw
        :: s.readLines (number + 1) (s.readLine block raw).block rest := rfl

/-- There are as many lines as there were. -/
theorem length_readLines (s : Style) (number : LineNumber)
    (block : Option Block) (raws : List Text) :
    (s.readLines number block raws).length = raws.length := by
  induction raws generalizing number block with
  | nil => rfl
  | cons raw rest ih =>
      rw [readLines_cons, List.length_cons, ih, List.length_cons]

theorem length_lines (s : Style) (t : Text) :
    (s.lines t).length = t.lines.length :=
  s.length_readLines ..

/-- Each line is read in the state that the lines before it leave. -/
theorem getElem?_readLines (s : Style) (number : LineNumber)
    (block : Option Block) (raws : List Text) (k : Nat) :
    (s.readLines number block raws)[k]?
      = raws[k]?.map (s.lineAt (number + k)
          (s.blockAfter block (raws.take k))) := by
  induction raws generalizing number block k with
  | nil => simp [readLines]
  | cons raw rest ih =>
      rw [readLines_cons]
      cases k with
      | zero => simp [blockAfter]
      | succ k =>
          rw [List.getElem?_cons_succ, List.getElem?_cons_succ, ih,
            List.take_succ_cons]
          have hnum : ∀ n : Int, n + 1 + k = n + ((k + 1 : Nat) : Int) := by
            intro n
            omega
          rw [hnum number]
          rfl

/-- Lines that are read in two stretches. -/
theorem readLines_append (s : Style) (number : LineNumber)
    (block : Option Block) (first rest : List Text) :
    s.readLines number block (first ++ rest)
      = s.readLines number block first
        ++ s.readLines (number + first.length) (s.blockAfter block first)
          rest := by
  induction first generalizing number block with
  | nil =>
      rw [List.length_nil, Int.natCast_zero, Int.add_zero]
      rfl
  | cons raw first ih =>
      have hnumber : ∀ n : Int,
          n + 1 + first.length = n + ((raw :: first).length : Int) := by
        intro n
        rw [List.length_cons]
        omega
      rw [List.cons_append, readLines_cons, ih, readLines_cons,
        List.cons_append, hnumber number]
      rfl

/-- Lines that are numbered from a later number on. -/
theorem readLines_add (s : Style) (number n : LineNumber)
    (block : Option Block) (raws : List Text) :
    s.readLines (number + n) block raws
      = (s.readLines number block raws).map (.renumber (· + n)) := by
  induction raws generalizing number block with
  | nil => rfl
  | cons raw rest ih =>
      rw [readLines_cons, readLines_cons, List.map_cons,
        Int.add_right_comm number, ih]
      rfl

/-- Lines are numbered from their first number up to how many they are. -/
theorem number_of_mem_readLines {s : Style} {number : LineNumber}
    {block : Option Block} {raws : List Text} {l : Line}
    (h : l ∈ s.readLines number block raws) :
    number ≤ l.number ∧ l.number < number + raws.length := by
  obtain ⟨k, hk⟩ := List.mem_iff_getElem?.1 h
  rw [getElem?_readLines] at hk
  obtain ⟨raw, hraw, rfl⟩ := Option.map_eq_some_iff.1 hk
  have hlt : k < raws.length := (List.getElem?_eq_some_iff.1 hraw).1
  have hnumber : ∀ n : Int, n ≤ n + k ∧ n + k < n + raws.length := by
    intro n
    omega
  exact hnumber number

/-- The lines of a text are numbered in increasing order. -/
theorem pairwise_number_readLines (s : Style) (number : LineNumber)
    (block : Option Block) (raws : List Text) :
    (s.readLines number block raws).Pairwise (·.number < ·.number) := by
  rw [List.pairwise_iff_getElem]
  intro i j hi hj hij
  have hget : ∀ k (hk : k < (s.readLines number block raws).length),
      (s.readLines number block raws)[k].number = number + k := by
    intro k hk
    have h := getElem?_readLines s number block raws k
    rw [List.getElem?_eq_getElem hk] at h
    obtain ⟨raw, -, hraw⟩ := Option.map_eq_some_iff.1 h.symm
    rw [← hraw]
    rfl
  rw [hget i hi, hget j hj]
  exact Int.add_lt_add_left (Int.ofNat_lt.2 hij) number

/-- The lines of a text are numbered from one up to how many there are. -/
theorem number_of_mem_lines {s : Style} {t : Text} {l : Line}
    (h : l ∈ s.lines t) : 1 ≤ l.number ∧ l.number ≤ (s.lines t).length := by
  obtain ⟨hfirst, hlast⟩ := number_of_mem_readLines h
  refine ⟨hfirst, ?_⟩
  rw [s.length_lines]
  exact Int.le_of_lt_add_one (Int.add_comm .. ▸ hlast)

-- ============================================================== content

theorem trimLeft_blockContent (opener body : Text) :
    (blockContent opener body).trimLeft = blockContent opener body := by
  unfold blockContent
  simp only
  split
  · exact Text.trimLeft_trim _
  · exact Text.trimLeft_trim _

/-- The content of a comment has no leading white space. -/
theorem trimLeft_content {s : Style} {block : Option Block} {raw content : Text}
    (h : (s.readLine block raw).content = some content) :
    content.trimLeft = content := by
  unfold readLine at h
  split at h
  · split at h
    · injection h with h
      rw [← h, trimLeft_blockContent]
    · injection h with h
      rw [← h, trimLeft_blockContent]
  · split at h
    · cases h
    · split at h
      · injection h with h
        rw [← h, Text.trimLeft_trim]
      · split at h
        · injection h with h
          rw [← h, trimLeft_blockContent]
        · injection h with h
          rw [← h, trimLeft_blockContent]

theorem blockContent_subset (opener body : Text) :
    blockContent opener body ⊆ body := by
  unfold blockContent
  simp only
  split
  · exact List.Subset.trans (Text.trim_subset _)
      (List.Subset.trans (List.drop_subset ..) (Text.trim_subset _))
  · exact Text.trim_subset _

/-- What a cut yields is part of the text. -/
theorem subset_of_cut? {pattern t before after : Text}
    (h : Text.cut? pattern t = some (before, after)) :
    before ⊆ t ∧ after ⊆ t := by
  rw [Text.eq_of_cut? h]
  exact ⟨List.subset_append_of_subset_left _ (List.subset_append_left ..),
    List.subset_append_right ..⟩

/-- The content of a comment is part of its line. -/
theorem content_subset {s : Style} {block : Option Block} {raw content : Text}
    (h : (s.readLine block raw).content = some content) : content ⊆ raw := by
  unfold readLine at h
  split at h
  · split at h
    · cases h
      exact blockContent_subset ..
    · next hcut =>
      cases h
      exact List.Subset.trans (blockContent_subset ..) (subset_of_cut? hcut).1
  · split at h
    · cases h
    · next before o after hsplit =>
      have hafter : after ⊆ raw := by
        rw [(eq_of_split? hsplit).1]
        exact List.subset_append_right ..
      split at h
      · cases h
        exact List.Subset.trans (Text.trim_subset _) hafter
      · split at h
        · cases h
          exact List.Subset.trans (blockContent_subset ..) hafter
        · next hcut =>
          cases h
          exact List.Subset.trans (blockContent_subset ..)
            (List.Subset.trans (subset_of_cut? hcut).1 hafter)

/-- Every line of a text is read in some state. -/
theorem exists_readLine_of_mem {s : Style} {t : Text} {l : Line}
    (h : l ∈ s.lines t) :
    ∃ block, l.content = (s.readLine block l.raw).content
      ∧ l.raw ∈ t.lines := by
  obtain ⟨k, hk⟩ := List.mem_iff_getElem?.1 h
  have hget := s.getElem?_readLines 1 none t.lines k
  rw [show (s.readLines 1 none t.lines)[k]? = some l from hk] at hget
  obtain ⟨raw, hraw, rfl⟩ := Option.map_eq_some_iff.1 hget.symm
  exact ⟨_, rfl, List.mem_of_getElem? hraw⟩

end Style

end Marginalia.Comment
