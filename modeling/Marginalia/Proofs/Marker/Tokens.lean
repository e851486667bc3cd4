/-
What the tokens of a marker stand for: the value, and the pieces of a tag list.

A value is the text of a JSON scalar or it is one problem (`value_read`).

A tag list is cut at the commas outside strings, and each token, once white
space is taken off both its ends, is one tag or one problem by itself
(`tag_tokens_read`). A token that starts with a quote has to be a JSON string;
any other token is its own tag unless it holds a mark. Of all white space only
the space and the tab are marks: inside a bare token any other is let through,
though none is trimmed away at its ends (`bare_tags_marked`).
-/
import Mathlib.Data.List.Forall2
import Marginalia.Proofs.Json.Scalars
import Marginalia.Proofs.Marker.Decoded
import Marginalia.Proofs.Marker.Problems
import Marginalia.Proofs.Marker.TagLists
import Marginalia.Proofs.Text.Segments

namespace Marginalia.Marker

open Json.Grammar (Denotes ScalarText)

-- =============================================================== values

theorem readScalar_eq_ok_iff {raw : Text} {v : Scalar} :
    readScalar raw = .ok v ↔ ScalarText raw v := by
  rw [← Json.read_eq_scalar_iff]
  unfold readScalar
  constructor
  · intro h
    split at h
    · next hread =>
      cases h
      exact hread
    · cases h
    · cases h
    · cases h
  · intro hread
    rw [hread]

/-- A value is decoded when its text is that of a scalar, and to that scalar.
Any other text is no value and one problem. -/
theorem value_read (raw : Text) :
    (∀ v, decodePiece .null readScalar (some raw) = (v, [])
        ↔ ScalarText raw v)
      ∧ ((∃ v, ScalarText raw v)
        ∨ ∃ problem, decodePiece .null readScalar (some raw)
            = (.null, [problem])) := by
  simp only [← readScalar_eq_ok_iff, decodePiece]
  cases hread : readScalar raw with
  | ok v =>
      refine ⟨fun v' => ?_, .inl ⟨v, rfl⟩⟩
      simp
  | error problem =>
      refine ⟨fun v => ?_, .inr ⟨problem, rfl⟩⟩
      simp

-- =============================================================== tokens

/-- What calls for quotes: quotes, brackets, braces, commas, spaces and
tabs. -/
def marks : Text := "\"[]\x7b\x7d, \t"

theorem callsForQuotes_iff {c : CodePoint} :
    callsForQuotes c = true ↔ c ∈ marks :=
  List.contains_iff_mem

/-- What becomes of a token: a tag or a problem. -/
inductive TokenOutcome : Text → Except TagProblem Text → Prop
  | empty : TokenOutcome [] (.error .emptyPiece)
  | string {token tag : Text} (stands : Denotes token (.str tag))
      (visible : tag.isBlank = false) : TokenOutcome token (.ok tag)
  | blankString {token tag : Text} (stands : Denotes token (.str tag))
      (blank : tag.isBlank = true) : TokenOutcome token (.error .emptyPiece)
  | badString {token : Text} (quote : token.head? = some (.scalar '"'))
      (none : ∀ tag, ¬ Denotes token (.str tag)) :
      TokenOutcome token (.error (.badString token))
  | marked {token : Text} (noQuote : token.head? ≠ some (.scalar '"'))
      (mark : ∃ c ∈ token, c ∈ marks) :
      TokenOutcome token (.error (.needsQuotes token))
  | bare {token : Text} (ne : token ≠ []) (plain : ∀ c ∈ token, c ∉ marks) :
      TokenOutcome token (.ok token)

theorem head?_of_denotes_str {token tag : Text}
    (h : Denotes token (.str tag)) : token.head? = some (.scalar '"') := by
  cases h
  rfl

/-- No white space of JSON is left at the ends of a trimmed text. -/
theorem scalarText_trim_iff {piece : Text} {s : Scalar} :
    ScalarText piece.trim s ↔ Denotes piece.trim s := by
  constructor
  · rintro ⟨before, u, after, hbefore, hdenotes, hafter, heq⟩
    obtain ⟨c, w, hu, -⟩ := hdenotes.token.exists_cons
    have hne : piece.trim ≠ [] := by simp [heq, hu]
    have hspace : ∀ {c : CodePoint}, c.isBlank = false →
        ¬ Json.isSpace c = true := by
      intro c hc
      rw [Json.isSpace_of_isBlank hc]
      exact Bool.false_ne_true
    have hstart : before = [] := by
      cases before with
      | nil => rfl
      | cons d before =>
          obtain ⟨d', rest, hstart, hvisible⟩ := Text.startsVisible_trim hne
          rw [heq, List.cons_append, List.cons_append] at hstart
          obtain ⟨rfl, -⟩ := List.cons.inj hstart
          exact absurd (hbefore d (List.mem_cons_self ..)) (hspace hvisible)
    have hend : after = [] := by
      rcases List.eq_nil_or_concat after with hnil | ⟨after, d, rfl⟩
      · exact hnil
      · obtain ⟨front, d', hends, hvisible⟩ := Text.endsVisible_trim hne
        rw [heq, List.concat_eq_append, ← List.append_assoc] at hends
        obtain ⟨-, hd⟩ := List.append_inj' hends rfl
        obtain ⟨rfl, -⟩ := List.cons.inj hd
        exact absurd (hafter d (by simp)) (hspace hvisible)
    rw [hstart, hend, List.nil_append, List.append_nil] at heq
    rwa [heq]
  · intro h
    exact ⟨[], _, [], .nil, h, .nil, by simp⟩

theorem startsWith_quote_iff {t : Text} :
    t.startsWith "\"" = true ↔ t.head? = some (.scalar '"') := by
  cases t with
  | nil => exact ⟨nofun, nofun⟩
  | cons c t =>
      show ((CodePoint.scalar '"' == c) && true) = true ↔ _
      rw [Bool.and_true, beq_iff_eq, List.head?_cons, Option.some_inj]
      exact eq_comm

/-- Every token has an outcome. -/
theorem exists_tokenOutcome (token : Text) :
    ∃ outcome, TokenOutcome token outcome := by
  by_cases hempty : token = []
  · rw [hempty]
    exact ⟨_, .empty⟩
  · by_cases hquote : token.head? = some (.scalar '"')
    · by_cases hstring : ∃ tag, Denotes token (.str tag)
      · obtain ⟨tag, hstring⟩ := hstring
        cases hblank : tag.isBlank with
        | false => exact ⟨_, .string hstring hblank⟩
        | true => exact ⟨_, .blankString hstring hblank⟩
      · exact ⟨_, .badString hquote fun tag h => hstring ⟨tag, h⟩⟩
    · by_cases hmark : ∃ c ∈ token, c ∈ marks
      · exact ⟨_, .marked hquote hmark⟩
      · exact ⟨_, .bare hempty fun c hc h => hmark ⟨c, hc, h⟩⟩

section Pieces

variable {piece : Text}

/-- A token that starts with a quote is read as JSON. -/
theorem tagOfPiece_quote (hquote : piece.trim.head? = some (.scalar '"')) :
    tagOfPiece piece
      = match Json.read piece.trim with
        | .ok (.scalar (.str tag)) =>
          if tag.isBlank then .error .emptyPiece else .ok tag
        | _ => .error (.badString piece.trim) := by
  unfold tagOfPiece
  generalize piece.trim = token at *
  have hempty : ¬ token.isEmpty = true := by
    intro hempty
    rw [List.isEmpty_iff.1 hempty] at hquote
    cases hquote
  dsimp only
  rw [if_neg hempty]
  exact if_pos (startsWith_quote_iff.2 hquote)

/-- A token that is a string is read as what it stands for. -/
theorem tagOfPiece_string {tag : Text} (h : Denotes piece.trim (.str tag)) :
    tagOfPiece piece
      = if tag.isBlank then .error .emptyPiece else .ok tag := by
  have hread := Json.read_eq_scalar_iff.2 (scalarText_trim_iff.2 h)
  rw [tagOfPiece_quote (head?_of_denotes_str h), hread]

/-- A token that starts with a quote and is no string is a problem. -/
theorem tagOfPiece_badString (hquote : piece.trim.head? = some (.scalar '"'))
    (hnone : ∀ tag, ¬ Denotes piece.trim (.str tag)) :
    tagOfPiece piece = .error (.badString piece.trim) := by
  rw [tagOfPiece_quote hquote]
  split
  · next tag hread =>
    have hdenotes := scalarText_trim_iff.1 (Json.read_eq_scalar_iff.1 hread)
    exact absurd hdenotes (hnone tag)
  · rfl

/-- A token that does not start with a quote is its own tag unless it holds a
mark. -/
theorem tagOfPiece_bare (hne : piece.trim ≠ [])
    (hquote : piece.trim.head? ≠ some (.scalar '"')) :
    tagOfPiece piece
      = if piece.trim.any callsForQuotes then .error (.needsQuotes piece.trim)
        else .ok piece.trim := by
  unfold tagOfPiece
  dsimp only
  rw [if_neg (mt List.isEmpty_iff.1 hne),
    if_neg (mt startsWith_quote_iff.1 hquote)]

theorem any_callsForQuotes_iff {token : Text} :
    token.any callsForQuotes = true ↔ ∃ c ∈ token, c ∈ marks := by
  simp only [List.any_eq_true, callsForQuotes_iff]

/-- The outcome of a piece is that of its token. -/
theorem tagOfPiece_eq_iff {outcome : Except TagProblem Text} :
    tagOfPiece piece = outcome ↔ TokenOutcome piece.trim outcome := by
  have hof : ∀ {outcome}, TokenOutcome piece.trim outcome →
      tagOfPiece piece = outcome := by
    intro outcome h
    generalize htoken : piece.trim = token at h
    cases h with
    | empty =>
        unfold tagOfPiece
        rw [htoken]
        rfl
    | string stands visible =>
        rw [tagOfPiece_string (htoken ▸ stands), visible]
        rfl
    | blankString stands blank =>
        rw [tagOfPiece_string (htoken ▸ stands), blank]
        rfl
    | badString quote none =>
        subst htoken
        exact tagOfPiece_badString quote none
    | marked noQuote mark =>
        subst htoken
        have hne : piece.trim ≠ [] := by
          obtain ⟨c, hc, -⟩ := mark
          exact List.ne_nil_of_mem hc
        rw [tagOfPiece_bare hne noQuote,
          if_pos (any_callsForQuotes_iff.2 mark)]
    | bare ne plain =>
        subst htoken
        have hquote : piece.trim.head? ≠ some (.scalar '"') := fun h =>
          plain _ (List.mem_of_mem_head? h) (by decide)
        have hmark : ¬ ∃ c ∈ piece.trim, c ∈ marks := by
          rintro ⟨c, hc, hm⟩
          exact plain c hc hm
        rw [tagOfPiece_bare ne hquote,
          if_neg (mt any_callsForQuotes_iff.1 hmark)]
  constructor
  · rintro rfl
    obtain ⟨outcome, h⟩ := exists_tokenOutcome piece.trim
    rwa [hof h]
  · exact hof

/-- A tag is not blank. -/
theorem isBlank_of_tagOfPiece {tag : Text} (h : tagOfPiece piece = .ok tag) :
    tag.isBlank = false := by
  rw [tagOfPiece_eq_iff] at h
  generalize htoken : piece.trim = token at h
  cases h with
  | string _ visible => exact visible
  | bare ne _ =>
      subst htoken
      exact (Text.startsVisible_trim ne).isBlank

end Pieces

-- ================================================================ lists

/-- The tags among some outcomes, in order. -/
theorem tags_partitionOutcomes {ε α : Type} (outcomes : List (Except ε α)) :
    (partitionOutcomes outcomes).1 = outcomes.filterMap Except.toOption := by
  induction outcomes with
  | nil => rfl
  | cons outcome rest ih =>
      cases outcome with
      | ok a => exact congrArg (a :: ·) ih
      | error e => exact ih

theorem mem_problems_iff {ε α : Type} {outcomes : List (Except ε α)} {e : ε} :
    e ∈ (partitionOutcomes outcomes).2 ↔ .error e ∈ outcomes := by
  induction outcomes with
  | nil => exact ⟨nofun, nofun⟩
  | cons outcome rest ih => cases outcome <;> simp [partitionOutcomes, ih]

theorem decodeTags_blank {inside : Text} (h : inside.isBlank = true) :
    decodeTags (some inside) = ([], []) := readTagList_of_isBlank h

theorem decodeTags_visible {inside : Text} (h : inside.isBlank = false) :
    decodeTags (some inside)
      = partitionOutcomes (inside.commaPieces.map tagOfPiece) := by
  show readTagList inside = _
  rw [readTagList, h, if_neg Bool.false_ne_true]

/-- A tag list is cut at the commas outside its strings, which loses nothing,
and each token in order is one tag or one problem, whatever the others are. A
list that is missing or blank has neither. -/
theorem tag_tokens_read :
    (∀ raw : Option Text, (∀ inside ∈ raw, inside.isBlank = true) →
      decodeTags raw = ([], []))
    ∧ ∀ inside : Text, inside.isBlank = false →
      Text.joinWith "," inside.commaPieces = inside
      ∧ (∃ segments, Text.Segmented inside segments
        ∧ ∀ u v, inside = u ++ .scalar ',' :: v →
          (Text.CutAt inside.commaPieces u v
            ↔ Text.CommaOutside segments u v))
      ∧ (∃ outcomes,
        List.Forall₂ (fun piece outcome => TokenOutcome piece.trim outcome)
          inside.commaPieces outcomes
        ∧ decodeTags (some inside)
          = (outcomes.filterMap Except.toOption, outcomes.filterMap problem?))
      ∧ (decodeTags (some inside)).1.length
          + (decodeTags (some inside)).2.length = inside.commaPieces.length
      ∧ ∀ tag ∈ (decodeTags (some inside)).1, tag.isBlank = false := by
  refine ⟨fun raw hraw => ?_, fun inside hinside => ?_⟩
  · cases raw with
    | none => rfl
    | some inside => exact decodeTags_blank (hraw inside rfl)
  · rw [decodeTags_visible hinside]
    refine ⟨Text.joinWith_commaPieces inside, ?_, ?_, ?_, fun tag htag => ?_⟩
    · obtain ⟨segments, hsegments⟩ := Text.Segmented.exists_segmented inside
      refine ⟨segments, hsegments, ?_⟩
      rintro u v rfl
      exact Text.cutAt_iff hsegments
    · refine ⟨inside.commaPieces.map tagOfPiece, ?_, ?_⟩
      · rw [List.forall₂_map_right_iff, List.forall₂_same]
        exact fun piece _ => tagOfPiece_eq_iff.1 rfl
      · rw [← tags_partitionOutcomes, ← problems_partitionOutcomes]
    · rw [partitionOutcomes_length, List.length_map]
    · obtain ⟨piece, -, heq⟩ := List.mem_map.1 (mem_partitionOutcomes.1 htag)
      exact isBlank_of_tagOfPiece heq

/-- A list of five tokens, one of each kind of string, bare token and
problem. -/
theorem tag_tokens_read_mixed :
    let inside := Text.ofString "a, \"b,\\\"]\", , x y, \"d, e"
    inside.isBlank = false
      ∧ (decodeTags (some inside)).1 = [Text.ofString "a", "b,\"]"]
      ∧ (decodeTags (some inside)).2.map TagProblem.message
        = [TagProblem.emptyPiece, .needsQuotes "x y",
            .badString "\"d, e"].map TagProblem.message
      ∧ (decodeTags (some inside)).1.length
          + (decodeTags (some inside)).2.length
        = inside.commaPieces.length := by
  intro inside
  have hvisible : inside.isBlank = false := by decide
  obtain ⟨-, -, -, hlength, -⟩ := tag_tokens_read.2 inside hvisible
  exact ⟨hvisible, by decide +kernel, by decide +kernel, hlength⟩

-- ========================================================== bare tokens

/-- A token of the list is a string that stands for the tag. -/
def QuotedToken (inside tag : Text) : Prop :=
  ∃ piece ∈ inside.commaPieces, Denotes piece.trim (.str tag)

/-- A token of the list that is not empty and does not start with a quote. -/
structure BareToken (inside token : Text) : Prop where
  mem : ∃ piece ∈ inside.commaPieces, piece.trim = token
  ne : token ≠ []
  noQuote : token.head? ≠ some (.scalar '"')

/-- White space and punctuation: what a bare token is not meant to hold. -/
def Forbidden (c : CodePoint) : Prop :=
  c.isBlank = true ∨ c ∈ Text.ofString "\"[]\x7b\x7d,"

/-- A tag stands in quotes in the list, or it is a bare token without any of
the code points; and a bare token with one of them is reported and dropped. -/
structure BareTagsWithout (P : CodePoint → Prop) (inside : Text) : Prop where
  source : ∀ tag ∈ (decodeTags (some inside)).1,
    QuotedToken inside tag ∨ (BareToken inside tag ∧ ∀ c ∈ tag, ¬ P c)
  dropped : ∀ token, BareToken inside token → (∃ c ∈ token, P c) →
    .needsQuotes token ∈ (decodeTags (some inside)).2
      ∧ (token ∈ (decodeTags (some inside)).1 → QuotedToken inside token)

section Lists

variable {inside : Text}

/-- The tokens of a blank list are empty. -/
theorem trim_of_mem_commaPieces {piece : Text} (h : inside.isBlank = true)
    (hpiece : piece ∈ inside.commaPieces) : piece.trim = [] := by
  have hblank : piece.isBlank = true :=
    List.all_eq_true.2 fun c hc =>
      List.all_eq_true.1 h c (Text.subset_of_mem_commaPiecesFrom hpiece hc)
  exact Text.trim_append_blank hblank []

/-- Of an empty token nothing becomes but the problem that it is empty. -/
theorem TokenOutcome.of_nil {outcome : Except TagProblem Text}
    (h : TokenOutcome [] outcome) : outcome = .error .emptyPiece := by
  generalize htoken : ([] : Text) = token at h
  cases h with
  | empty => rfl
  | string stands =>
      rw [← htoken] at stands
      cases head?_of_denotes_str stands
  | blankString => rfl
  | badString quote =>
      rw [← htoken] at quote
      cases quote
  | marked _ mark =>
      obtain ⟨c, hc, -⟩ := mark
      rw [← htoken] at hc
      exact absurd hc List.not_mem_nil
  | bare ne => exact absurd htoken.symm ne

/-- The tags of a list are the good outcomes of its tokens. -/
theorem mem_tags_iff {tag : Text} :
    tag ∈ (decodeTags (some inside)).1
      ↔ ∃ piece ∈ inside.commaPieces, TokenOutcome piece.trim (.ok tag) := by
  cases hblank : inside.isBlank with
  | true =>
      rw [decodeTags_blank hblank]
      refine ⟨nofun, ?_⟩
      rintro ⟨piece, hpiece, h⟩
      rw [trim_of_mem_commaPieces hblank hpiece] at h
      cases h.of_nil
  | false =>
      rw [decodeTags_visible hblank, mem_partitionOutcomes]
      simp only [List.mem_map, tagOfPiece_eq_iff]

/-- The problems of a list but for its empty tokens are the bad outcomes of its
tokens. -/
theorem mem_problems_decodeTags_iff {problem : TagProblem}
    (hproblem : problem ≠ .emptyPiece) :
    problem ∈ (decodeTags (some inside)).2
      ↔ ∃ piece ∈ inside.commaPieces,
        TokenOutcome piece.trim (.error problem) := by
  cases hblank : inside.isBlank with
  | true =>
      rw [decodeTags_blank hblank]
      refine ⟨nofun, ?_⟩
      rintro ⟨piece, hpiece, h⟩
      rw [trim_of_mem_commaPieces hblank hpiece] at h
      injection h.of_nil with hempty
      exact absurd hempty hproblem
  | false =>
      rw [decodeTags_visible hblank, mem_problems_iff]
      simp only [List.mem_map, tagOfPiece_eq_iff]

/-- The tokens that are reported for want of quotes are the bare ones with a
mark. -/
theorem mem_needsQuotes_iff {token : Text} :
    .needsQuotes token ∈ (decodeTags (some inside)).2
      ↔ BareToken inside token ∧ ∃ c ∈ token, c ∈ marks := by
  have hother : TagProblem.needsQuotes token ≠ .emptyPiece := nofun
  rw [mem_problems_decodeTags_iff hother]
  constructor
  · rintro ⟨piece, hpiece, h⟩
    generalize htoken : piece.trim = other at h
    cases h with
    | marked noQuote mark =>
        have hne : token ≠ [] := by
          obtain ⟨c, hc, -⟩ := mark
          exact List.ne_nil_of_mem hc
        exact ⟨⟨⟨piece, hpiece, htoken⟩, hne, noQuote⟩, mark⟩
  · rintro ⟨⟨⟨piece, hpiece, rfl⟩, -, noQuote⟩, mark⟩
    exact ⟨piece, hpiece, .marked noQuote mark⟩

/-- A tag stands in quotes in the list, or it is a bare token without marks. -/
theorem source_of_mem_tags {tag : Text}
    (h : tag ∈ (decodeTags (some inside)).1) :
    QuotedToken inside tag
      ∨ (BareToken inside tag ∧ ∀ c ∈ tag, c ∉ marks) := by
  obtain ⟨piece, hpiece, h⟩ := mem_tags_iff.1 h
  generalize htoken : piece.trim = token at h
  cases h with
  | string stands => exact .inl ⟨piece, hpiece, htoken ▸ stands⟩
  | bare ne plain =>
      refine .inr ⟨⟨⟨piece, hpiece, htoken⟩, ne, fun hquote => ?_⟩, plain⟩
      exact plain _ (List.mem_of_mem_head? hquote) (by decide)

theorem mem_marks_of_punctuation {c : CodePoint}
    (h : c ∈ Text.ofString "\"[]\x7b\x7d,") : c ∈ marks := by
  have hall : ∀ c ∈ Text.ofString "\"[]\x7b\x7d,", c ∈ marks := by decide
  exact hall c h

end Lists

/-- Bare tags are without marks, whatever the list. They are without white
space of any kind just when each bare token with white space in it holds a mark
as well. -/
theorem bare_tags_marked (inside : Text) :
    BareTagsWithout (· ∈ marks) inside
      ∧ (BareTagsWithout Forbidden inside
        ↔ ∀ token, BareToken inside token →
          (∃ c ∈ token, c.isBlank = true) → ∃ c ∈ token, c ∈ marks) := by
  have hmarks : BareTagsWithout (· ∈ marks) inside := by
    refine ⟨fun tag htag => source_of_mem_tags htag,
      fun token htoken hmark => ⟨mem_needsQuotes_iff.2 ⟨htoken, hmark⟩,
        fun htag => ?_⟩⟩
    rcases source_of_mem_tags htag with hquoted | ⟨-, hplain⟩
    · exact hquoted
    · obtain ⟨c, hc, hm⟩ := hmark
      exact absurd hm (hplain c hc)
  refine ⟨hmarks, fun h token htoken hblank => ?_, fun hblank => ⟨?_, ?_⟩⟩
  · obtain ⟨c, hc, hspace⟩ := hblank
    obtain ⟨hreported, -⟩ := h.dropped token htoken ⟨c, hc, .inl hspace⟩
    exact (mem_needsQuotes_iff.1 hreported).2
  · intro tag htag
    rcases hmarks.source tag htag with hquoted | ⟨hbare, hplain⟩
    · exact .inl hquoted
    · refine .inr ⟨hbare, fun c hc hforbidden => ?_⟩
      rcases hforbidden with hspace | hpoint
      · obtain ⟨m, hm, hmark⟩ := hblank tag hbare ⟨c, hc, hspace⟩
        exact hplain m hm hmark
      · exact hplain c hc (mem_marks_of_punctuation hpoint)
  · intro token htoken hforbidden
    refine hmarks.dropped token htoken ?_
    obtain ⟨c, hc, hspace | hpoint⟩ := hforbidden
    · exact hblank token htoken ⟨c, hc, hspace⟩
    · exact ⟨c, hc, mem_marks_of_punctuation hpoint⟩

/-- A bare token with a no-break space in it is a tag. -/
theorem bare_tags_marked_no_break_space :
    ¬ BareTagsWithout Forbidden "a\u00a0b" := by
  intro h
  have hbare : BareToken "a\u00a0b" "a\u00a0b" :=
    ⟨⟨"a\u00a0b", by decide, by decide⟩, by decide, by decide⟩
  have hspace : Forbidden (.scalar '\u00a0') := .inl (by decide)
  have hnone : (decodeTags (some "a\u00a0b")).2.isEmpty = true := by
    decide +kernel
  obtain ⟨hreported, -⟩ := h.dropped _ hbare
    ⟨.scalar '\u00a0', by decide, hspace⟩
  rw [List.isEmpty_iff.1 hnone] at hreported
  exact absurd hreported List.not_mem_nil

end Marginalia.Marker
