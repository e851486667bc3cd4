/-
Halves of surrogate pairs on a marker line. A line without surrogates can
still be decoded to strings with surrogates, since the escapes of a quoted
string may name half of a pair. Nothing else brings a surrogate about.

The value has one exactly when its text is accepted and names a half alone
(`isEncodable_value`), and so it is with each of the listed tags
(`isEncodable_of_tagOfPiece`). A block that is accepted without naming a half
alone has members without surrogates; the converse fails, since of members
with one name a block keeps the last. What is joined of these has a surrogate
only when one of them has (`encodable_joined`).
-/
import Marginalia.Proofs.Json.Halves
import Marginalia.Proofs.Marker.Decoded
import Marginalia.Proofs.Marker.Problems

namespace Marginalia.Marker

open Json (HalfFree Made)

-- =============================================================== values

/-- The value of a marker is part of its line. -/
theorem value_subset {t : Text} {p : Pieces} (h : pieces? t = some p) :
    ∀ raw ∈ p.value, raw ⊆ t := by
  rcases (cases_pieces? h).2 with hend | ⟨body, hbody, hread⟩
  · rw [hend]
    exact fun _ h => (Option.not_mem_none _ h).elim
  · rw [hread]
    intro raw hraw
    exact List.Subset.trans (readValue_subset.1 raw hraw)
      (List.Subset.trans (Text.trimLeft_subset body) hbody)

/-- A value that is read has no encoding exactly when its text names half of
a pair alone. -/
theorem isEncodable_of_readScalar {raw : Text} {s : Scalar}
    (h : readScalar raw = .ok s) (hraw : raw.isEncodable = true) :
    s.isEncodable = !raw.spellsHalf := by
  unfold readScalar at h
  split at h
  · next hread =>
    cases h
    exact Json.isEncodable_of_read hread hraw
  · cases h
  · cases h
  · cases h

-- ================================================================ tags

/-- Is a piece of a tag list quoted, and does it name half of a pair
alone? -/
def quotesHalf (piece : Text) : Bool :=
  piece.trim.startsWith "\"" && piece.spellsHalf

/-- A tag has no encoding exactly when its piece is quoted and names half of
a pair alone. -/
theorem isEncodable_of_tagOfPiece {piece tag : Text}
    (h : tagOfPiece piece = .ok tag) (hp : piece.isEncodable = true) :
    tag.isEncodable = !quotesHalf piece := by
  have htrim := Text.isEncodable_of_subset (Text.trim_subset piece) hp
  unfold tagOfPiece at h
  unfold quotesHalf
  dsimp only at h
  split at h
  · cases h
  · split at h
    · next hquote =>
      rw [hquote, Bool.true_and, ← Json.spellsHalf_trim]
      split at h
      · next s hread =>
        split at h
        · cases h
        · cases h
          exact Json.isEncodable_of_read hread htrim
      · cases h
    · next hquote =>
      split at h
      · cases h
      · -- a tag without quotes stands for itself
        cases h
        rw [Bool.eq_false_iff.2 hquote, htrim]
        rfl

-- ============================================================= payloads

namespace Pieces

variable (p : Pieces)

/-- The value is accepted and names half of a pair alone. -/
def HalfInValue : Prop :=
  p.valueProblem? = none ∧ ∃ raw ∈ p.value, raw.spellsHalf = true

/-- The block is accepted and names half of a pair alone. -/
def HalfInBlock : Prop :=
  p.propertiesProblem? = none ∧ ∃ raw ∈ p.properties, raw.spellsHalf = true

/-- A piece of the tag lists is accepted, and it is quoted and names half of
a pair alone. -/
def HalfInTags : Prop :=
  ∃ piece ∈ p.tagPieces,
    problem? (tagOfPiece piece) = none ∧ quotesHalf piece = true

variable {p}

/-- The value has no encoding exactly when it is accepted and names half of a
pair alone. -/
theorem isEncodable_value (hp : ∀ raw ∈ p.value, raw.isEncodable = true) :
    p.decode.1.value.isEncodable = false ↔ p.HalfInValue := by
  have hvalue : p.decode.1.value = (decodePiece .null readScalar p.value).1 :=
    rfl
  rw [hvalue]
  unfold decodePiece HalfInValue valueProblem?
  cases hv : p.value with
  | none => simp [Scalar.isEncodable]
  | some raw =>
      cases hread : readScalar raw with
      | error e => simp [hread, problem?, Scalar.isEncodable]
      | ok s =>
          have hs := isEncodable_of_readScalar hread (hp raw hv)
          simp [hread, problem?, hs]

/-- The members of the block have an encoding unless it is accepted and names
half of a pair alone. -/
theorem made_members (hp : ∀ raw ∈ p.properties, raw.isEncodable = true)
    (hhalf : ¬ p.HalfInBlock) :
    Made Scalar.isEncodable Json.maxDepth (.object p.members) := by
  have hempty : Made Scalar.isEncodable Json.maxDepth (.object []) :=
    .object List.nodup_nil (List.forall_mem_nil _) (List.forall_mem_nil _)
  unfold members decodePiece
  cases hraw : p.properties with
  | none => exact hempty
  | some raw =>
      dsimp only
      cases hread : readProperties raw with
      | error e => exact hempty
      | ok members =>
          have hfree : HalfFree raw := by
            refine ⟨hp raw hraw, Bool.eq_false_iff.2 fun h => ?_⟩
            refine hhalf ⟨?_, raw, hraw, h⟩
            simp [propertiesProblem?, hraw, hread, problem?]
          refine Json.made_encodable_of_read (t := raw) ?_ hfree
          unfold readProperties at hread
          split at hread
          · next heq =>
            cases hread
            exact heq
          · cases hread
          · cases hread

/-- The listed tags are those of the pieces that are accepted. -/
theorem mem_decodeTags {tag : Text} :
    tag ∈ (decodeTags p.tags).1
      ↔ ∃ piece ∈ p.tagPieces, tagOfPiece piece = .ok tag := by
  unfold decodeTags tagPieces
  cases p.tags with
  | none => simp
  | some inside =>
      dsimp only
      unfold readTagList
      split
      · simp
      · rw [mem_partitionOutcomes, List.mem_map]

/-- The pieces of the tag lists are parts of them. -/
theorem isEncodable_tagPieces
    (hp : ∀ inside ∈ p.tags, inside.isEncodable = true) :
    ∀ piece ∈ p.tagPieces, piece.isEncodable = true := by
  unfold tagPieces
  cases htags : p.tags with
  | none => exact List.forall_mem_nil _
  | some inside =>
      dsimp only
      split
      · exact List.forall_mem_nil _
      · intro piece hpiece
        exact Text.isEncodable_of_subset
          (Text.subset_of_mem_commaPiecesFrom hpiece) (hp inside htags)

/-- Some listed tag has no encoding exactly when some piece is accepted that
is quoted and names half of a pair alone. -/
theorem isEncodable_listed
    (hp : ∀ inside ∈ p.tags, inside.isEncodable = true) :
    (∃ tag ∈ (decodeTags p.tags).1, tag.isEncodable = false)
      ↔ p.HalfInTags := by
  have hpieces := isEncodable_tagPieces hp
  constructor
  · rintro ⟨tag, htag, hno⟩
    obtain ⟨piece, hpiece, hread⟩ := mem_decodeTags.1 htag
    refine ⟨piece, hpiece, by rw [hread]; rfl, ?_⟩
    rwa [isEncodable_of_tagOfPiece hread (hpieces piece hpiece),
      Bool.not_eq_false'] at hno
  · rintro ⟨piece, hpiece, haccepted, hhalf⟩
    cases hread : tagOfPiece piece with
    | error e =>
        rw [hread] at haccepted
        cases haccepted
    | ok tag =>
        refine ⟨tag, mem_decodeTags.2 ⟨piece, hpiece, hread⟩, ?_⟩
        rw [isEncodable_of_tagOfPiece hread (hpieces piece hpiece), hhalf]
        rfl

/-- A tag without an encoding that is listed is among the tags. -/
theorem exists_tag_of_halfInTags
    (hp : ∀ inside ∈ p.tags, inside.isEncodable = true) (h : p.HalfInTags) :
    ∃ tag ∈ p.decode.1.tags, tag.isEncodable = false := by
  obtain ⟨tag, htag, hno⟩ := (isEncodable_listed hp).2 h
  refine ⟨tag, ?_, hno⟩
  show tag ∈ (normalizeTags p.members (decodeTags p.tags).1).tags
  rw [tags_normalizeTags, mem_tagSet]
  exact List.mem_append_left _ htag

/-- The properties and the tags have an encoding unless an accepted block or
an accepted tag names half of a pair alone. -/
theorem encodable_joined (hp : EncodablePieces p) (hblock : ¬ p.HalfInBlock)
    (htags : ¬ p.HalfInTags) :
    (Json.object p.decode.1.properties).isEncodable = true
      ∧ ∀ tag ∈ p.decode.1.tags, tag.isEncodable = true := by
  have hmembers : Made Scalar.isEncodable (62 + 2) (.object p.members) :=
    made_members hp.1 hblock
  have hlisted : ∀ tag ∈ (decodeTags p.tags).1, tag.isEncodable = true :=
    fun tag htag => Bool.of_not_eq_false fun hno =>
      htags ((isEncodable_listed hp.2).1 ⟨tag, htag, hno⟩)
  have hjoined : ∀ tag ∈ (normalizeTags p.members (decodeTags p.tags).1).tags,
      tag.isEncodable = true := by
    intro tag htag
    rw [tags_normalizeTags, mem_tagSet] at htag
    rcases List.mem_append.1 htag with htag | htag
    · exact hlisted tag htag
    · exact made_of_mem_memberTags hmembers htag
  have hname : Scalar.isEncodable (.str tagsMember) = true := by decide
  exact ⟨(made_normalizeTags_of hmembers hname hjoined).isEncodable, hjoined⟩

end Pieces

end Marginalia.Marker
