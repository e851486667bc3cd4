/-
What is decoded of written pieces. Each piece is the text of an exact value,
so it is read back as it was, and nothing is left to report: the value, the
members of the block with their tags made one with the listed ones, and
those tags.
-/
import Marginalia.Marker.Payload
import Marginalia.Proofs.Json.RoundTrip
import Marginalia.Proofs.Marker.Written

namespace Marginalia.Marker

open Json (writeString compact)

-- ========================================================== outcomes

/-- Good outcomes leave no problem. -/
theorem partitionOutcomes_ok {ε α : Type} (xs : List α) :
    partitionOutcomes (xs.map (Except.ok : α → Except ε α)) = (xs, []) := by
  induction xs with
  | nil => rfl
  | cons x xs ih => rw [List.map_cons, partitionOutcomes, ih]

-- ============================================================== lists

/-- A tag without surrogates that is not blank is read back from its
string. -/
theorem tagOfPiece_writeString {tag : Text} (hs : tag.isEncodable = true)
    (hb : tag.isBlank = false) :
    tagOfPiece (writeString compact tag) = .ok tag := by
  have hexact : Json.Exact Json.maxDepth (Json.str tag) := .scalar hs
  have hread : Json.read (writeString compact tag) = .ok (Json.str tag) :=
    Json.read_write (f := compact) rfl hexact.settled
  have hshape := Json.shaped_writeString (f := compact) 0 tag
  have htrim : (writeString compact tag).trim = writeString compact tag :=
    hshape.startsVisible.trim hshape.ends
  have hempty : ¬ (writeString compact tag).isEmpty = true :=
    Bool.false_ne_true
  have hquote : (writeString compact tag).startsWith "\"" = true := rfl
  unfold tagOfPiece
  rw [htrim]
  dsimp only
  rw [if_neg hempty, if_pos hquote, hread]
  show (if tag.isBlank = true then _ else _) = _
  rw [hb, if_neg Bool.false_ne_true]

/-- Written tags are read back. -/
theorem readTagList_writeTags {tags : List Text}
    (h : ∀ t ∈ tags, t.isEncodable = true ∧ t.isBlank = false) :
    readTagList (writeTags tags) = (tags, []) := by
  cases tags with
  | nil => rfl
  | cons tag more =>
      have hstart : (writeTags (tag :: more)).StartsVisible :=
        (Json.shaped_writeString (f := compact) 0 tag).startsVisible.joinWith _
      have hcut : (writeTags (tag :: more)).commaPieces
          = (tag :: more).map (writeString compact) := by
        refine Text.commaPieces_joinWith (List.cons_ne_nil _ _) fun t ht => ?_
        obtain ⟨s, -, rfl⟩ := List.mem_map.1 ht
        have hinner := Json.inner_flatMap_writePoint (f := compact) s
        rw [Json.writeString_eq, hinner.bare_quoted]
        exact ⟨hinner.after_quoted, by decide⟩
      have hread : ((tag :: more).map (writeString compact)).map tagOfPiece
          = (tag :: more).map Except.ok := by
        rw [List.map_map]
        exact List.map_congr_left fun t ht =>
          tagOfPiece_writeString (h t ht).1 (h t ht).2
      unfold readTagList
      rw [hstart.isBlank, if_neg Bool.false_ne_true, hcut, hread,
        partitionOutcomes_ok]

-- ============================================================= member

/-- The tags that a block's own member gives, and its problems. -/
def memberTags (members : Assoc Json) : List Text × List TagProblem :=
  match members.get? tagsMember with
  | some value => readTagsMember value
  | none => ([], [])

theorem tags_normalizeTags (members : Assoc Json) (listed : List Text) :
    (normalizeTags members listed).tags
      = tagSet (listed ++ (memberTags members).1) := rfl

theorem problems_normalizeTags (members : Assoc Json) (listed : List Text) :
    (normalizeTags members listed).problems = (memberTags members).2 := rfl

/-- The member for tags is missing, or it is an array of texts that are not
blank. -/
def HasTagTexts (members : Assoc Json) : Prop :=
  ∀ value, members.get? tagsMember = some value →
    ∃ texts : List Text, value = .array (texts.map Json.str)
      ∧ ∀ t ∈ texts, t.isBlank = false

/-- An array of texts that are not blank is read as these tags. -/
theorem readTagsMember_texts {texts : List Text}
    (h : ∀ t ∈ texts, t.isBlank = false) :
    readTagsMember (.array (texts.map Json.str)) = (texts, []) := by
  have hread : (texts.map Json.str).map tagOfItem = texts.map Except.ok := by
    rw [List.map_map]
    refine List.map_congr_left fun t ht => ?_
    show (if t.isBlank = true then _ else _) = _
    rw [h t ht, if_neg Bool.false_ne_true]
  rw [readTagsMember, hread, partitionOutcomes_ok]

/-- The texts of the member are its tags, and there is no problem. -/
theorem memberTags_of_texts {members : Assoc Json}
    (h : HasTagTexts members) :
    (memberTags members).2 = []
      ∧ ∀ x, x ∈ (memberTags members).1 ↔
        ∃ items, members.get? tagsMember = some (.array items)
          ∧ Json.str x ∈ items := by
  unfold memberTags
  cases hget : members.get? tagsMember with
  | none =>
      refine ⟨rfl, fun x => ⟨fun hx => absurd hx List.not_mem_nil, ?_⟩⟩
      rintro ⟨items, hitems, -⟩
      cases hitems
  | some value =>
      obtain ⟨texts, rfl, hblank⟩ := h value hget
      have hmember := readTagsMember_texts hblank
      dsimp only
      rw [hmember]
      refine ⟨rfl, fun x => ⟨fun hx => ?_, ?_⟩⟩
      · exact ⟨_, rfl, List.mem_map.2 ⟨x, hx, rfl⟩⟩
      · rintro ⟨items, hitems, hx⟩
        injection hitems with hitems
        injection hitems with hitems
        rw [← hitems] at hx
        obtain ⟨y, hy, heq⟩ := List.mem_map.1 hx
        injection heq with heq
        injection heq with heq
        exact heq ▸ hy

/-- The tags are those of the list and those of the member. -/
theorem mem_tags_normalizeTags {members : Assoc Json} {listed : List Text}
    (h : HasTagTexts members) (x : Text) :
    x ∈ (normalizeTags members listed).tags ↔
      x ∈ listed ∨ ∃ items, members.get? tagsMember = some (.array items)
        ∧ Json.str x ∈ items := by
  rw [tags_normalizeTags, mem_tagSet, List.mem_append,
    (memberTags_of_texts h).2]

-- =========================================================== payloads

/-- Written pieces are decoded to what was written, without a problem. -/
theorem decode_written (kind : Kind) (key : Text) {v : Scalar}
    {tags : List Text} {members : Assoc Json} (hv : v.isExact = true)
    (ht : ∀ t ∈ tags, t.isEncodable = true ∧ t.isBlank = false)
    (hm : Json.Exact Json.maxDepth (.object members))
    (htexts : HasTagTexts members) :
    Pieces.decode ⟨kind, key, some (Json.write compact (.scalar v)),
        some (Json.write compact (.object members)), some (writeTags tags)⟩
      = (⟨v, (normalizeTags members tags).properties,
          (normalizeTags members tags).tags⟩, []) := by
  have hvalue : readScalar (Json.write compact (.scalar v)) = .ok v := by
    unfold readScalar
    rw [Json.read_write (f := compact) rfl
      (.scalar (Scalar.isSettled_of_isExact hv))]
  have hblock : readProperties (Json.write compact (.object members))
      = .ok members := by
    unfold readProperties
    rw [Json.read_write (f := compact) rfl hm.settled]
  have hproblems : (normalizeTags members tags).problems = [] := by
    rw [problems_normalizeTags, (memberTags_of_texts htexts).1]
  unfold Pieces.decode decodePiece decodeTags
  dsimp only
  rw [hvalue, hblock, readTagList_writeTags ht]
  dsimp only
  rw [hproblems]
  rfl

end Marginalia.Marker
