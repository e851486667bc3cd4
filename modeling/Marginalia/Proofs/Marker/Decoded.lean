/-
What a marker line is decoded to, whatever is written on it. The pieces are
parts of the line, so a line that has an encoding has pieces that have one;
a block that can be read gives decoded members with distinct keys, and one
that cannot gives none.

Tags are texts that are not blank. However they were written, the member for
tags holds the whole set of them afterwards, in order, and is missing when
there are none; so joining the tags once more changes nothing
(`normalizeTags_again`).
-/
import Marginalia.Proofs.Json.Decoded
import Marginalia.Proofs.Marker.Payload

namespace Marginalia.Marker

open Json (Made)

-- ============================================================== pieces

section Pieces

variable {t : Text}

theorem after?_subset {pattern rest : Text} (h : after? pattern t = some rest) :
    rest ⊆ t := by
  unfold after? at h
  split at h
  · injection h with h
    rw [← h]
    exact List.drop_subset ..
  · cases h

theorem tagList?_subset {body : Text} (h : tagList? t = some body) :
    body ⊆ t := by
  unfold tagList? at h
  obtain ⟨t₁, h₁, h⟩ := Option.bind_eq_some_iff.1 h
  obtain ⟨t₂, h₂, h₁⟩ := Option.bind_eq_some_iff.1 h₁
  have hskip : ∀ {u v : Text}, u ⊆ v.trimLeft → u ⊆ v := fun h =>
    List.Subset.trans h (Text.trimLeft_subset _)
  have hfirst := List.Subset.trans (hskip (after?_subset h₁))
    (after?_subset h₂)
  exact List.Subset.trans (hskip (after?_subset h)) hfirst

/-- The inside of a tag list and what follows it are parts of the text. -/
theorem readTags_subset :
    (∀ inside ∈ (readTags t).1, inside ⊆ t) ∧ (readTags t).2 ⊆ t := by
  unfold readTags
  split
  · exact ⟨fun _ h => (Option.not_mem_none _ h).elim, List.Subset.refl _⟩
  · next body hbody =>
    have hsub := tagList?_subset hbody
    split
    · refine ⟨fun inside h => ?_, List.nil_subset _⟩
      rw [← Option.mem_some_iff.1 h]
      exact hsub
    · refine ⟨fun inside h => ?_, List.Subset.trans (List.drop_subset ..) hsub⟩
      rw [← Option.mem_some_iff.1 h]
      exact List.Subset.trans (List.take_subset ..) hsub

/-- A value and what follows it are parts of the text. -/
theorem readValue_subset :
    (∀ raw ∈ (readValue t).1, raw ⊆ t) ∧ (readValue t).2 ⊆ t := by
  have hnone : ∀ raw ∈ (none : Option Text), raw ⊆ t := fun _ h =>
    (Option.not_mem_none _ h).elim
  have hsome : ∀ {u : Text}, u ⊆ t → ∀ raw ∈ some u, raw ⊆ t := by
    intro u hu raw h
    rw [← Option.mem_some_iff.1 h]
    exact hu
  unfold readValue
  split
  · exact ⟨hnone, List.Subset.refl _⟩
  · split
    · exact ⟨hnone, List.Subset.refl _⟩
    · split
      · split
        · exact ⟨hsome (List.Subset.refl _), List.nil_subset _⟩
        · exact ⟨hsome (List.take_subset ..), List.drop_subset ..⟩
      · exact ⟨hsome (List.takeWhile_subset _), List.dropWhile_subset _⟩

/-- A block and what follows it are parts of the text. -/
theorem readBlock_subset :
    (∀ raw ∈ (readBlock t).1, raw ⊆ t) ∧ (readBlock t).2 ⊆ t := by
  unfold readBlock
  split
  · split
    · refine ⟨fun raw h => ?_, List.nil_subset _⟩
      rw [← Option.mem_some_iff.1 h]
      exact List.Subset.refl _
    · refine ⟨fun raw h => ?_, List.drop_subset ..⟩
      rw [← Option.mem_some_iff.1 h]
      exact List.take_subset ..
  · exact ⟨fun _ h => (Option.not_mem_none _ h).elim, List.Subset.refl _⟩

/-- Two tag lists as one have an encoding when both have one. -/
theorem isEncodable_joinTags {first more : Option Text}
    (hfirst : ∀ inside ∈ first, inside.isEncodable = true)
    (hmore : ∀ inside ∈ more, inside.isEncodable = true) :
    ∀ inside ∈ joinTags first more, inside.isEncodable = true := by
  cases first with
  | none => exact hmore
  | some tags =>
      cases more with
      | none => exact hfirst
      | some more =>
          intro inside h
          rw [← Option.mem_some_iff.1 h]
          refine Text.joinWith_of_forall (P := fun u => u.isEncodable = true)
            rfl (fun _ _ ht hu => ?_) rfl fun u hu => ?_
          · rw [Text.isEncodable_append, ht, hu, Bool.and_self]
          rcases List.mem_cons.1 (List.mem_filter.1 hu).1 with rfl | hu
          · exact hfirst _ rfl
          · rw [List.mem_singleton.1 hu]
            exact hmore _ rfl

/-- The block and the tags of a marker have an encoding. -/
def EncodablePieces (p : Pieces) : Prop :=
  (∀ raw ∈ p.properties, raw.isEncodable = true)
    ∧ ∀ inside ∈ p.tags, inside.isEncodable = true

theorem encodable_readBody (kind : Kind) (key : Text)
    (ht : t.isEncodable = true) : EncodablePieces (readBody kind key t) := by
  have hskip : ∀ {u v : Text}, u ⊆ v → v.isEncodable = true →
      u.trimLeft.isEncodable = true := fun h hv =>
    Text.isEncodable_of_subset
      (List.Subset.trans (Text.trimLeft_subset _) h) hv
  unfold readBody
  dsimp only
  -- value, tags, block, tags: each reader leaves a part of what it was given
  generalize hbody : t.trimLeft = body
  have h₀ : body.isEncodable = true := hbody ▸ hskip (List.Subset.refl _) ht
  generalize htags : (readValue body).2.trimLeft = tags
  have h₁ : tags.isEncodable = true := htags ▸ hskip readValue_subset.2 h₀
  generalize hblock : (readTags tags).2.trimLeft = block
  have h₂ : block.isEncodable = true := hblock ▸ hskip readTags_subset.2 h₁
  generalize hmore : (readBlock block).2.trimLeft = more
  have h₃ : more.isEncodable = true := hmore ▸ hskip readBlock_subset.2 h₂
  refine ⟨fun raw h => Text.isEncodable_of_subset (readBlock_subset.1 raw h) h₂,
    isEncodable_joinTags (fun u h => ?_) fun u h => ?_⟩
  · exact Text.isEncodable_of_subset (readTags_subset.1 u h) h₁
  · exact Text.isEncodable_of_subset (readTags_subset.1 u h) h₃

/-- The pieces of an encodable line have an encoding. -/
theorem encodable_pieces? {p : Pieces} (h : pieces? t = some p)
    (ht : t.isEncodable = true) : EncodablePieces p := by
  rcases (cases_pieces? h).2 with hend | ⟨body, hbody, hread⟩
  · rw [hend]
    exact ⟨fun _ h => (Option.not_mem_none _ h).elim,
      fun _ h => (Option.not_mem_none _ h).elim⟩
  · rw [hread]
    exact encodable_readBody _ _ (Text.isEncodable_of_subset hbody ht)

end Pieces

-- ================================================================ tags

/-- Something that can be a tag: it is not blank, and no halves of a pair
stand apart in it. -/
def IsTag (tag : Text) : Prop := tag.isBlank = false ∧ tag.isJoined = true

/-- The good outcomes are those among the outcomes. -/
theorem mem_partitionOutcomes {ε α : Type} {outcomes : List (Except ε α)}
    {a : α} : a ∈ (partitionOutcomes outcomes).1 ↔ .ok a ∈ outcomes := by
  induction outcomes with
  | nil => exact ⟨nofun, nofun⟩
  | cons outcome rest ih => cases outcome <;> simp [partitionOutcomes, ih]

theorem isTag_of_tagOfPiece {piece tag : Text}
    (h : tagOfPiece piece = .ok tag) (hp : piece.isEncodable = true) :
    IsTag tag := by
  have htrim := Text.isEncodable_of_subset (Text.trim_subset piece) hp
  unfold tagOfPiece at h
  dsimp only at h
  split at h
  · cases h
  · next hne =>
    split at h
    · split at h
      · next s hread =>
        split at h
        · cases h
        · next hblank =>
          cases h
          cases Json.made_of_read hread htrim with
          | scalar decoded => exact ⟨Bool.eq_false_iff.2 hblank, decoded⟩
      · cases h
    · split at h
      · cases h
      · cases h
        have hvisible : piece.trim.StartsVisible :=
          Text.startsVisible_trim fun h => hne (List.isEmpty_iff.2 h)
        exact ⟨hvisible.isBlank, Json.isJoined_of_isEncodable htrim⟩

/-- What is listed in an encodable text are tags. -/
theorem isTag_of_mem_readTagList {inside tag : Text}
    (h : tag ∈ (readTagList inside).1) (hi : inside.isEncodable = true) :
    IsTag tag := by
  unfold readTagList at h
  split at h
  · cases h
  · obtain ⟨piece, hpiece, heq⟩ := List.mem_map.1 (mem_partitionOutcomes.1 h)
    have hsub := Text.subset_of_mem_commaPiecesFrom hpiece
    exact isTag_of_tagOfPiece heq (Text.isEncodable_of_subset hsub hi)

/-- A tag of the member is one of its items, and not blank. -/
theorem item_of_mem_memberTags {members : Assoc Json} {tag : Text}
    (h : tag ∈ (memberTags members).1) :
    tag.isBlank = false ∧ ∃ items,
      members.get? tagsMember = some (.array items) ∧ Json.str tag ∈ items := by
  unfold memberTags at h
  split at h
  · next value hget =>
    unfold readTagsMember at h
    split at h
    · next items =>
      obtain ⟨item, hitem, heq⟩ := List.mem_map.1 (mem_partitionOutcomes.1 h)
      unfold tagOfItem at heq
      split at heq
      · cases heq
      · next s hs =>
        split at heq
        · cases heq
        · next hblank =>
          cases heq
          unfold Json.str? at hs
          split at hs
          · cases hs
            exact ⟨Bool.eq_false_iff.2 hblank, items, hget, hitem⟩
          · cases hs
    · cases h
  · cases h

/-- The tags of the member are of the kind that the members are made of. -/
theorem made_of_mem_memberTags {q : Scalar → Bool} {members : Assoc Json}
    {n : Nat} {tag : Text} (hm : Made q (n + 1) (.object members))
    (h : tag ∈ (memberTags members).1) : q (.str tag) = true := by
  obtain ⟨-, items, hget, hitem⟩ := item_of_mem_memberTags h
  have hmade : Made q n (.array items) := by
    cases hm with
    | object _ _ made => exact made _ (Assoc.mem_of_get? hget)
  cases hmade with
  | array made =>
      cases made _ hitem with
      | scalar holds => exact holds

/-- The texts of a decoded member for tags are tags. -/
theorem isTag_of_mem_memberTags {members : Assoc Json} {n : Nat} {tag : Text}
    (hm : Made Scalar.isDecoded (n + 1) (.object members))
    (h : tag ∈ (memberTags members).1) : IsTag tag :=
  ⟨(item_of_mem_memberTags h).1, made_of_mem_memberTags hm h⟩

-- ================================================================ sets

/-- One tag comes before another one in a set. -/
def Before (tag other : Text) : Prop :=
  Text.le tag other = true ∧ tag ≠ other

theorem Before.trans {a b c : Text} (h : Before a b) (h' : Before b c) :
    Before a c := by
  refine ⟨Text.le_trans h.1 h'.1, fun heq => h.2 ?_⟩
  subst heq
  exact Text.le_antisymm h.1 h'.1

/-- Adding a tag keeps a set in order. -/
theorem pairwise_insertTag {tag : Text} {set : List Text}
    (h : set.Pairwise Before) : (insertTag tag set).Pairwise Before := by
  induction set with
  | nil => exact List.pairwise_singleton ..
  | cons t rest ih =>
      obtain ⟨ht, hrest⟩ := List.pairwise_cons.1 h
      rw [insertTag]
      split
      · exact h
      · next hne =>
        split
        · next hle =>
          have hbefore : Before tag t := ⟨hle, hne⟩
          refine List.pairwise_cons.2 ⟨fun x hx => ?_, h⟩
          rcases List.mem_cons.1 hx with rfl | hx
          · exact hbefore
          · exact hbefore.trans (ht x hx)
        · next hle =>
          refine List.pairwise_cons.2 ⟨fun x hx => ?_, ih hrest⟩
          rcases mem_insertTag.1 hx with rfl | hx
          · rcases Text.le_total t x with hle' | hle'
            · exact ⟨hle', Ne.symm hne⟩
            · exact absurd hle' hle
          · exact ht x hx

/-- A set is in order, each tag once. -/
theorem pairwise_tagSet (tags : List Text) : (tagSet tags).Pairwise Before := by
  induction tags with
  | nil => exact List.Pairwise.nil
  | cons tag rest ih => exact pairwise_insertTag ih

/-- The set of tags that are in order, each once, is made of them as they
are. -/
theorem tagSet_of_pairwise {tags : List Text} (h : tags.Pairwise Before) :
    tagSet tags = tags := by
  induction tags with
  | nil => rfl
  | cons tag rest ih =>
      obtain ⟨htag, hrest⟩ := List.pairwise_cons.1 h
      show insertTag tag (tagSet rest) = _
      rw [ih hrest]
      cases rest with
      | nil => rfl
      | cons t rest =>
          obtain ⟨hle, hne⟩ := htag t (List.mem_cons_self ..)
          rw [insertTag, if_neg hne, if_pos hle]

-- ============================================================= members

section Members

variable {members : Assoc Json} {listed : List Text}

theorem properties_normalizeTags (members : Assoc Json) (listed : List Text) :
    (normalizeTags members listed).properties
      = if (normalizeTags members listed).tags.isEmpty
        then members.erase tagsMember
        else members.put tagsMember
          (.array ((normalizeTags members listed).tags.map .str)) := rfl

/-- The member for tags holds the whole set afterwards. -/
theorem get?_normalizeTags (members : Assoc Json) (listed : List Text) :
    (normalizeTags members listed).properties.get? tagsMember
      = if (normalizeTags members listed).tags = [] then none
        else some (.array ((normalizeTags members listed).tags.map .str)) := by
  rw [properties_normalizeTags]
  generalize (normalizeTags members listed).tags = tags
  by_cases h : tags = []
  · rw [if_pos (List.isEmpty_iff.2 h), if_pos h, Assoc.get?_erase]
  · rw [if_neg (fun he => h (List.isEmpty_iff.1 he)), if_neg h,
      Assoc.get?_put, if_pos rfl]

/-- The tags of a marker are those of the lists and of the member. -/
theorem isTag_of_mem_normalizeTags {n : Nat} {tag : Text}
    (hm : Made Scalar.isDecoded (n + 1) (.object members))
    (hl : ∀ t ∈ listed, IsTag t)
    (h : tag ∈ (normalizeTags members listed).tags) : IsTag tag := by
  rw [tags_normalizeTags, mem_tagSet] at h
  rcases List.mem_append.1 h with h | h
  · exact hl tag h
  · exact isTag_of_mem_memberTags hm h

/-- Joining the tags keeps the members made of scalars of a kind that the
tags are of: all that is added is an array of texts. -/
theorem made_normalizeTags_of {q : Scalar → Bool} {n : Nat}
    (hm : Made q (n + 2) (.object members))
    (hname : q (.str tagsMember) = true)
    (htags : ∀ t ∈ (normalizeTags members listed).tags, q (.str t) = true) :
    Made q (n + 2) (.object (normalizeTags members listed).properties) := by
  have harray : Made q (n + 1)
      (.array ((normalizeTags members listed).tags.map Json.str)) := by
    refine .array fun v hv => ?_
    obtain ⟨tag, htag, rfl⟩ := List.mem_map.1 hv
    exact .scalar (htags tag htag)
  have hcases : (normalizeTags members listed).properties
        = members.erase tagsMember
      ∨ (normalizeTags members listed).properties
        = members.put tagsMember
          (.array ((normalizeTags members listed).tags.map Json.str)) := by
    rw [properties_normalizeTags]
    split
    · exact .inl rfl
    · exact .inr rfl
  cases hm with
  | object distinct keys made =>
      rcases hcases with heq | heq
      · -- without tags, what is left are some of the members
        rw [heq]
        have hsub := List.filter_sublist (p := fun e => e.1 != tagsMember)
          (l := members)
        exact .object (distinct.sublist (hsub.map _))
          (fun m hm => keys m (hsub.subset hm))
          fun m hm => made m (hsub.subset hm)
      · -- the array of tags stands one level deeper than the members do
        rw [heq]
        refine .object (Assoc.nodup_put distinct _ _) (fun m hm => ?_)
          fun m hm => ?_
        · rcases Assoc.mem_put hm with rfl | hm
          · exact hname
          · exact keys m hm
        · rcases Assoc.mem_put hm with rfl | hm
          · exact harray
          · exact made m hm

/-- Joining the tags keeps the members decoded. -/
theorem made_normalizeTags {n : Nat}
    (hm : Made Scalar.isDecoded (n + 2) (.object members))
    (hl : ∀ t ∈ listed, IsTag t) :
    Made Scalar.isDecoded (n + 2)
      (.object (normalizeTags members listed).properties) :=
  made_normalizeTags_of hm (by decide : Text.isJoined tagsMember = true)
    fun _ ht => (isTag_of_mem_normalizeTags hm hl ht).2

/-- Joining the tags of a member that holds the whole set changes
nothing. -/
theorem normalizeTags_again
    (hblank : ∀ t ∈ (normalizeTags members listed).tags, t.isBlank = false) :
    normalizeTags (normalizeTags members listed).properties []
      = ⟨(normalizeTags members listed).properties,
          (normalizeTags members listed).tags, []⟩ := by
  have hget := get?_normalizeTags members listed
  have hsorted : (normalizeTags members listed).tags.Pairwise Before :=
    pairwise_tagSet _
  have hproperties := properties_normalizeTags members listed
  -- what follows depends on the old members through the set of tags only
  generalize (normalizeTags members listed).tags = tags at *
  generalize (normalizeTags members listed).properties = properties at *
  have hmember : memberTags properties = (tags, []) := by
    unfold memberTags
    rw [hget]
    by_cases h : tags = []
    · rw [if_pos h, h]
    · rw [if_neg h]
      exact readTagsMember_texts hblank
  have hagain : normalizeTags properties []
      = ⟨if (tagSet (memberTags properties).1).isEmpty
            then properties.erase tagsMember
            else properties.put tagsMember
              (.array ((tagSet (memberTags properties).1).map .str)),
          tagSet (memberTags properties).1, (memberTags properties).2⟩ := rfl
  rw [hagain, hmember, tagSet_of_pairwise hsorted]
  congr 1
  rw [hproperties]
  split
  · exact Assoc.erase_erase ..
  · exact Assoc.put_put ..

end Members

-- ============================================================= payloads

/-- What is decoded of the pieces of an encodable line: members that a
property block can hold, and tags. -/
theorem decode_spec {p : Pieces} (hp : EncodablePieces p) :
    ∃ members listed,
      Made Scalar.isDecoded Json.maxDepth (.object members)
        ∧ (∀ t ∈ listed, IsTag t)
        ∧ p.decode.1.properties = (normalizeTags members listed).properties
        ∧ p.decode.1.tags = (normalizeTags members listed).tags := by
  refine ⟨(decodePiece [] readProperties p.properties).1,
    (decodeTags p.tags).1, ?_, ?_, rfl, rfl⟩
  · have hempty : Made Scalar.isDecoded Json.maxDepth (.object []) :=
      .object List.nodup_nil (List.forall_mem_nil _) (List.forall_mem_nil _)
    cases hraw : p.properties with
    | none => exact hempty
    | some raw =>
        unfold decodePiece
        dsimp only
        split
        · next members hread =>
          unfold readProperties at hread
          split at hread
          · next members' hjson =>
            cases hread
            exact Json.made_of_read hjson (hp.1 raw hraw)
          · cases hread
          · cases hread
        · exact hempty
  · intro tag h
    cases htags : p.tags with
    | none =>
        rw [htags] at h
        cases h
    | some inside =>
        rw [htags] at h
        exact isTag_of_mem_readTagList h (hp.2 inside htags)

end Marginalia.Marker
