/-
Marker lines as they are written, and their pieces. A line that is put
together from a key, a value, a tag list and a block, each in its JSON form,
is taken apart into just these.

The parts are found one after the other, and each of them ends where it
ends by itself: a quoted value at its closing quote, any other value at the
space behind it, the tags at the bracket that stands outside the strings
among them, and the block at the brace that matches its first one.
-/
import Marginalia.Proofs.Json.Written
import Marginalia.Proofs.Marker.Slices

namespace Marginalia.Marker

open Json (writeString compact)

-- ============================================================ writing

/-- The tags of a list between its brackets. -/
def writeTags (tags : List Text) : Text :=
  Text.joinWith "," (tags.map (writeString compact))

/-- What stands behind the key: a value, a tag list and a block. -/
def writeBody (value : Scalar) (tags : List Text) (members : Assoc Json) :
    Text :=
  Json.write compact (.scalar value) ++ (" tags=[" ++ (writeTags tags
    ++ ("] " ++ Json.write compact (.object members))))

/-- The content of a comment with an inline marker. -/
def writeInline (key : Text) (value : Scalar) (tags : List Text)
    (members : Assoc Json) : Text :=
  "@!" ++ (key ++ (" " ++ writeBody value tags members))

/-- The content of a comment with the begin marker of a block. -/
def writeBegin (key : Text) (value : Scalar) (tags : List Text)
    (members : Assoc Json) : Text :=
  "@!begin " ++ (key ++ (" " ++ writeBody value tags members))

/-- The content of a comment with the end marker of a block. -/
def writeEnd (key : Text) : Text := "@!end " ++ key

-- =============================================================== keys

theorem printed_key {key : Text} (hk : isKey key = true) : key.Printed := by
  intro c hc
  have hrange := toNat_of_continuesKey (continuesKey_of_mem hk c hc)
  omega

-- ============================================================== pieces

/-- A written value is not taken for tags. -/
theorem not_atList_writeScalar {v : Scalar} (hv : v.isExact = true)
    (rest : Text) : ¬ AtList (Json.writeScalar compact v ++ rest) := by
  cases v with
  | null => exact fun h => nomatch h.head?
  | bool b =>
      cases b with
      | false => exact fun h => nomatch h.head?
      | true => exact fun h => nomatch atList_iff.1 h
  | int n =>
      show ¬ AtList (Text.ofInt n ++ rest)
      intro h
      have hhead := h.head?
      cases hn : Text.ofInt n with
      | nil => exact absurd hn (Json.ofInt_ne_nil n)
      | cons c t =>
          rw [hn] at hhead
          cases hhead
          have hmem := Json.mem_ofInt (hn ▸ List.mem_cons_self ..)
          rcases hmem with hc | hc <;> cases hc
  | float x => cases hv
  | str s => exact fun h => nomatch h.head?

/-- The value is read as it was written. -/
theorem readValue_writeScalar {v : Scalar} (hv : v.isExact = true)
    (rest : Text) :
    readValue (Json.writeScalar compact v ++ .scalar ' ' :: rest)
      = (some (Json.writeScalar compact v), .scalar ' ' :: rest) := by
  by_cases hstr : ∃ s, v = .str s
  · obtain ⟨s, rfl⟩ := hstr
    show readValue (writeString compact s ++ _) = (some (writeString _ s), _)
    rw [Json.writeString_eq, List.cons_append, List.append_assoc,
      List.singleton_append]
    exact readValue_quoted (Json.inner_flatMap_writePoint s) _
  · obtain ⟨hne, hword⟩ := Json.writeScalar_word (f := compact)
      (Scalar.isSettled_of_isExact hv) fun t h => hstr ⟨t, h⟩
    refine readValue_word hne (fun c hc => ?_) (fun hquote => ?_)
      (not_atList_writeScalar hv _) fun c hc => ?_
    · obtain ⟨hblank, hbracket, -⟩ := hword c hc
      refine ⟨hblank, ?_⟩
      rintro rfl
      cases hbracket
    · exact (hword _ (List.mem_of_mem_head? hquote)).2.2.1 rfl
    · rw [List.head?_cons, Option.mem_some_iff] at hc
      subst hc
      exact .inl (by decide)

/-- Written tags are flat. -/
theorem flat_writeTags (tags : List Text) : (writeTags tags).Flat := by
  refine Text.joinWith_of_forall .nil (fun _ _ => .append) ?_ fun t ht => ?_
  · exact .of_forall (by decide)
  · obtain ⟨tag, -, rfl⟩ := List.mem_map.1 ht
    exact Json.flat_writeString tag

theorem printed_writeTags (tags : List Text) : (writeTags tags).Printed := by
  refine Text.joinWith_of_forall .nil (fun _ _ => .append) (by decide)
    fun t ht => ?_
  obtain ⟨tag, -, rfl⟩ := List.mem_map.1 ht
  exact Json.printed_writeString tag

/-- A tag list is read up to its bracket. -/
theorem readTags_written {inside : Text} (h : inside.Flat) (rest : Text) :
    readTags ("tags=[" ++ (inside ++ .scalar ']' :: rest))
      = (some inside, rest) := by
  have hopens : ListOpening "tags=[" := ⟨[], [], rfl, rfl, rfl⟩
  have hbare : .scalar ']' ∉ Quoting.outside.bare inside := fun hmem =>
    nomatch h.bare _ hmem
  refine readTags_eq_iff.2 ⟨_, ?_, .closed hopens h.after hbare⟩
  simp only [List.append_assoc]
  rfl

/-- A block at the end of a line is read up to its brace. -/
theorem readBlock_written {n : Nat} {members : Assoc Json}
    (h : Json.Exact n (.object members)) :
    readBlock (Json.write compact (.object members))
      = (some (Json.write compact (.object members)), []) := by
  have hspan := h.settled.braceSpan (f := compact) rfl []
  rw [List.append_nil] at hspan
  obtain ⟨t, ht⟩ : ∃ t, Json.write compact (.object members)
      = .scalar '\x7b' :: t := ⟨_, Json.write_object rfl members⟩
  rw [ht] at hspan ⊢
  simp only [readBlock, hspan, List.take_length, List.drop_length]

/-- The parts behind the key are read back. -/
theorem readBody_writeBody (kind : Kind) (key : Text) {v : Scalar}
    {tags : List Text} {members : Assoc Json} (hv : v.isExact = true)
    {n : Nat} (hm : Json.Exact n (.object members)) :
    readBody kind key (.scalar ' ' :: writeBody v tags members)
      = ⟨kind, key, some (Json.write compact (.scalar v)),
        some (Json.write compact (.object members)),
        some (writeTags tags)⟩ := by
  generalize hblock : Json.write compact (.object members) = block
  have hbody : writeBody v tags members = Json.writeScalar compact v
      ++ .scalar ' ' :: (Text.ofString "tags=[" ++ (writeTags tags
        ++ .scalar ']' :: .scalar ' ' :: block)) := by
    rw [← hblock]
    rfl
  have hstart : (writeBody v tags members).StartsVisible := by
    rw [hbody]
    exact (Json.shaped_writeScalar 0
      (Scalar.isSettled_of_isExact hv)).startsVisible.append _
  have htags : Text.trimLeft (.scalar ' ' :: (Text.ofString "tags=["
      ++ (writeTags tags ++ .scalar ']' :: .scalar ' ' :: block)))
      = Text.ofString "tags=[" ++ (writeTags tags
        ++ .scalar ']' :: .scalar ' ' :: block) := rfl
  have hvisible : block.StartsVisible := by
    rw [← hblock]
    exact (hm.settled.shaped rfl).startsVisible
  have hskip : Text.trimLeft (.scalar ' ' :: block) = block := by
    rw [Text.trimLeft_cons_blank (by decide), hvisible.trimLeft]
  have hread : readBlock block = (some block, []) := by
    rw [← hblock]
    exact readBlock_written hm
  -- each reader stops where the next part begins
  unfold readBody
  rw [Text.trimLeft_cons_blank (by decide), hstart.trimLeft, hbody,
    readValue_writeScalar hv]
  dsimp only
  rw [htags, readTags_written (flat_writeTags tags)]
  dsimp only
  rw [hskip, hread]
  rfl

-- ============================================================= markers

variable {key : Text}

theorem trim_writeEnd (hk : isKey key = true) :
    (writeEnd key).trim = writeEnd key := by
  refine Text.StartsVisible.trim ⟨_, _, rfl, by decide⟩ ?_
  exact (endsVisible_key hk).append _

/-- A written end marker has its key. -/
theorem pieces?_writeEnd (hk : isKey key = true) :
    pieces? (writeEnd key) = some ⟨.blockEnd, key, none, none, none⟩ := by
  have hhead : Head .blockEnd key (writeEnd key) := .blockEnd isGap_space hk
  have htrim : (writeEnd key).trim = writeEnd key ++ [] := by
    rw [trim_writeEnd hk, List.append_nil]
  exact pieces?_of_head hhead rfl htrim

section Body

variable {v : Scalar} {tags : List Text} {members : Assoc Json} {n : Nat}
  (hk : isKey key = true) (hv : v.isExact = true)
  (hm : Json.Exact n (.object members))

include hm

/-- What is written behind the key ends visibly. -/
theorem endsVisible_writeBody : (writeBody v tags members).EndsVisible := by
  have hends := (hm.settled.shaped (f := compact) rfl).ends
  unfold writeBody
  exact ((hends.append _).append _).append _ |>.append _

theorem trim_writeInline : (writeInline key v tags members).trim
    = writeInline key v tags members := by
  refine Text.StartsVisible.trim ⟨_, _, rfl, by decide⟩ ?_
  exact (((endsVisible_writeBody hm).append _).append _).append _

theorem trim_writeBegin : (writeBegin key v tags members).trim
    = writeBegin key v tags members := by
  refine Text.StartsVisible.trim ⟨_, _, rfl, by decide⟩ ?_
  exact (((endsVisible_writeBody hm).append _).append _).append _

include hv

theorem printed_writeBody : (writeBody v tags members).Printed := by
  have hvalue := (Json.shaped_writeScalar (f := compact) 0
    (Scalar.isSettled_of_isExact hv)).printed
  have hblock := (hm.settled.shaped (f := compact) rfl).printed
  exact hvalue.append (.append (by decide)
    ((printed_writeTags tags).append (.append (by decide) hblock)))

include hk

/-- A written inline marker stays on its line. -/
theorem printed_writeInline : (writeInline key v tags members).Printed :=
  .append (by decide) ((printed_key hk).append
    (.append (by decide) (printed_writeBody hv hm)))

/-- A written begin marker stays on its line. -/
theorem printed_writeBegin : (writeBegin key v tags members).Printed :=
  .append (by decide) ((printed_key hk).append
    (.append (by decide) (printed_writeBody hv hm)))

/-- A written inline marker has the pieces that were written. -/
theorem pieces?_writeInline (hbegin : key ≠ "begin") (hend : key ≠ "end") :
    pieces? (writeInline key v tags members)
      = some ⟨.inline, key, some (Json.write compact (.scalar v)),
        some (Json.write compact (.object members)),
        some (writeTags tags)⟩ := by
  have hhead : Head .inline key ("@!" ++ key) := .inline hk hbegin hend
  rw [← readBody_writeBody .inline key hv hm]
  refine pieces?_of_head hhead rfl ?_
  rw [trim_writeInline hm, List.append_assoc]
  rfl

/-- A written begin marker has the pieces that were written. -/
theorem pieces?_writeBegin :
    pieces? (writeBegin key v tags members)
      = some ⟨.blockBegin, key, some (Json.write compact (.scalar v)),
        some (Json.write compact (.object members)),
        some (writeTags tags)⟩ := by
  have hhead : Head .blockBegin key ("@!begin" ++ (" " ++ key)) :=
    .blockBegin isGap_space hk
  rw [← readBody_writeBody .blockBegin key hv hm]
  refine pieces?_of_head hhead rfl ?_
  rw [trim_writeBegin hm, List.append_assoc, List.append_assoc]
  rfl

end Body

end Marginalia.Marker
