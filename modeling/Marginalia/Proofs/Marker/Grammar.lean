/-
The grammar of marker lines. The content of a comment, without the white
space around it, is a marker when it begins with `@!` and a key that is not
`begin` or `end`, or with one of `@!begin` and `@!end`, white space and a
key, and when nothing, white space or an opening brace stands behind the
key. Nothing else is a marker, and what a marker begins with says of which
form it is and what its key is (`markers_grammatical`).

What ends a key is no part of one, so a key goes as far as it can and a
content begins in one way only. All that is read of a marker is read behind
its key (`pieces?_eq_some_iff`).
-/
import Marginalia.Marker.Pieces
import Marginalia.Proofs.Text.CodePoint
import Marginalia.Proofs.Text.Trim

namespace Marginalia.Marker

-- =============================================================== keys

/-- Is the text a key? -/
def isKey : Text → Bool
  | [] => false
  | c :: t => startsKey c && t.all continuesKey

/-- The code points of keys are ASCII letters, digits, the underscore and
the hyphen. -/
theorem toNat_of_continuesKey {c : CodePoint} (h : continuesKey c = true) :
    c.toNat = 45 ∨ 48 ≤ c.toNat ∧ c.toNat ≤ 57
      ∨ 65 ≤ c.toNat ∧ c.toNat ≤ 90 ∨ c.toNat = 95
      ∨ 97 ≤ c.toNat ∧ c.toNat ≤ 122 := by
  unfold continuesKey startsKey at h
  rw [Bool.or_eq_true, Bool.or_eq_true, Bool.or_eq_true, beq_iff_eq,
    beq_iff_eq] at h
  rcases h with ((h | h) | h) | h
  · have hc := CodePoint.toNat_of_isLetter h
    omega
  · rw [h]
    decide
  · have hc := CodePoint.toNat_of_isDigit h
    omega
  · rw [h]
    decide

/-- The code points of keys are visible. -/
theorem isBlank_of_continuesKey {c : CodePoint}
    (h : continuesKey c = true) : c.isBlank = false := by
  have hc := toNat_of_continuesKey h
  unfold CodePoint.isBlank CodePoint.isBlankNat
  simp only [Bool.or_eq_false_iff, Bool.and_eq_false_iff,
    decide_eq_false_iff_not, beq_eq_false_iff_ne]
  omega

theorem continuesKey_of_mem {key : Text} (hk : isKey key = true) :
    ∀ c ∈ key, continuesKey c = true := by
  cases key with
  | nil => cases hk
  | cons c t =>
      rw [isKey, Bool.and_eq_true, List.all_eq_true] at hk
      intro x hx
      rcases List.mem_cons.1 hx with rfl | hx
      · unfold continuesKey
        rw [hk.1, Bool.true_or, Bool.true_or]
      · exact hk.2 x hx

/-- What ends a key is no part of it. -/
theorem continuesKey_of_endsKey {rest : Text} (h : endsKey rest = true) :
    ∀ c ∈ rest.head?, continuesKey c = false := by
  cases rest with
  | nil => exact fun c hc => absurd hc (Option.not_mem_none c)
  | cons c rest =>
      intro x hx
      rw [List.head?_cons, Option.mem_some_iff] at hx
      subst hx
      rw [endsKey, Bool.or_eq_true, beq_iff_eq] at h
      rcases h with hblank | rfl
      · cases hc : continuesKey c with
        | false => rfl
        | true => rw [isBlank_of_continuesKey hc] at hblank; cases hblank
      · decide

/-- A key is read up to something that ends it, and nothing else is read as
a key. -/
theorem readKey?_eq_some_iff {t key rest : Text} :
    readKey? t = some (key, rest)
      ↔ t = key ++ rest ∧ isKey key = true ∧ endsKey rest = true := by
  constructor
  · intro h
    unfold readKey? at h
    split at h
    · cases h
    · next c t =>
      split at h
      · next hc =>
        dsimp only at h
        split at h
        · next hends =>
          cases h
          refine ⟨?_, ?_, hends⟩
          · rw [List.cons_append, List.takeWhile_append_dropWhile]
          · rw [isKey, hc, Bool.true_and]
            exact List.all_takeWhile
        · cases h
      · cases h
  · rintro ⟨rfl, hkey, hends⟩
    have hstop := continuesKey_of_endsKey hends
    cases key with
    | nil => cases hkey
    | cons c key =>
        rw [isKey, Bool.and_eq_true, List.all_eq_true] at hkey
        rw [List.cons_append, readKey?, if_pos hkey.1]
        dsimp only
        rw [Text.takeWhile_run hkey.2 hstop, Text.dropWhile_run hkey.2 hstop,
          if_pos hends]

/-- A key starts and ends visibly. -/
theorem startsVisible_key {key : Text} (hk : isKey key = true) :
    key.StartsVisible := by
  cases key with
  | nil => cases hk
  | cons c t =>
      exact ⟨c, t, rfl, isBlank_of_continuesKey
        (continuesKey_of_mem hk c (List.mem_cons_self ..))⟩

theorem endsVisible_key {key : Text} (hk : isKey key = true) :
    key.EndsVisible := by
  refine Text.endsVisible_of_forall ?_ fun c hc =>
    isBlank_of_continuesKey (continuesKey_of_mem hk c hc)
  rintro rfl
  cases hk

-- =============================================================== heads

/-- Some white space. -/
structure IsGap (s : Text) : Prop where
  ne : s ≠ []
  blank : s.isBlank = true

theorem isGap_space : IsGap " " := ⟨by decide, by decide⟩

/-- White space ends a key. -/
theorem IsGap.endsKey {s : Text} (h : IsGap s) (t : Text) :
    endsKey (s ++ t) = true := by
  cases s with
  | nil => exact absurd rfl h.ne
  | cons c s =>
      have hc := List.all_eq_true.1 h.blank c (List.mem_cons_self ..)
      rw [List.cons_append, Marker.endsKey, hc, Bool.true_or]

/-- What a marker begins with, up to the end of its key. -/
inductive Head : Kind → Text → Text → Prop
  | inline {key : Text} (isKey : isKey key = true)
      (notBegin : key ≠ "begin") (notEnd : key ≠ "end") :
      Head .inline key ("@!" ++ key)
  | blockBegin {s key : Text} (gap : IsGap s) (isKey : isKey key = true) :
      Head .blockBegin key ("@!begin" ++ (s ++ key))
  | blockEnd {s key : Text} (gap : IsGap s) (isKey : isKey key = true) :
      Head .blockEnd key ("@!end" ++ (s ++ key))

/-- The pieces of a marker, of what stands behind its key: an end marker has
none. -/
def readBehind (kind : Kind) (key body : Text) : Pieces :=
  if kind = .blockEnd then ⟨kind, key, none, none, none⟩
  else readBody kind key body

@[simp]
theorem kind_readBehind (kind : Kind) (key body : Text) :
    (readBehind kind key body).kind = kind := by
  unfold readBehind
  split <;> rfl

@[simp]
theorem key_readBehind (kind : Kind) (key body : Text) :
    (readBehind kind key body).key = key := by
  unfold readBehind
  split <;> rfl

theorem Head.isKey {kind : Kind} {key head : Text} (h : Head kind key head) :
    isKey key = true := by
  cases h <;> assumption

/-- A content is a marker at all when it begins with the mark once it is
trimmed. -/
theorem isAnnotation_iff (content : Text) :
    isAnnotation content = true ↔ ∃ t, content.trim = "@!" ++ t := by
  unfold isAnnotation Text.startsWith
  rw [List.isPrefixOf_iff_prefix]
  constructor
  · rintro ⟨t, ht⟩
    have hends : Text.EndsVisible "@!" :=
      Text.endsVisible_of_forall (by decide) (by decide)
    refine ⟨Text.trimRight t, ?_⟩
    unfold Text.trim
    rw [← ht, hends.trimRight_append]
  · rintro ⟨t, ht⟩
    have hprefix := Text.trimRight_prefix content.trimLeft
    refine List.IsPrefix.trans ⟨t, ?_⟩ hprefix
    exact ht.symm

/-- Behind `begin` or `end` there has to be white space and another key. -/
theorem readBlockMarker_eq_some_iff {kind : Kind} {t : Text} {p : Pieces} :
    readBlockMarker kind t = some p
      ↔ ∃ s key body, t = s ++ (key ++ body) ∧ IsGap s ∧ isKey key = true
        ∧ endsKey body = true ∧ p = readBehind kind key body := by
  unfold readBlockMarker
  dsimp only
  constructor
  · intro h
    obtain ⟨s, hs, ht⟩ := Text.exists_trimLeft t
    split at h
    · cases h
    · next hlength =>
      have hne : s ≠ [] := by
        rintro rfl
        exact hlength (congrArg List.length ht.symm)
      split at h
      · cases h
      · next key body hread =>
        obtain ⟨hparts, hkey, hends⟩ := readKey?_eq_some_iff.1 hread
        refine ⟨s, key, body, ?_, ⟨hne, hs⟩, hkey, hends, ?_⟩
        · rw [← hparts]
          exact ht
        · unfold readBehind
          split at h <;> cases h
          · next hend => rw [if_pos hend]
          · next hend => rw [if_neg hend]
  · rintro ⟨s, key, body, rfl, hgap, hkey, hends, rfl⟩
    have htrim := Text.trimLeft_blank_visible hgap.blank
      ((startsVisible_key hkey).append body)
    have hlength : ¬ (key ++ body).length = (s ++ (key ++ body)).length := by
      have hpos := List.length_pos_iff.2 hgap.ne
      simp only [List.length_append]
      omega
    rw [htrim, if_neg hlength, readKey?_eq_some_iff.2 ⟨rfl, hkey, hends⟩]
    dsimp only
    unfold readBehind
    split <;> rfl

/-- What is read of a content that is a marker. -/
theorem pieces?_eq {content t : Text} (h : content.trim = "@!" ++ t) :
    pieces? content
      = (readKey? t).bind fun found =>
        if found.1 = "begin" then readBlockMarker .blockBegin found.2
        else if found.1 = "end" then readBlockMarker .blockEnd found.2
        else some (readBody .inline found.1 found.2) := by
  unfold pieces?
  rw [if_pos ((isAnnotation_iff content).2 ⟨t, h⟩), h]
  have hdrop : (Text.ofString "@!" ++ t).drop 2 = t := rfl
  rw [hdrop]
  cases readKey? t <;> rfl

/-- A content that begins as a marker has the pieces behind its key. -/
theorem pieces?_of_head {content head body key : Text} {kind : Kind}
    (hhead : Head kind key head) (hends : endsKey body = true)
    (h : content.trim = head ++ body) :
    pieces? content = some (readBehind kind key body) := by
  cases hhead with
  | inline hkey hbegin hend =>
      rw [List.append_assoc] at h
      rw [pieces?_eq h, readKey?_eq_some_iff.2 ⟨rfl, hkey, hends⟩,
        Option.bind_some, if_neg hbegin, if_neg hend]
      rfl
  | @blockBegin s _ hgap hkey =>
      have hword : readKey? ("begin" ++ (s ++ (key ++ body)))
          = some (Text.ofString "begin", s ++ (key ++ body)) :=
        readKey?_eq_some_iff.2 ⟨rfl, by decide, hgap.endsKey _⟩
      rw [List.append_assoc, List.append_assoc] at h
      rw [pieces?_eq (t := "begin" ++ (s ++ (key ++ body))) h, hword,
        Option.bind_some, if_pos rfl]
      exact readBlockMarker_eq_some_iff.2
        ⟨s, key, body, rfl, hgap, hkey, hends, rfl⟩
  | @blockEnd s _ hgap hkey =>
      have hword : readKey? ("end" ++ (s ++ (key ++ body)))
          = some (Text.ofString "end", s ++ (key ++ body)) :=
        readKey?_eq_some_iff.2 ⟨rfl, by decide, hgap.endsKey _⟩
      have hword' : Text.ofString "end" ≠ "begin" := by decide
      rw [List.append_assoc, List.append_assoc] at h
      rw [pieces?_eq (t := "end" ++ (s ++ (key ++ body))) h, hword,
        Option.bind_some, if_neg hword', if_pos rfl]
      exact readBlockMarker_eq_some_iff.2
        ⟨s, key, body, rfl, hgap, hkey, hends, rfl⟩

/-- A content is a marker exactly when it begins as one, and then all that is
read of it is read behind its key. -/
theorem pieces?_eq_some_iff {content : Text} {p : Pieces} :
    pieces? content = some p
      ↔ ∃ head body, content.trim = head ++ body ∧ Head p.kind p.key head
        ∧ endsKey body = true ∧ p = readBehind p.kind p.key body := by
  constructor
  · intro h
    have hmark : isAnnotation content = true := by
      unfold pieces? at h
      split at h
      · assumption
      · cases h
    obtain ⟨t, ht⟩ := (isAnnotation_iff content).1 hmark
    rw [pieces?_eq ht] at h
    obtain ⟨⟨word, t'⟩, hword, hp⟩ := Option.bind_eq_some_iff.1 h
    obtain ⟨rfl, hisKey, hends⟩ := readKey?_eq_some_iff.1 hword
    dsimp only at hp
    split at hp
    · next hbegin =>
      subst hbegin
      obtain ⟨s, key, body, rfl, hgap, hkey, hbody, rfl⟩ :=
        readBlockMarker_eq_some_iff.1 hp
      simp only [kind_readBehind, key_readBehind]
      refine ⟨_, body, ?_, .blockBegin hgap hkey, hbody, rfl⟩
      rw [ht, List.append_assoc, List.append_assoc]
      rfl
    · next hbegin =>
      split at hp
      · next hend =>
        subst hend
        obtain ⟨s, key, body, rfl, hgap, hkey, hbody, rfl⟩ :=
          readBlockMarker_eq_some_iff.1 hp
        simp only [kind_readBehind, key_readBehind]
        refine ⟨_, body, ?_, .blockEnd hgap hkey, hbody, rfl⟩
        rw [ht, List.append_assoc, List.append_assoc]
        rfl
      · next hend =>
        cases hp
        refine ⟨_, t', ?_, .inline hisKey hbegin hend, hends, rfl⟩
        rw [ht, List.append_assoc]
        rfl
  · rintro ⟨head, body, h, hhead, hends, hp⟩
    rw [hp]
    exact pieces?_of_head hhead hends h

/-- The key of a marker is a key. -/
theorem isKey_of_pieces? {content : Text} {p : Pieces}
    (h : pieces? content = some p) : isKey p.key = true := by
  obtain ⟨head, body, -, hhead, -⟩ := pieces?_eq_some_iff.1 h
  exact hhead.isKey

/-- A marker has a key. It is an end marker and has nothing else, or what
it has is read of a part of the content. -/
theorem cases_pieces? {content : Text} {p : Pieces}
    (h : pieces? content = some p) :
    isKey p.key = true
      ∧ (p = ⟨.blockEnd, p.key, none, none, none⟩
        ∨ ∃ body, body ⊆ content ∧ p = readBody p.kind p.key body) := by
  refine ⟨isKey_of_pieces? h, ?_⟩
  obtain ⟨head, body, htrim, -, -, hp⟩ := pieces?_eq_some_iff.1 h
  unfold readBehind at hp
  split at hp
  · next hend =>
    rw [hend] at hp
    exact .inl hp
  · refine .inr ⟨body, List.Subset.trans ?_ (Text.trim_subset content), hp⟩
    rw [htrim]
    exact List.subset_append_right ..

/-- Only the trimmed content counts. -/
theorem pieces?_congr {content other : Text}
    (h : content.trim = other.trim) : pieces? content = pieces? other := by
  have hiff : ∀ p, pieces? content = some p ↔ pieces? other = some p := by
    intro p
    rw [pieces?_eq_some_iff, pieces?_eq_some_iff, h]
  exact Option.ext hiff

-- ============================================================= grammar

/-- The grammar of markers is exact. A content is a marker if and only if,
once it is trimmed, it begins as a marker of some form with some key, and
nothing, white space or an opening brace follows; then it is of just that
form and has just that key. So `begin` and `end` are never the key of an
inline marker, but they may be that of a block; an end marker carries
nothing; and white space around the content changes nothing. -/
theorem markers_grammatical :
    (∀ content : Text, (pieces? content).isSome = true
        ↔ ∃ kind key head body, content.trim = head ++ body
          ∧ Head kind key head ∧ endsKey body = true)
      ∧ (∀ (content : Text) kind key head body,
        content.trim = head ++ body → Head kind key head →
        endsKey body = true →
        ∃ p, pieces? content = some p ∧ p.kind = kind ∧ p.key = key)
      ∧ (∀ content p, pieces? content = some p →
        (p.kind = .inline → p.key ≠ "begin" ∧ p.key ≠ "end")
          ∧ (p.kind = .blockEnd →
            p.value = none ∧ p.properties = none ∧ p.tags = none))
      ∧ ∀ s content s' : Text, s.isBlank = true → s'.isBlank = true →
        pieces? (s ++ (content ++ s')) = pieces? content := by
  have hread : ∀ (content : Text) kind key head body,
      content.trim = head ++ body → Head kind key head →
      endsKey body = true →
      ∃ p, pieces? content = some p ∧ p.kind = kind ∧ p.key = key := by
    intro content kind key head body h hhead hends
    exact ⟨_, pieces?_of_head hhead hends h, kind_readBehind .., key_readBehind ..⟩
  refine ⟨fun content => ?_, hread, fun content p hp => ?_,
    fun s content s' hs hs' => ?_⟩
  · constructor
    · intro h
      obtain ⟨p, hp⟩ := Option.isSome_iff_exists.1 h
      obtain ⟨head, body, htrim, hhead, hends, -⟩ := pieces?_eq_some_iff.1 hp
      exact ⟨p.kind, p.key, head, body, htrim, hhead, hends⟩
    · rintro ⟨kind, key, head, body, htrim, hhead, hends⟩
      obtain ⟨p, hp, -⟩ := hread content kind key head body htrim hhead hends
      rw [hp]
      rfl
  · obtain ⟨head, body, -, hhead, -, hbehind⟩ := pieces?_eq_some_iff.1 hp
    constructor
    · intro hinline
      rw [hinline] at hhead
      cases hhead with
      | inline _ hbegin hend => exact ⟨hbegin, hend⟩
    · intro hend
      rw [hend, readBehind, if_pos rfl] at hbehind
      rw [hbehind]
      exact ⟨rfl, rfl, rfl⟩
  · apply pieces?_congr
    rw [Text.trim_blank_append hs, Text.trim_append_blank hs']

/-- The word `begin` twice, between wide spaces and right before a brace, and
a key that starts with it. -/
theorem markers_grammatical_begin :
    let content := Text.ofString "\u00a0@!begin\u2003begin\x7b1"
    let longer := Text.ofString "@!beginX"
    (∃ p, pieces? content = some p ∧ p.kind = .blockBegin ∧ p.key = "begin")
      ∧ (∃ p, pieces? longer = some p ∧ p.kind = .inline ∧ p.key = "beginX"
        ∧ p.key ≠ "begin")
      ∧ pieces? ("\u3000" ++ (longer ++ "\u2028")) = pieces? longer := by
  intro content longer
  obtain ⟨-, hread, hmarker, hblank⟩ := markers_grammatical
  have hbegin : Head .blockBegin (Text.ofString "begin")
      ("@!begin" ++ (Text.ofString "\u2003" ++ Text.ofString "begin")) :=
    .blockBegin ⟨by decide, by decide⟩ (by decide)
  have hlonger : Head .inline (Text.ofString "beginX")
      ("@!" ++ Text.ofString "beginX") :=
    .inline (by decide) (by decide) (by decide)
  obtain ⟨p, hp, hkind, hkey⟩ :=
    hread longer _ _ _ [] (by decide) hlonger rfl
  exact ⟨hread content _ _ _ "\x7b1" (by decide) hbegin rfl,
    ⟨p, hp, hkind, hkey, ((hmarker longer p hp).1 hkind).1⟩,
    hblank _ longer _ (by decide) (by decide)⟩

end Marginalia.Marker
