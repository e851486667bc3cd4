/-
The names of styles that a console has to take (`Console.IsName`). Their normal
form, which may be another order of their words or a longer spelling, is made of
the same characters (`exists_normal`). No such name has a part in parentheses,
where a number could be missing, and so none of them is at fault
(`exists_isStyle`).
-/
import Marginalia.Proofs.Console
import Marginalia.Proofs.Display.Tags
import Marginalia.Proofs.Text.Pieces

namespace Marginalia

open Console (isNamePoint IsName opensTag)

namespace StyleName

-- ========================================================== characters

/-- The text holds nothing that a name may not hold. -/
def IsNameText (t : Text) : Prop := ∀ c ∈ t, isNamePoint c = true

instance : DecidablePred IsNameText := fun t =>
  inferInstanceAs (Decidable (∀ c ∈ t, _))

theorem isNamePoint_range {c : CodePoint} (h : isNamePoint c = true) :
    0x20 ≤ c.toNat ∧ c.toNat < 0x80 ∧ ¬ (0x41 ≤ c.toNat ∧ c.toNat ≤ 0x5A) := by
  cases c with
  | surrogate half => cases h
  | scalar c =>
      simp only [isNamePoint, Bool.or_eq_true, Bool.and_eq_true,
        decide_eq_true_eq, List.contains_iff_mem, List.mem_cons,
        List.not_mem_nil, or_false, Char.le_def, UInt32.le_iff_toNat_le] at h
      show 0x20 ≤ c.val.toNat ∧ c.val.toNat < 0x80
        ∧ ¬ (0x41 ≤ c.val.toNat ∧ c.val.toNat ≤ 0x5A)
      rcases h with (h | h) | (rfl | rfl | rfl | rfl | rfl)
      · have hlow : 'a'.val.toNat = 0x61 := rfl
        have hhigh : 'z'.val.toNat = 0x7A := rfl
        omega
      · have hlow : '0'.val.toNat = 0x30 := rfl
        have hhigh : '9'.val.toNat = 0x39 := rfl
        omega
      all_goals decide

/-- A name is in lower case. -/
theorem lower_eq {t : Text} (h : IsNameText t) : t.lower = t := by
  have hafter : ∀ before, Text.lowerAfter before t = t := by
    induction t with
    | nil => exact fun _ => rfl
    | cons c t ih =>
        intro before
        obtain ⟨hc, ht⟩ := List.forall_mem_cons.1 h
        obtain ⟨-, hascii, hcapital⟩ := isNamePoint_range hc
        rw [Text.lowerAfter, if_neg (by omega), if_neg (by omega),
          if_pos hascii, if_neg hcapital, ih ht]
        rfl
  exact hafter []

/-- The only white space in a name is the space. -/
theorem eq_space_of_isBlank {c : CodePoint} (h : isNamePoint c = true)
    (hblank : c.isBlank = true) : c = .scalar ' ' := by
  obtain ⟨hlow, hhigh, -⟩ := isNamePoint_range h
  have hspace : c.toNat = 0x20 := by
    unfold CodePoint.isBlank CodePoint.isBlankNat at hblank
    simp only [Bool.or_eq_true, Bool.and_eq_true, decide_eq_true_eq,
      beq_iff_eq] at hblank
    omega
  cases c with
  | surrogate half => cases h
  | scalar c => exact congrArg _ (Char.toNat_inj.1 hspace)

-- =============================================================== words

theorem isNameText_splitWords {t : Text} (h : IsNameText t) :
    ∀ word ∈ splitWords t, IsNameText word := by
  intro word hword c hc
  have hmem := (Text.flatten_splitOn_sublist _ _).subset
    (List.mem_flatten.2 ⟨word, (List.mem_filter.1 hword).1, hc⟩)
  obtain ⟨d, hd, rfl⟩ := List.mem_map.1 hmem
  split
  · decide
  · exact h d hd

theorem isNameText_joinWith {words : List Text}
    (h : ∀ word ∈ words, IsNameText word) :
    IsNameText (Text.joinWith " " words) := by
  have hspace : IsNameText " " := by decide
  induction words with
  | nil => exact nofun
  | cons t ts ih =>
      obtain ⟨ht, hts⟩ := List.forall_mem_cons.1 h
      cases ts with
      | nil => exact ht
      | cons u us =>
          exact List.forall_mem_append.2
            ⟨List.forall_mem_append.2 ⟨ht, hspace⟩, ih hts⟩

/-- A word of a name is no colour with parts: it is refused as a word only. -/
theorem eq_unknownWord_of_checkColour {word : Text} {refusal : Refusal}
    (h : IsNameText word) (hrefusal : checkColour word = .error refusal) :
    refusal = .unknownWord := by
  have hnone : insideOf? "rgb(" word = none := by
    unfold insideOf?
    rw [if_neg]
    intro hstarts
    rw [Bool.and_eq_true] at hstarts
    have hstart := List.isPrefixOf_iff_prefix.1 hstarts.1
    have hmem : CodePoint.scalar '(' ∈ word := hstart.subset (by decide)
    exact absurd (h _ hmem) (by decide)
  unfold checkColour at hrefusal
  rw [hnone] at hrefusal
  split at hrefusal
  · cases hrefusal
  · exact (Except.error.inj hrefusal).symm

/-- What a style says is written with the characters of names. -/
structure IsNamed (s : Style) : Prop where
  colour : ∀ word ∈ s.colour, IsNameText word
  behind : ∀ word ∈ s.behind, IsNameText word
  link : ∀ word ∈ s.link, IsNameText word

theorem isNameText_attributes :
    ∀ spellings ∈ attributes, ∀ word ∈ spellings, IsNameText word := by
  decide

theorem isNameText_after {lead : Text} {o : Option Text}
    (hlead : IsNameText lead) (ho : ∀ word ∈ o, IsNameText word) :
    ∀ word ∈ after lead o, IsNameText word := by
  intro word hword
  cases o with
  | none => cases hword
  | some t =>
      rcases List.mem_pair.1 hword with rfl | rfl
      · exact hlead
      · exact ho _ rfl

theorem IsNamed.words {s : Style} (h : IsNamed s) :
    ∀ word ∈ words s, IsNameText word := by
  intro word hword
  simp only [StyleName.words, List.mem_append, List.mem_flatMap,
    List.mem_filterMap, Option.mem_toList] at hword
  rcases hword with ((⟨name, ⟨spellings, hspellings, hname⟩, hword⟩ | hcolour)
    | hbehind) | hlink
  · have hnameText := isNameText_attributes spellings hspellings name
      (List.mem_of_mem_head? hname)
    unfold attributeWords at hword
    split at hword
    · rw [List.mem_singleton.1 hword]
      exact hnameText
    · rcases List.mem_pair.1 hword with rfl | rfl
      · decide
      · exact hnameText
    · cases hword
  · exact h.colour word hcolour
  · exact isNameText_after (by decide) h.behind word hbehind
  · exact isNameText_after (by decide) h.link word hlink

theorem isNameText_lower {t : Text} (h : IsNameText t) : IsNameText t.lower :=
  (lower_eq h).symm ▸ h

theorem isNamed_empty : IsNamed {} := by
  constructor <;> rintro _ ⟨⟩

/-- The words of a name are read, or one of them says nothing. -/
theorem addWords_cases {s : Style} {ws : List Text} (hs : IsNamed s)
    (h : ∀ word ∈ ws, IsNameText word) :
    (∃ s', addWords s ws = .ok s' ∧ IsNamed s')
      ∨ addWords s ws = .error .unknownWord := by
  fun_induction addWords s ws with
  | case1 s => exact .inl ⟨s, rfl, hs⟩
  | case2 => exact .inr rfl
  | case3 s _ _ _ colour rest _ ih =>
      obtain ⟨hcolour, hrest⟩ :=
        List.forall_mem_cons.1 (List.forall_mem_cons.1 h).2
      refine ih ⟨hs.colour, ?_, hs.link⟩ hrest
      rintro _ ⟨⟩
      exact isNameText_lower hcolour
  | case4 s _ _ _ colour rest refusal hrefusal =>
      obtain ⟨hcolour, -⟩ := List.forall_mem_cons.1 (List.forall_mem_cons.1 h).2
      rw [eq_unknownWord_of_checkColour (isNameText_lower hcolour) hrefusal]
      exact .inr rfl
  | case5 => exact .inr rfl
  | case6 s _ _ _ _ other rest name _ ih =>
      exact ih ⟨hs.colour, hs.behind, hs.link⟩
        (List.forall_mem_cons.1 (List.forall_mem_cons.1 h).2).2
  | case7 => exact .inr rfl
  | case8 => exact .inr rfl
  | case9 s _ _ _ _ _ address rest ih =>
      obtain ⟨haddress, hrest⟩ :=
        List.forall_mem_cons.1 (List.forall_mem_cons.1 h).2
      refine ih ⟨hs.colour, hs.behind, ?_⟩ hrest
      rintro _ ⟨⟩
      exact haddress
  | case10 s _ rest _ _ _ _ name _ ih =>
      exact ih ⟨hs.colour, hs.behind, hs.link⟩ (List.forall_mem_cons.1 h).2
  | case11 s word rest _ _ _ _ _ _ ih =>
      obtain ⟨hword, hrest⟩ := List.forall_mem_cons.1 h
      refine ih ⟨?_, hs.behind, hs.link⟩ hrest
      rintro _ ⟨⟩
      exact isNameText_lower hword
  | case12 s word rest _ _ _ _ _ refusal hrefusal =>
      obtain ⟨hword, -⟩ := List.forall_mem_cons.1 h
      rw [eq_unknownWord_of_checkColour (isNameText_lower hword) hrefusal]
      exact .inr rfl

-- ======================================================== normal forms

/-- The normal form of a name is a name too. -/
theorem exists_normal {t : Text} (h : IsNameText t) :
    ∃ form, normal t = .ok form ∧ IsNameText form := by
  have hnone : IsNameText "none" := by decide
  have htrim : IsNameText t.trim := fun c hc => h c (Text.trim_subset t hc)
  unfold normal read
  split
  · exact ⟨_, rfl, hnone⟩
  · rcases addWords_cases isNamed_empty (isNameText_splitWords h) with
      ⟨s, hs, hnamed⟩ | hunknown
    · rw [hs]
      refine ⟨_, rfl, ?_⟩
      split
      · exact hnone
      · exact isNameText_joinWith hnamed.words
    · rw [hunknown]
      exact ⟨_, rfl, isNameText_lower htrim⟩

theorem faultOf?_eq_none {t : Text} (h : IsNameText t) : faultOf? t = none := by
  obtain ⟨form, hform, -⟩ := exists_normal h
  rw [faultOf?, hform]

end StyleName

namespace Markup

open StyleName (IsNameText)

theorem not_mem_of_isNameText {t : Text} (h : IsNameText t) {c : CodePoint}
    (hc : isNamePoint c = false) : c ∉ t := fun hmem => by
  rw [h c hmem] at hc
  cases hc

/-- A name that a console has to take is the name of a style. -/
theorem exists_isStyle {name : Text} (h : IsName name) :
    ∃ form, IsStyle name form := by
  obtain ⟨form, hform, hnamed⟩ := StyleName.exists_normal h.points
  obtain ⟨c, hc, hopens⟩ := h.first
  have hvisible : ∀ d ∈ name, d ≠ .scalar ' ' → d.isBlank = false := by
    intro d hd hne
    rw [← Bool.not_eq_true]
    exact fun hblank =>
      hne (StyleName.eq_space_of_isBlank (h.points d hd) hblank)
  have hfirst : c.isBlank = false := by
    refine hvisible c (List.mem_of_mem_head? hc) ?_
    rintro rfl
    exact absurd hopens (by decide)
  obtain ⟨rest, rfl⟩ := List.head?_eq_some_iff.1 hc
  refine ⟨form, ⟨⟨c, hc, hopens⟩, not_mem_of_isNameText h.points (by decide),
    not_mem_of_isNameText h.points (by decide)⟩, hform,
    StyleName.faultOf?_eq_none hnamed, ?_, ?_,
    not_mem_of_isNameText h.points (by decide), ?_, ?_⟩
  · rintro ⟨⟩
    exact absurd (h.points _ (List.mem_cons_self ..)) (by decide)
  · rw [← Bool.not_eq_true]
    intro hstarts
    have hstart := List.isPrefixOf_iff_prefix.1 hstarts
    exact not_mem_of_isNameText hnamed (c := .scalar '@') (by decide)
      (hstart.subset (List.mem_singleton_self _))
  · refine Text.StartsVisible.trim ⟨c, rest, rfl, hfirst⟩ ?_
    have hne : c :: rest ≠ [] := List.cons_ne_nil c rest
    refine ⟨_, _, (List.dropLast_concat_getLast hne).symm,
      hvisible _ (List.getLast_mem hne) fun heq => h.last ?_⟩
    rw [List.getLast?_eq_some_getLast hne, heq]
  · rw [Text.isBlank, List.all_cons, hfirst, Bool.false_and]

end Markup

end Marginalia
