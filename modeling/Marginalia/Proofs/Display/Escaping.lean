/-
Escaped text. The tags of a text are made plain by one more than twice the
backslashes before them, and a text that is escaped brings no tag into the
markup it is put in. All it can leave behind are the backslashes at its end,
which stand before whatever comes next (`tags_escape_append`).

Two things could go wrong and do not: a bracket of the text that opens no
tag could find the end of one in the markup that follows, and a tag that is
made plain could give such a bracket its end. Neither happens since brackets
stay as they are: the first one behind an opening bracket is the same after
the text is escaped, and if the text has none behind it then the markup that
follows begins with one that opens a tag of its own.
-/
import Marginalia.Proofs.Display.Tags

namespace Marginalia.Markup

open Console (opensTag)

-- ============================================================ brackets

/-- A bracket of a tag. -/
def isSquare (c : CodePoint) : Bool := c == .scalar '[' || c == .scalar ']'

/-- The first bracket of a text. -/
def firstSquare? (t : Text) : Option CodePoint := t.find? isSquare

theorem firstSquare?_append (t u : Text) :
    firstSquare? (t ++ u) = (firstSquare? t).or (firstSquare? u) :=
  List.find?_append

theorem firstSquare?_slashes (n : Nat) : firstSquare? (slashes n) = none := by
  refine List.find?_eq_none.2 fun c hc => ?_
  rw [List.eq_of_mem_replicate hc]
  decide

/-- A bracket opens a tag exactly when the letter behind it may and the next
bracket closes it. -/
theorem tagAt?_opening_eq_none {c : CodePoint} {t : Text} :
    tagAt? (.scalar '[' :: c :: t) = none
      ↔ (opensTag c = true → firstSquare? t ≠ some (.scalar ']')) := by
  constructor
  · intro h hopens hfirst
    obtain ⟨-, w, after, rfl, hw⟩ := List.find?_eq_some_iff_append.1 hfirst
    have hplain : ∀ x ∈ w, x ≠ .scalar '[' ∧ x ≠ .scalar ']' := fun x hx => by
      simpa [isSquare] using hw x hx
    obtain ⟨hne, hne'⟩ := ne_bracket_of_opensTag hopens
    have hopening : .scalar '[' ∉ c :: w := fun hmem => by
      rcases List.mem_cons.1 hmem with h | h
      · exact hne h.symm
      · exact (hplain _ h).1 rfl
    have hclosing : .scalar ']' ∉ c :: w := fun hmem => by
      rcases List.mem_cons.1 hmem with h | h
      · exact hne' h.symm
      · exact (hplain _ h).2 rfl
    have htag : tagAt? (.scalar '[' :: c :: (w ++ .scalar ']' :: after))
        = some ⟨0, c :: w, after⟩ :=
      tagAt?_eq_some_iff.2 ⟨rfl, ⟨c, rfl, hopens⟩, hopening, hclosing⟩
    rw [h] at htag
    cases htag
  · intro h
    rw [Option.eq_none_iff_forall_ne_some]
    rintro ⟨n, inside, after⟩ hfound
    obtain ⟨heq, ⟨d, hd, hopens⟩, hopening, hclosing⟩ :=
      tagAt?_eq_some_iff.1 hfound
    obtain ⟨w, rfl⟩ := List.head?_eq_some_iff.1 hd
    cases n with
    | succ n => cases heq
    | zero =>
        cases heq
        refine h hopens (List.find?_eq_some_iff_append.2
          ⟨rfl, w, after, rfl, fun x hx => ?_⟩)
        have hx' := List.mem_cons_of_mem c hx
        have hne : x ≠ .scalar '[' := fun h => hopening (h ▸ hx')
        have hne' : x ≠ .scalar ']' := fun h => hclosing (h ▸ hx')
        simp [isSquare, hne, hne']

/-- A bracket opens no tag before something that no tag begins with. -/
theorem tagAt?_opening_of_head {t : Text}
    (h : ∀ c ∈ t.head?, opensTag c = false) :
    tagAt? (.scalar '[' :: t) = none := by
  cases t with
  | nil => rfl
  | cons c t =>
      refine tagAt?_opening_eq_none.2 fun hopens => ?_
      rw [h c rfl] at hopens
      cases hopens

-- ======================================================= escaped texts

theorem escapeTags_cons {fuel : Nat} {c : CodePoint} {t : Text}
    (h : tagAt? (c :: t) = none) :
    escapeTags (fuel + 1) (c :: t) = c :: escapeTags fuel t := by
  rw [escapeTags, h]

theorem escapeTags_tag {fuel : Nat} {c : CodePoint} {t : Text}
    {found : TagSpan} (h : tagAt? (c :: t) = some found) :
    escapeTags (fuel + 1) (c :: t)
      = slashes (2 * found.backslashes + 1)
        ++ .scalar '[' :: (found.inside
          ++ .scalar ']' :: escapeTags fuel found.after) := by
  rw [escapeTags, h]
  simp only [List.append_assoc, List.singleton_append]
  rfl

/-- The brackets of a text stay as they are. -/
theorem firstSquare?_escapeTags (fuel : Nat) (t : Text) :
    firstSquare? (escapeTags fuel t) = firstSquare? t := by
  induction fuel generalizing t with
  | zero => rfl
  | succ fuel ih =>
      cases t with
      | nil => rfl
      | cons c t =>
          cases h : tagAt? (c :: t) with
          | none =>
              have hrest := ih t
              unfold firstSquare? at hrest ⊢
              rw [escapeTags_cons h, List.find?_cons, List.find?_cons, hrest]
          | some found =>
              rw [escapeTags_tag h, (tagAt?_eq_some_iff.1 h).1,
                firstSquare?_append, firstSquare?_append,
                firstSquare?_slashes, firstSquare?_slashes]
              rfl

/-- Markup that may follow an escaped text: it cannot be taken for the end of
a tag that the text begins. -/
structure Guarded (rest : Text) : Prop where
  noLetter : ∀ c ∈ rest.head?, opensTag c = false
  noClosing : firstSquare? rest ≠ some (.scalar ']')

theorem Guarded.nil : Guarded [] := ⟨nofun, nofun⟩

theorem Guarded.opening (t : Text) : Guarded (.scalar '[' :: t) := by
  refine ⟨fun c hc => ?_, nofun⟩
  cases hc
  rfl

theorem Guarded.slash {rest : Text} (h : Guarded rest) :
    Guarded (.scalar '\\' :: rest) := by
  refine ⟨fun c hc => ?_, h.noClosing⟩
  cases hc
  rfl

section Append

variable {fuel : Nat} {t rest : Text} (hrest : Guarded rest)

include hrest

/-- A bracket that opens no tag opens none when what follows it is
escaped. -/
theorem tagAt?_opening_escapeTags (hfuel : t.length ≤ fuel)
    (h : tagAt? (.scalar '[' :: t) = none) :
    tagAt? (.scalar '[' :: (escapeTags fuel t ++ rest)) = none := by
  cases t with
  | nil => cases fuel <;> exact tagAt?_opening_of_head hrest.noLetter
  | cons c t =>
      cases fuel with
      | zero => cases hfuel
      | succ fuel =>
          cases hc : tagAt? (c :: t) with
          | none =>
              -- the letter behind the bracket is the same as before
              rw [tagAt?_opening_eq_none] at h
              rw [escapeTags_cons hc, List.cons_append]
              refine tagAt?_opening_eq_none.2 fun hopens => ?_
              rw [firstSquare?_append, firstSquare?_escapeTags]
              cases hfirst : firstSquare? t with
              | none => exact hrest.noClosing
              | some x =>
                  rw [hfirst] at h
                  exact h hopens
          | some found =>
              rw [escapeTags_tag hc]
              refine tagAt?_opening_of_head fun x hx => ?_
              cases hx
              rfl

/-- A text that has no tag at its head has none there when it is escaped,
whatever follows it, unless it is nothing but backslashes. -/
theorem escapeTags_of_tagAt?_eq_none (hfuel : t.length ≤ fuel)
    (h : tagAt? t = none) :
    (∃ n, escapeTags fuel t = slashes n)
      ∨ tagAt? (escapeTags fuel t ++ rest) = none := by
  induction fuel generalizing t with
  | zero =>
      rw [List.length_eq_zero_iff.1 (Nat.le_zero.1 hfuel)]
      exact .inl ⟨0, rfl⟩
  | succ fuel ih =>
      cases t with
      | nil => exact .inl ⟨0, rfl⟩
      | cons c t =>
          have hfuel' : t.length ≤ fuel := Nat.le_of_succ_le_succ hfuel
          rw [escapeTags_cons h]
          by_cases hslash : c = .scalar '\\'
          · subst hslash
            rw [tagAt?_cons_slash_eq_none] at h
            rcases ih hfuel' h with ⟨n, hn⟩ | hnone
            · exact .inl ⟨n + 1, by rw [hn]; rfl⟩
            · exact .inr (tagAt?_cons_slash_eq_none.2 hnone)
          · right
            by_cases hbracket : c = .scalar '['
            · subst hbracket
              exact tagAt?_opening_escapeTags hrest hfuel' h
            · exact tagAt?_cons_eq_none hbracket hslash _

/-- Of a text that is escaped only backslashes at its end count. -/
theorem tags_escapeTags_append (hfuel : t.length ≤ fuel) :
    ∃ n, tags (escapeTags fuel t ++ rest) = tags (slashes n ++ rest) := by
  induction fuel generalizing t with
  | zero =>
      rw [List.length_eq_zero_iff.1 (Nat.le_zero.1 hfuel)]
      exact ⟨0, rfl⟩
  | succ fuel ih =>
      cases t with
      | nil => exact ⟨0, rfl⟩
      | cons c t =>
          have hfuel' : t.length ≤ fuel := Nat.le_of_succ_le_succ hfuel
          cases h : tagAt? (c :: t) with
          | none =>
              rcases escapeTags_of_tagAt?_eq_none hrest hfuel h with
                ⟨n, hn⟩ | hnone
              · exact ⟨n, by rw [hn]⟩
              · obtain ⟨n, hn⟩ := ih hfuel'
                rw [escapeTags_cons h, List.cons_append] at hnone ⊢
                exact ⟨n, (tags_cons hnone).trans hn⟩
          | some found =>
              have hlt := length_after_lt h
              rw [List.length_cons] at hlt
              obtain ⟨n, hn⟩ := ih (t := found.after) (by omega)
              have hodd : (2 * found.backslashes + 1) % 2 = 1 := by omega
              have htag := (tagAt?_eq_some_iff.1 h).2
              refine ⟨n, ?_⟩
              rw [escapeTags_tag h, List.append_assoc, List.cons_append,
                List.append_assoc, List.cons_append, tags_tag htag,
                if_pos hodd, List.nil_append, hn]

/-- An escaped text brings no tag into a markup. It leaves some backslashes
before what follows it, or none. -/
theorem tags_escape_append (t : Text) :
    ∃ n, tags (escape t ++ rest) = tags (slashes n ++ rest) := by
  unfold escape
  dsimp only
  split
  · obtain ⟨n, hn⟩ :=
      tags_escapeTags_append hrest.slash (Nat.le_refl t.length)
    refine ⟨n + 1, ?_⟩
    rw [List.append_assoc, slashes, List.replicate_succ', List.append_assoc]
    exact hn
  · exact tags_escapeTags_append hrest (Nat.le_refl _)

end Append

/-- An escaped text has no tags. -/
theorem tags_escape (t : Text) : tags (escape t) = [] := by
  obtain ⟨n, hn⟩ := tags_escape_append Guarded.nil t
  rwa [List.append_nil, List.append_nil, tags_slashes] at hn

end Marginalia.Markup
