/-
Texts that are shown as they stand. Plain text has no tag and no backslash
before a bracket, whatever comes after it. When no word of it can be the name
of a pictograph and it has no controls, every step of showing it leaves it as
it is (`shownPlain_eq`).
-/
import Marginalia.Proofs.Console
import Marginalia.Proofs.Display.Escaping
import Marginalia.Proofs.Traverse

namespace Marginalia

open Console (isPlain namesNothing isControl opensTag)

-- ========================================================= pictographs

namespace Emoji

/-- A reference ends at a colon before any white space. -/
theorem colon_mem_of_reference? {t : Text} {r : Reference}
    (h : reference? t = some r) :
    .scalar ':' ∈ t.takeWhile (!·.isBlank) := by
  induction t generalizing r with
  | nil => cases h
  | cons c t ih =>
      unfold reference? at h
      split at h
      · next words selector hfound =>
        have hwords : ∀ form ∈ forms, .scalar ':' ∈ form.1
            ∧ ∀ x ∈ form.1, (!x.isBlank) = true := by decide
        obtain ⟨hcolon, hvisible⟩ :=
          hwords _ (List.mem_of_find?_eq_some hfound)
        have hstarts := List.find?_some hfound
        obtain ⟨rest, hrest⟩ := List.isPrefixOf_iff_prefix.1 hstarts
        rw [← hrest, List.takeWhile_append_of_pos hvisible]
        exact List.mem_append_left _ hcolon
      · split at h
        · next hc =>
          rw [hc]
          exact List.mem_cons_self ..
        · split at h
          · cases h
          · next hc hblank =>
            obtain ⟨r', hr', -⟩ := Option.map_eq_some_iff.1 h
            rw [List.takeWhile_cons_of_pos (by simpa using hblank)]
            exact List.mem_cons_of_mem c (ih hr')

theorem replaceFrom_eq {t : Text} (h : namesNothing t = true) (fuel : Nat) :
    replaceFrom fuel t = t := by
  induction fuel generalizing t with
  | zero => rfl
  | succ fuel ih =>
      cases t with
      | nil => rfl
      | cons c t =>
          rw [namesNothing, Bool.and_eq_true] at h
          obtain ⟨hc, ht⟩ := h
          have hnone : (if c = .scalar ':' then reference? t else none)
              = none := by
            split
            · next heq =>
              rw [Option.eq_none_iff_forall_ne_some]
              intro r hr
              have hmem := colon_mem_of_reference? hr
              subst heq
              simp [hmem] at hc
            · rfl
          rw [replaceFrom, hnone, ih ht]

/-- Where no word has two colons there is no pictograph. -/
theorem replace_eq {t : Text} (h : namesNothing t = true) : replace t = t :=
  replaceFrom_eq h t.length

end Emoji

namespace Markup

-- ========================================================== plain text

theorem unescape_eq {t : Text} (h : isPlain t = true) : unescape t = t := by
  fun_induction unescape t with
  | case1 t => exact absurd h (by simp [isPlain, Console.standsAlone])
  | case2 c t _ ih =>
      rw [isPlain, Bool.and_eq_true] at h
      rw [ih h.2]
  | case3 => rfl

/-- Plain text is shown as it stands, if it names no pictograph and has no
controls. -/
theorem shownPlain_eq {t : Text} (hplain : isPlain t = true)
    (hnames : namesNothing t = true)
    (hcontrols : ∀ c ∈ t, isControl c = false) : shownPlain t = t := by
  rw [shownPlain, unescape_eq hplain, Emoji.replace_eq hnames]
  exact List.filter_eq_self.2 fun c hc => by rw [hcontrols c hc]; rfl

/-- No tag begins in plain text, whatever comes after that. -/
theorem tagAt?_append {t : Text} (h : isPlain t = true) (hne : t ≠ [])
    (rest : Text) : tagAt? (t ++ rest) = none := by
  induction t with
  | nil => exact absurd rfl hne
  | cons c t ih =>
      rw [isPlain, Bool.and_eq_true] at h
      obtain ⟨hc, ht⟩ := h
      by_cases hbracket : c = .scalar '['
      · subst hbracket
        cases t with
        | nil => cases hc
        | cons d t =>
            refine tagAt?_opening_of_head fun x hx => ?_
            cases hx
            simpa [Console.standsAlone] using hc
      · by_cases hslash : c = .scalar '\\'
        · subst hslash
          cases t with
          | nil => cases hc
          | cons d t =>
              exact tagAt?_cons_slash_eq_none.2
                (ih ht (List.cons_ne_nil d t))
        · exact tagAt?_cons_eq_none hbracket hslash _

theorem tags_append {t : Text} (h : isPlain t = true) (rest : Text) :
    tags (t ++ rest) = tags rest := by
  induction t with
  | nil => rfl
  | cons c t ih =>
      have hnone : tagAt? (c :: (t ++ rest)) = none :=
        tagAt?_append h (List.cons_ne_nil c t) rest
      rw [isPlain, Bool.and_eq_true] at h
      exact (tags_cons hnone).trans (ih h.2)

-- ============================================================== pieces

/-- The pieces do not hang on the fuel as long as there is enough. -/
theorem piecesFrom_fuel {fuel fuel' : Nat} {t : Text} (h : t.length ≤ fuel)
    (h' : t.length ≤ fuel') (reversed : Text) :
    piecesFrom reversed fuel t = piecesFrom reversed fuel' t := by
  induction fuel generalizing fuel' t reversed with
  | zero =>
      rw [List.length_eq_zero_iff.1 (Nat.le_zero.1 h)]
      cases fuel' <;> rfl
  | succ fuel ih =>
      cases t with
      | nil => cases fuel' <;> rfl
      | cons c t =>
          cases fuel' with
          | zero => cases h'
          | succ fuel' =>
              rw [List.length_cons] at h h'
              rw [piecesFrom, piecesFrom]
              cases hfound : tagAt? (c :: t) with
              | none => exact ih (by omega) (by omega) _
              | some found =>
                  have hlt := length_after_lt hfound
                  rw [List.length_cons] at hlt
                  have hafter := @ih fuel' found.after
                    (by omega) (by omega) []
                  dsimp only
                  rw [hafter]

/-- The pieces of a text behind plain text that was read before. -/
def piecesBehind (reversed t : Text) : List Piece :=
  piecesFrom reversed t.length t

/-- Plain text goes before the pieces. -/
theorem piecesBehind_append {t : Text} (h : isPlain t = true)
    (reversed rest : Text) :
    piecesBehind reversed (t ++ rest)
      = piecesBehind (t.reverse ++ reversed) rest := by
  induction t generalizing reversed with
  | nil => rfl
  | cons c t ih =>
      have hnone : tagAt? (c :: (t ++ rest)) = none :=
        tagAt?_append h (List.cons_ne_nil c t) rest
      rw [isPlain, Bool.and_eq_true] at h
      rw [List.reverse_cons, List.append_assoc, List.singleton_append,
        ← ih h.2, List.cons_append]
      unfold piecesBehind
      rw [List.length_cons, piecesFrom, hnone]

/-- A tag is a piece, behind the plain text before it. -/
theorem piecesBehind_tag {inside : Text} (h : IsTag inside)
    (reversed rest : Text) :
    piecesBehind reversed (.scalar '[' :: (inside ++ .scalar ']' :: rest))
      = plainBefore reversed (.tag inside :: piecesBehind [] rest) := by
  have hfound : tagAt? (.scalar '[' :: (inside ++ .scalar ']' :: rest))
      = some ⟨0, inside, rest⟩ := tagAt?_eq_some_iff.2 ⟨rfl, h⟩
  unfold piecesBehind
  rw [List.length_cons, piecesFrom, hfound]
  simp only [Nat.zero_div, Nat.zero_mod, List.replicate_zero]
  have hfuel : rest.length ≤ (inside ++ .scalar ']' :: rest).length := by
    rw [List.length_append, List.length_cons]
    omega
  rw [piecesFrom_fuel hfuel (Nat.le_refl _)]
  rfl

/-- What is shown of a piece. -/
def Piece.shown : Piece → Text
  | .plain t => shownPlain t
  | .tag _ => []

theorem flatMap_plainBefore {reversed : Text}
    (h : shownPlain reversed.reverse = reversed.reverse) (ps : List Piece) :
    (plainBefore reversed ps).flatMap Piece.shown
      = reversed.reverse ++ ps.flatMap Piece.shown := by
  unfold plainBefore
  split
  · next hempty =>
    rw [List.isEmpty_iff.1 hempty]
    rfl
  · rw [List.flatMap_cons, Piece.shown, h]

theorem text_showPieces {ps : List Piece} {stack : List OpenTag} {n : Nat}
    {s : Shown} (h : showPieces n stack ps = .ok s) :
    s.text = ps.flatMap Piece.shown := by
  induction ps generalizing stack n s with
  | nil =>
      cases h
      rfl
  | cons piece ps ih =>
      cases piece with
      | plain t =>
          obtain ⟨rest, hrest, hs⟩ := Traverse.bind_ok.1 h
          cases hs
          exact congrArg (_ ++ ·) (ih hrest)
      | tag inside =>
          unfold showPieces at h
          split at h
          · obtain ⟨taken, -, h⟩ := Traverse.bind_ok.1 h
            obtain ⟨closed, -, h⟩ := Traverse.bind_ok.1 h
            obtain ⟨rest, hrest, hs⟩ := Traverse.bind_ok.1 h
            cases hs
            show rest.text = _
            exact ih hrest
          · obtain ⟨name, -, h⟩ := Traverse.bind_ok.1 h
            exact ih h

/-- A markup shows what its pieces show. -/
theorem text_render {t text : Text} (h : render t = .ok text) :
    text = (pieces t).flatMap Piece.shown := by
  unfold render at h
  split at h
  · cases h
  · next s hs =>
    split at h
    · cases h
    · cases h
      exact text_showPieces hs

end Markup

end Marginalia
