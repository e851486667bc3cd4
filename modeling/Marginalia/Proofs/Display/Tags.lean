/-
The tags of a markup. What a markup shows hangs on its tags only as far as
they can be shown at all: plain text never fails. A markup whose tags open
and close styles is always shown (`exists_render`), and one with a tag that
closes a style where none is open never is (`exists_render_error`).

The tags are found from left to right, and each is taken with the backslashes
before it: an odd number of them makes it plain text.
-/
import Marginalia.Display.Markup
import Marginalia.Proofs.Text.Occurrence
import Marginalia.Proofs.Text.Trim

namespace Marginalia.Markup

open Console (opensTag)

-- ============================================================ one tag

/-- A run of backslashes. -/
def slashes (n : Nat) : Text := List.replicate n (.scalar '\\')

/-- What may stand between the brackets of a tag. -/
structure IsTag (inside : Text) : Prop where
  opens : ∃ c ∈ inside.head?, opensTag c = true
  noOpening : .scalar '[' ∉ inside
  noClosing : .scalar ']' ∉ inside

instance : DecidablePred IsTag := fun _ =>
  decidable_of_iff (_ ∧ _ ∧ _)
    ⟨fun ⟨h, h', h''⟩ => ⟨h, h', h''⟩, fun ⟨h, h', h''⟩ => ⟨h, h', h''⟩⟩

theorem takeWhile_slashes (n : Nat) {t : Text}
    (h : t.head? ≠ some (.scalar '\\')) :
    (slashes n ++ t).takeWhile (· == .scalar '\\') = slashes n := by
  refine Text.takeWhile_run (fun c hc => ?_) fun c hc => ?_
  · rw [List.eq_of_mem_replicate hc]
    rfl
  · rw [Option.mem_def.1 hc] at h
    simpa using h

/-- Every text begins with some backslashes, or with none. -/
theorem exists_slashes (t : Text) :
    ∃ n u, t = slashes n ++ u ∧ u.head? ≠ some (.scalar '\\') := by
  induction t with
  | nil => exact ⟨0, [], rfl, nofun⟩
  | cons c t ih =>
      by_cases hc : c = .scalar '\\'
      · obtain ⟨n, u, rfl, hu⟩ := ih
        exact ⟨n + 1, u, by rw [hc]; rfl, hu⟩
      · exact ⟨0, c :: t, rfl, fun h => hc (Option.some.inj h)⟩

theorem ne_bracket_of_opensTag {c : CodePoint} (h : opensTag c = true) :
    c ≠ .scalar '[' ∧ c ≠ .scalar ']' := by
  constructor
  · rintro rfl
    exact absurd h (by decide)
  · rintro rfl
    exact absurd h (by decide)

/-- A tag is found with the backslashes before it. -/
theorem tagAt?_eq_some_iff {t : Text} {found : TagSpan} :
    tagAt? t = some found
      ↔ t = slashes found.backslashes
          ++ .scalar '[' :: (found.inside ++ .scalar ']' :: found.after)
        ∧ IsTag found.inside := by
  constructor
  · intro h
    obtain ⟨n, u, rfl, hu⟩ := exists_slashes t
    unfold tagAt? at h
    rw [takeWhile_slashes n hu] at h
    dsimp only at h
    rw [List.drop_left] at h
    split at h
    · next c rest =>
      split at h
      · next hc =>
        split at h
        · next inside after hcut =>
          obtain ⟨rfl, hafter⟩ := Text.cut?_singleton_eq_some_iff.1 hcut
          have hclosing : .scalar ']' ∉ inside := hafter
          split at h
          · cases h
          · next hopening =>
            cases h
            obtain ⟨hne, hne'⟩ := ne_bracket_of_opensTag hc
            refine ⟨?_, ⟨c, rfl, hc⟩, ?_, ?_⟩
            · rw [slashes, List.length_replicate]
              rfl
            · simpa [hne.symm] using hopening
            · simpa [hne'.symm] using hclosing
        · cases h
      · cases h
    · cases h
  · obtain ⟨n, inside, after⟩ := found
    rintro ⟨rfl, ⟨c, hc, hopens⟩, hopening, hclosing⟩
    obtain ⟨w, rfl⟩ := List.head?_eq_some_iff.1 hc
    have hcut : Text.cut? "]" (w ++ .scalar ']' :: after) = some (w, after) :=
      Text.cut?_singleton_eq_some_iff.2
        ⟨rfl, fun h => hclosing (List.mem_cons_of_mem _ h)⟩
    have hplain : ¬ List.contains w (.scalar '[') = true := fun h =>
      hopening (List.mem_cons_of_mem _ (List.contains_iff_mem.1 h))
    unfold tagAt?
    rw [takeWhile_slashes n (by rw [List.head?_cons]; decide)]
    dsimp only
    rw [List.drop_left, List.cons_append]
    show (if opensTag c = true then _ else none) = _
    rw [if_pos hopens, hcut]
    dsimp only
    rw [if_neg hplain, slashes, List.length_replicate]

/-- Backslashes in front make no difference to there being a tag. -/
theorem tagAt?_cons_slash_eq_none {t : Text} :
    tagAt? (.scalar '\\' :: t) = none ↔ tagAt? t = none := by
  obtain ⟨n, u, rfl, hu⟩ := exists_slashes t
  have hcons : CodePoint.scalar '\\' :: (slashes n ++ u)
      = slashes (n + 1) ++ u := rfl
  rw [hcons]
  unfold tagAt?
  rw [takeWhile_slashes _ hu, takeWhile_slashes _ hu]
  dsimp only
  rw [List.drop_left, List.drop_left]
  split
  · next c rest =>
    split
    · split
      · split
        · exact Iff.rfl
        · exact ⟨nofun, nofun⟩
      · exact Iff.rfl
    · exact Iff.rfl
  · exact Iff.rfl

/-- A tag begins with a bracket or a backslash. -/
theorem tagAt?_cons_eq_none {c : CodePoint} (hbracket : c ≠ .scalar '[')
    (hslash : c ≠ .scalar '\\') (t : Text) : tagAt? (c :: t) = none := by
  rw [Option.eq_none_iff_forall_ne_some]
  intro found h
  obtain ⟨heq, -⟩ := tagAt?_eq_some_iff.1 h
  cases hn : found.backslashes with
  | zero =>
      rw [hn] at heq
      exact hbracket (List.cons.inj heq).1
  | succ n =>
      rw [hn] at heq
      exact hslash (List.cons.inj heq).1

-- ============================================================ all tags

/-- The inside of a tag. -/
def Piece.tag? : Piece → Option Text
  | .plain _ => none
  | .tag inside => some inside

/-- The tags among some pieces. -/
def tagsOf (ps : List Piece) : List Text := ps.filterMap Piece.tag?

/-- The tags of a markup. -/
def tags (t : Text) : List Text := tagsOf (pieces t)

theorem tagsOf_plainBefore (reversed : Text) (ps : List Piece) :
    tagsOf (plainBefore reversed ps) = tagsOf ps := by
  unfold plainBefore
  split <;> rfl

/-- A tag leaves less of the text. -/
theorem length_after_lt {t : Text} {found : TagSpan}
    (h : tagAt? t = some found) : found.after.length < t.length := by
  rw [(tagAt?_eq_some_iff.1 h).1]
  simp only [List.length_append, List.length_cons]
  omega

/-- The tags do not hang on the plain text before them, nor on the fuel as
long as there is enough. -/
theorem tagsOf_piecesFrom {fuel fuel' : Nat} {t : Text}
    (h : t.length ≤ fuel) (h' : t.length ≤ fuel') (reversed reversed' : Text) :
    tagsOf (piecesFrom reversed fuel t)
      = tagsOf (piecesFrom reversed' fuel' t) := by
  induction fuel generalizing fuel' t reversed reversed' with
  | zero =>
      rw [List.length_eq_zero_iff.1 (Nat.le_zero.1 h)]
      cases fuel' <;> simp only [piecesFrom, tagsOf_plainBefore]
  | succ fuel ih =>
      cases t with
      | nil => cases fuel' <;> simp only [piecesFrom, tagsOf_plainBefore]
      | cons c t =>
          cases fuel' with
          | zero => cases h'
          | succ fuel' =>
              rw [List.length_cons] at h h'
              rw [piecesFrom, piecesFrom]
              cases hfound : tagAt? (c :: t) with
              | none => exact ih (by omega) (by omega) _ _
              | some found =>
                  have hlt := length_after_lt hfound
                  rw [List.length_cons] at hlt
                  dsimp only
                  rw [tagsOf_plainBefore, tagsOf_plainBefore,
                    tagsOf_plainBefore, tagsOf_plainBefore]
                  have hafter := @ih fuel' found.after
                    (by omega) (by omega) [] []
                  unfold tagsOf at hafter ⊢
                  rw [List.filterMap_cons, List.filterMap_cons, hafter]

/-- A text without a tag at its head has the tags behind that. -/
theorem tags_cons {c : CodePoint} {t : Text} (h : tagAt? (c :: t) = none) :
    tags (c :: t) = tags t := by
  unfold tags pieces
  rw [List.length_cons, piecesFrom, h]
  exact tagsOf_piecesFrom (Nat.le_refl _) (Nat.le_refl _) _ _

/-- A tag at the head of a text is one of its tags, unless it stands behind
an odd number of backslashes. -/
theorem tags_tag {inside : Text} (h : IsTag inside) (n : Nat) (rest : Text) :
    tags (slashes n ++ .scalar '[' :: (inside ++ .scalar ']' :: rest))
      = (if n % 2 = 1 then [] else [inside]) ++ tags rest := by
  have hfound : tagAt? (slashes n
      ++ .scalar '[' :: (inside ++ .scalar ']' :: rest))
        = some ⟨n, inside, rest⟩ := tagAt?_eq_some_iff.2 ⟨rfl, h⟩
  generalize slashes n ++ .scalar '[' :: (inside ++ .scalar ']' :: rest) = t
    at hfound ⊢
  have hlt := length_after_lt hfound
  cases t with
  | nil => cases hfound
  | cons c t =>
      rw [List.length_cons] at hlt
      dsimp only at hlt
      have hrest := tagsOf_piecesFrom (t := rest) (by omega : _ ≤ t.length)
        (Nat.le_refl _) [] []
      unfold tags pieces
      rw [List.length_cons, piecesFrom, hfound]
      dsimp only
      rw [tagsOf_plainBefore, tagsOf_plainBefore]
      unfold tagsOf at hrest ⊢
      rw [List.filterMap_cons, hrest]
      by_cases hodd : n % 2 = 1
      · rw [if_pos hodd, if_pos hodd]
        rfl
      · rw [if_neg hodd, if_neg hodd]
        rfl

theorem tags_opening {inside : Text} (h : IsTag inside) (rest : Text) :
    tags (.scalar '[' :: (inside ++ .scalar ']' :: rest))
      = inside :: tags rest :=
  tags_tag h 0 rest

/-- Backslashes have no tags. -/
theorem tags_slashes (n : Nat) : tags (slashes n) = [] := by
  induction n with
  | zero => rfl
  | succ n ih =>
      have hnone : tagAt? (slashes (n + 1)) = none := by
        rw [Option.eq_none_iff_forall_ne_some]
        intro found h
        have hmem : .scalar '[' ∈ slashes (n + 1) := by
          rw [(tagAt?_eq_some_iff.1 h).1]
          simp
        cases List.eq_of_mem_replicate hmem
      exact (tags_cons hnone).trans ih

-- ============================================================== pieces

/-- Plain text is shown in front of the rest. -/
theorem showPieces_plain (n : Nat) (stack : List OpenTag) (t : Text)
    (ps : List Piece) :
    showPieces n stack (.plain t :: ps)
      = (showPieces (n + (shownPlain t).length) stack ps).map fun s =>
          ⟨shownPlain t ++ s.text, s.spans⟩ := by
  rw [showPieces]
  cases showPieces (n + (shownPlain t).length) stack ps <;> rfl

/-- A tag without a slash is open from where it stands. -/
theorem showPieces_open {inside name form : Text} {parameters : Option Text}
    (hsplit : splitTag inside = (name, parameters))
    (hslash : name.head? ≠ some (.scalar '/'))
    (hnormal : normalName name = .ok form) (n : Nat) (stack : List OpenTag)
    (ps : List Piece) :
    showPieces n stack (.tag inside :: ps)
      = showPieces n (⟨form, parameters, n⟩ :: stack) ps := by
  rw [showPieces, hsplit]
  split
  · next heq =>
    cases heq
    exact absurd rfl hslash
  · next heq =>
    cases heq
    rw [hnormal]
    rfl

/-- A tag with a slash brings the styles of the one it closes. -/
theorem showPieces_close {inside name : Text} {parameters : Option Text}
    {n : Nat} {stack left : List OpenTag} {tag : OpenTag}
    {closed : List Span}
    (hsplit : splitTag inside = (.scalar '/' :: name, parameters))
    (htaken : takeClosed inside name stack = .ok (tag, left))
    (hclosed : tag.close n = .ok closed) (ps : List Piece) :
    showPieces n stack (.tag inside :: ps)
      = (showPieces n left ps).map fun s => ⟨s.text, closed ++ s.spans⟩ := by
  rw [showPieces, hsplit]
  simp only [htaken]
  show (tag.close n >>= fun closed =>
    showPieces n left ps >>= fun s =>
      Except.ok (⟨s.text, closed ++ s.spans⟩ : Shown)) = _
  rw [hclosed]
  cases showPieces n left ps <;> rfl

-- ============================================================ markups

theorem render_of_error {t : Text} {e : MarkupError}
    (h : showPieces 0 [] (pieces t) = .error e) : render t = .error e := by
  rw [render, h]

theorem render_of_ok {t : Text} {s : Shown}
    (h : showPieces 0 [] (pieces t) = .ok s) (hfault : s.fault? = none) :
    render t = .ok s.text := by
  rw [render, h]
  dsimp only
  rw [hfault]

-- ============================================================== styles

/-- A name that a style can be given and closed by, with its normal form. -/
structure IsStyle (name form : Text) : Prop where
  isTag : IsTag name
  normal : StyleName.normal name = .ok form
  harmless : StyleName.faultOf? form = none
  noSlash : name.head? ≠ some (.scalar '/')
  noAction : Text.startsWith form "@" = false
  noEquals : .scalar '=' ∉ name
  trimmed : name.trim = name
  visible : name.isBlank = false

/-- The nearest tag of a name is found where one is open, and the others stay
as they are. -/
theorem exists_takeNamed? {form : Text} {stack : List OpenTag}
    (h : form ∈ stack.map (·.name)) :
    ∃ tag left, takeNamed? form stack = some (tag, left) ∧ tag ∈ stack
      ∧ tag.name = form ∧ left ⊆ stack
      ∧ left.map (·.name) = (stack.map (·.name)).erase form := by
  induction stack with
  | nil => cases h
  | cons top stack ih =>
      rw [takeNamed?, List.map_cons]
      by_cases hname : top.name = form
      · refine ⟨top, stack, if_pos hname, List.mem_cons_self .., hname,
          List.subset_cons_self .., ?_⟩
        rw [hname, List.erase_cons_head]
      · rw [List.map_cons, List.mem_cons] at h
        obtain ⟨tag, left, htaken, htag, htagName, hleft, hnames⟩ :=
          ih (h.resolve_left fun heq => hname heq.symm)
        refine ⟨tag, top :: left, by rw [if_neg hname, htaken]; rfl,
          List.mem_cons_of_mem _ htag, htagName, List.cons_subset_cons _ hleft,
          ?_⟩
        rw [List.erase_cons_tail (by simpa using hname), List.map_cons, hnames]

namespace IsStyle

variable {name form : Text} (h : IsStyle name form)

include h

/-- The tag that closes a style. -/
theorem isTag_end : IsTag (.scalar '/' :: name) :=
  ⟨⟨_, rfl, rfl⟩,
    List.not_mem_cons_of_ne_of_not_mem (by decide) h.isTag.noOpening,
    List.not_mem_cons_of_ne_of_not_mem (by decide) h.isTag.noClosing⟩

theorem splitTag_name : splitTag name = (name, none) := by
  have hcut : Text.cut? "=" name = none :=
    Text.cut?_singleton_eq_none h.noEquals
  rw [splitTag, hcut]

theorem splitTag_end :
    splitTag (.scalar '/' :: name) = (.scalar '/' :: name, none) := by
  have hcut : Text.cut? "=" (.scalar '/' :: name) = none :=
    Text.cut?_singleton_eq_none
      (List.not_mem_cons_of_ne_of_not_mem (by decide) h.noEquals)
  rw [splitTag, hcut]

theorem normalName : normalName name = .ok form := by
  rw [Markup.normalName, h.normal]
  rfl

/-- A tag with the name of a style opens it. -/
theorem showPieces_opening (length : Nat) (stack : List OpenTag)
    (ps : List Piece) :
    showPieces length stack (.tag name :: ps)
      = showPieces length (⟨form, none, length⟩ :: stack) ps :=
  showPieces_open h.splitTag_name h.noSlash h.normalName length stack ps

theorem takeClosed_eq (stack : List OpenTag) :
    takeClosed (.scalar '/' :: name) name stack
      = match takeNamed? form stack with
        | some taken => .ok taken
        | none => .error (.nothingToClose (.scalar '/' :: name)) := by
  simp only [takeClosed, h.visible, Bool.false_eq_true, if_false, h.trimmed,
    h.normalName, bind, Except.bind, pure, Except.pure]
  cases takeNamed? form stack <;> rfl

/-- A tag with the name of a style behind a slash closes the nearest tag of
that style. -/
theorem showPieces_closing {stack left : List OpenTag} {tag : OpenTag}
    (htaken : takeNamed? form stack = some (tag, left))
    (hname : tag.name = form) (length : Nat) (ps : List Piece) :
    showPieces length stack (.tag (.scalar '/' :: name) :: ps)
      = (showPieces length left ps).map fun s =>
          ⟨s.text, tag.span length :: s.spans⟩ := by
  have hclosed : takeClosed (.scalar '/' :: name) name stack
      = .ok (tag, left) := by
    rw [h.takeClosed_eq, htaken]
  have hclose : tag.close length = .ok [tag.span length] := by
    unfold OpenTag.close OpenTag.isAction
    rw [hname, h.noAction]
    rfl
  exact showPieces_close h.splitTag_end hclosed hclose ps

/-- Where no tag of that style is open there is nothing to close. -/
theorem showPieces_stray {stack : List OpenTag}
    (hnone : takeNamed? form stack = none) (length : Nat) (ps : List Piece) :
    showPieces length stack (.tag (.scalar '/' :: name) :: ps)
      = .error (.nothingToClose (.scalar '/' :: name)) := by
  have hclosed : takeClosed (.scalar '/' :: name) name stack
      = .error (.nothingToClose (.scalar '/' :: name)) := by
    rw [h.takeClosed_eq, hnone]
  rw [showPieces, h.splitTag_end]
  simp only [hclosed]
  rfl

end IsStyle

/-- Tags that open and close styles, behind some that are open. A style is
closed while it is open, or is left open. -/
inductive Nested : List Text → List Text → Prop
  | done {forms : List Text} : Nested forms []
  | opening {name form : Text} {forms tags : List Text}
      (style : IsStyle name form) (more : Nested (form :: forms) tags) :
      Nested forms (name :: tags)
  | closing {name form : Text} {forms tags : List Text}
      (style : IsStyle name form) (isOpen : form ∈ forms)
      (more : Nested (forms.erase form) tags) :
      Nested forms ((.scalar '/' :: name) :: tags)

/-- The open tags are styles without parameters, and can be given. -/
def AreStyles (stack : List OpenTag) : Prop :=
  ∀ tag ∈ stack, StyleName.faultOf? tag.name = none ∧ tag.parameters = none

theorem AreStyles.span {stack : List OpenTag} (h : AreStyles stack)
    {tag : OpenTag} (htag : tag ∈ stack) (stop : Nat) :
    StyleName.faultOf? (tag.span stop).style = none := by
  obtain ⟨hname, hparameters⟩ := h tag htag
  unfold OpenTag.span
  rw [hparameters]
  exact hname

theorem exists_showPieces {ps : List Piece} {stack : List OpenTag}
    (hstack : AreStyles stack)
    (h : Nested (stack.map (·.name)) (tagsOf ps)) (length : Nat) :
    ∃ s, showPieces length stack ps = .ok s
      ∧ ∀ span ∈ s.spans, StyleName.faultOf? span.style = none := by
  induction ps generalizing stack length with
  | nil =>
      refine ⟨_, rfl, fun span hspan => ?_⟩
      obtain ⟨tag, htag, rfl⟩ := List.mem_map.1 hspan
      exact hstack.span htag length
  | cons piece ps ih =>
      cases piece with
      | plain t =>
          obtain ⟨s, hs, hspans⟩ :=
            ih hstack h (length + (shownPlain t).length)
          refine ⟨⟨shownPlain t ++ s.text, s.spans⟩, ?_, hspans⟩
          rw [showPieces, hs]
          rfl
      | tag inside =>
          have htags : tagsOf (.tag inside :: ps) = inside :: tagsOf ps := rfl
          rw [htags] at h
          cases h with
          | opening style more =>
              rw [style.showPieces_opening]
              exact @ih (⟨_, none, length⟩ :: stack)
                (List.forall_mem_cons.2 ⟨⟨style.harmless, rfl⟩, hstack⟩) more _
          | closing style isOpen more =>
              obtain ⟨tag, left, htaken, htag, hname, hleft, hnames⟩ :=
                exists_takeNamed? isOpen
              rw [style.showPieces_closing htaken hname]
              obtain ⟨s, hs, hspans⟩ := ih (fun x hx => hstack x (hleft hx))
                (hnames ▸ more) length
              rw [hs]
              refine ⟨_, rfl, List.forall_mem_cons.2 ⟨?_, hspans⟩⟩
              exact hstack.span htag length

/-- A markup whose tags open and close styles is shown. -/
theorem exists_render {t : Text} (h : Nested [] (tags t)) :
    ∃ shown, render t = .ok shown := by
  have hstack : AreStyles [] := nofun
  obtain ⟨s, hs, hspans⟩ := exists_showPieces hstack h 0
  have hfault : s.fault? = none := by
    unfold Shown.fault?
    refine List.findSome?_eq_none_iff.2 fun span hspan => ?_
    have hmem := (List.mem_filter.1 hspan).1
    rw [List.mem_mergeSort, List.mem_reverse] at hmem
    exact hspans span hmem
  exact ⟨s.text, render_of_ok hs hfault⟩

/-- Tags that open and close styles, the last one first, up to one that closes
a style where none is open. -/
inductive Stray : List Text → List Text → Prop
  | here {name form : Text} {tags : List Text} (style : IsStyle name form) :
      Stray [] ((.scalar '/' :: name) :: tags)
  | opening {name form : Text} {forms tags : List Text}
      (style : IsStyle name form) (more : Stray (form :: forms) tags) :
      Stray forms (name :: tags)
  | closing {name form : Text} {forms tags : List Text}
      (style : IsStyle name form) (more : Stray forms tags) :
      Stray (form :: forms) ((.scalar '/' :: name) :: tags)

theorem exists_showPieces_error {ps : List Piece} {stack : List OpenTag}
    {forms : List Text} (hforms : stack.map (·.name) = forms)
    (h : Stray forms (tagsOf ps)) (length : Nat) :
    ∃ inside, showPieces length stack ps = .error (.nothingToClose inside) := by
  induction ps generalizing stack forms length with
  | nil => exact nomatch (show Stray forms [] from h)
  | cons piece ps ih =>
      cases piece with
      | plain t =>
          obtain ⟨inside, herror⟩ :=
            ih hforms h (length + (shownPlain t).length)
          exact ⟨inside, by rw [showPieces_plain, herror]; rfl⟩
      | tag inside =>
          have htags : tagsOf (.tag inside :: ps) = inside :: tagsOf ps := rfl
          rw [htags] at h
          cases h with
          | here style =>
              rw [List.map_eq_nil_iff.1 hforms]
              exact ⟨_, style.showPieces_stray rfl length ps⟩
          | @opening _ form _ _ style more =>
              rw [style.showPieces_opening]
              refine ih ?_ more length
              rw [List.map_cons, hforms]
          | closing style more =>
              obtain ⟨tag, left, rfl, rfl, hleft⟩ :=
                List.map_eq_cons_iff.1 hforms
              have htaken : takeNamed? tag.name (tag :: left)
                  = some (tag, left) := if_pos rfl
              obtain ⟨inside, herror⟩ := ih hleft more length
              rw [style.showPieces_closing htaken rfl, herror]
              exact ⟨inside, rfl⟩

/-- A markup with a tag that closes nothing is refused. -/
theorem exists_render_error {t : Text} (h : Stray [] (tags t)) :
    ∃ inside, render t = .error (.nothingToClose inside) := by
  obtain ⟨inside, herror⟩ := exists_showPieces_error List.map_nil h 0
  exact ⟨inside, render_of_error herror⟩

end Marginalia.Markup
