/-
The strings of a text, read from left to right. A string begins at the first
quote outside the strings before it, and ends at the next quote that no
backslash escapes; where there is none it goes to the end of the text.
`Segmented` says this without a walk, and a text has one reading only
(`Segmented.unique`).

A text that is cut at its commas is cut at those that lie outside every string
and at no others (`cutAt_iff`), and the pieces joined with commas are the text
again (`joinWith_commaPieces`).
-/
import Marginalia.Proofs.Text.Spans

namespace Marginalia.Text

-- ============================================================== strings

/-- What may stand between the quotes of a string: a backslash takes the code
point behind it with it, whatever that is. -/
inductive StringInside : Text → Prop
  | nil : StringInside []
  | plain {c : CodePoint} {t : Text} (quote : c ≠ .scalar '"')
      (slash : c ≠ .scalar '\\') (rest : StringInside t) :
      StringInside (c :: t)
  | escape {c : CodePoint} {t : Text} (rest : StringInside t) :
      StringInside (.scalar '\\' :: c :: t)

/-- A string, or a code point that belongs to none. -/
inductive Segment where
  | plain (c : CodePoint)
  | string (t : Text)

/-- The text of a segment. -/
def Segment.text : Segment → Text
  | .plain c => [c]
  | .string t => t

/-- The text is read as segments from left to right. A string is complete, or
no quote ends it and it goes to the end of the text. -/
inductive Segmented : Text → List Segment → Prop
  | nil : Segmented [] []
  | plain {c : CodePoint} {t : Text} {segments : List Segment}
      (quote : c ≠ .scalar '"') (rest : Segmented t segments) :
      Segmented (c :: t) (.plain c :: segments)
  | complete {inside t : Text} {segments : List Segment}
      (inside_spec : StringInside inside) (rest : Segmented t segments) :
      Segmented (.scalar '"' :: (inside ++ .scalar '"' :: t))
        (.string (.scalar '"' :: (inside ++ [.scalar '"'])) :: segments)
  | unterminated {t : Text}
      (never : ∀ inside rest, StringInside inside →
        t ≠ inside ++ .scalar '"' :: rest) :
      Segmented (.scalar '"' :: t) [.string (.scalar '"' :: t)]

/-- The comma between two parts of a text lies outside every string. -/
def CommaOutside (segments : List Segment) (u v : Text) : Prop :=
  ∃ before after,
    segments = before ++ .plain (.scalar ',') :: after
      ∧ before.flatMap Segment.text = u ∧ after.flatMap Segment.text = v

/-- The pieces are cut apart between two parts of the text that they make when
they are joined with commas. -/
def CutAt (pieces : List Text) (u v : Text) : Prop :=
  ∃ first second, first ≠ [] ∧ second ≠ [] ∧ pieces = first ++ second
    ∧ joinWith "," first = u ∧ joinWith "," second = v

-- ============================================================== insides

theorem StringInside.inner {t : Text} (h : StringInside t) : Inner t := by
  induction h with
  | nil => exact .nil
  | plain quote slash _ ih => exact (Inner.plain quote slash).append ih
  | escape _ ih => exact (Inner.escape _).append ih

/-- Text in which a walk that is inside a string stays there may stand between
quotes. -/
theorem Inner.stringInside {t : Text} (h : Inner t) : StringInside t := by
  -- an escape takes two code points, so the induction is on the length
  induction hn : t.length using Nat.strongRecOn generalizing t with
  | ind n ih =>
      cases t with
      | nil => exact .nil
      | cons c t =>
          rw [List.length_cons] at hn
          obtain ⟨hafter, hbare⟩ := h
          by_cases hslash : c = .scalar '\\'
          · subst hslash
            cases t with
            | nil => cases hafter
            | cons d t =>
                rw [List.length_cons] at hn
                exact .escape (ih t.length (by omega) ⟨hafter, hbare⟩ rfl)
          · by_cases hquote : c = .scalar '"'
            · subst hquote
              cases t with
              | nil => cases hafter
              | cons d t => cases hbare
            · have hstep : Quoting.inside.step c = .inside := by
                rw [Quoting.step, if_neg hslash, if_neg hquote]
              rw [Quoting.after_cons, hstep] at hafter
              rw [Quoting.bare, if_neg (by decide), hstep] at hbare
              exact .plain hquote hslash
                (ih t.length (by omega) ⟨hafter, hbare⟩ rfl)

/-- A string ends in one place. -/
theorem StringInside.unique {s s' t t' : Text} (h : StringInside s)
    (h' : StringInside s')
    (heq : s ++ .scalar '"' :: t = s' ++ .scalar '"' :: t') :
    s = s' ∧ t = t' := by
  have hclose := h.inner.closingQuote t
  rw [heq, h'.inner.closingQuote t'] at hclose
  have hlength : s'.length + 1 = s.length + 1 := Option.some.inj hclose
  obtain ⟨rfl, htail⟩ := List.append_inj heq (by omega)
  exact ⟨rfl, (List.cons.inj htail).2⟩

-- ============================================================= segments

namespace Segmented

variable {t : Text} {segments : List Segment}

/-- The segments make up the text. -/
theorem flatMap_text (h : Segmented t segments) :
    segments.flatMap Segment.text = t := by
  induction h with
  | nil => rfl
  | plain _ _ ih =>
      rw [List.flatMap_cons, ih]
      rfl
  | complete _ _ ih =>
      rw [List.flatMap_cons, ih]
      simp [Segment.text]
  | unterminated _ => simp [Segment.text]

/-- A text is read as segments in one way. -/
theorem unique {other : List Segment} (h : Segmented t segments)
    (h' : Segmented t other) : segments = other := by
  induction h generalizing other with
  | nil =>
      cases h'
      rfl
  | plain quote _ ih =>
      cases h' with
      | plain _ rest => rw [ih rest]
      | complete _ _ => exact absurd rfl quote
      | unterminated _ => exact absurd rfl quote
  | @complete inside t segments inside_spec rest ih =>
      generalize htail : inside ++ .scalar '"' :: t = tail at h'
      cases h' with
      | plain quote _ => exact absurd rfl quote
      | complete inside_spec' rest' =>
          obtain ⟨rfl, rfl⟩ := inside_spec.unique inside_spec' htail
          rw [ih rest']
      | unterminated never =>
          exact absurd htail.symm (never _ _ inside_spec)
  | @unterminated t never =>
      cases h' with
      | plain quote _ => exact absurd rfl quote
      | complete inside_spec' _ => exact absurd rfl (never _ _ inside_spec')
      | unterminated _ => rfl

/-- Every text is read as segments. -/
theorem exists_segmented (t : Text) : ∃ segments, Segmented t segments := by
  induction hn : t.length using Nat.strongRecOn generalizing t with
  | ind n ih =>
      cases t with
      | nil => exact ⟨_, .nil⟩
      | cons c t =>
          rw [List.length_cons] at hn
          by_cases hc : c = .scalar '"'
          · subst hc
            by_cases hclosed : ∃ inside rest, StringInside inside
                ∧ t = inside ++ .scalar '"' :: rest
            · obtain ⟨inside, rest, hinside, rfl⟩ := hclosed
              rw [List.length_append, List.length_cons] at hn
              obtain ⟨segments, hrest⟩ := ih rest.length (by omega) rest rfl
              exact ⟨_, .complete hinside hrest⟩
            · refine ⟨_, .unterminated fun inside rest hinside heq => ?_⟩
              exact hclosed ⟨inside, rest, hinside, heq⟩
          · obtain ⟨segments, hrest⟩ := ih t.length (by omega) t rfl
            exact ⟨_, .plain hc hrest⟩

/-- In front of a code point that belongs to no string a walk is outside. -/
theorem after_before {before after : List Segment} {c : CodePoint}
    (h : Segmented t (before ++ .plain c :: after)) :
    Quoting.outside.after (before.flatMap Segment.text) = .outside := by
  generalize hsegments : before ++ .plain c :: after = segments at h
  induction h generalizing before with
  | nil => simp at hsegments
  | @plain d t segments quote _ ih =>
      cases before with
      | nil => rfl
      | cons first before =>
          obtain ⟨rfl, hrest⟩ := List.cons.inj hsegments
          have hstep : Quoting.outside.step d = .outside := if_neg quote
          rw [List.flatMap_cons, Quoting.after_append]
          show ((Quoting.outside.step d).after _) = _
          rw [hstep]
          exact ih hrest
  | complete inside_spec _ ih =>
      cases before with
      | nil => cases hsegments
      | cons first before =>
          obtain ⟨rfl, hrest⟩ := List.cons.inj hsegments
          rw [List.flatMap_cons, Quoting.after_append]
          show ((Quoting.outside.after (.scalar '"' :: _)).after _) = _
          rw [inside_spec.inner.after_quoted]
          exact ih hrest
  | unterminated _ =>
      cases before with
      | nil => cases hsegments
      | cons first before =>
          have hrest := (List.cons.inj hsegments).2
          simp at hrest

/-- Text behind which a walk is outside is read by itself, whatever
follows. -/
theorem append {u v : Text} {before after : List Segment}
    (h : Segmented u before) (hclosed : Quoting.outside.after u = .outside)
    (hv : Segmented v after) : Segmented (u ++ v) (before ++ after) := by
  induction h with
  | nil => exact hv
  | @plain c t segments quote _ ih =>
      have hstep : Quoting.outside.step c = .outside := if_neg quote
      rw [Quoting.after_cons, hstep] at hclosed
      exact .plain quote (ih hclosed)
  | @complete inside t segments inside_spec _ ih =>
      change Quoting.inside.after (inside ++ .scalar '"' :: t) = _ at hclosed
      rw [Quoting.after_append, inside_spec.inner.after] at hclosed
      rw [List.cons_append, List.append_assoc, List.cons_append]
      exact .complete inside_spec (ih hclosed)
  | @unterminated t never =>
      -- the walk came out of the string, so a quote ended it
      change Quoting.inside.after t = _ at hclosed
      cases hclose : closingQuote .inside t with
      | none =>
          have hnever := (closingQuote_eq_none_iff (by decide)).1 hclose
          exact absurd hclosed (hnever t (List.prefix_refl _))
      | some n =>
          obtain ⟨inside, rest, ht, hafter, hbare, -⟩ :=
            (closingQuote_eq_some_iff (by decide)).1 hclose
          have hinner : Inner inside := ⟨hafter, hbare⟩
          exact absurd ht (never _ _ hinner.stringInside)

/-- A comma lies outside every string just when a walk is outside in front of
it. -/
theorem commaOutside_iff {u v : Text}
    (h : Segmented (u ++ .scalar ',' :: v) segments) :
    CommaOutside segments u v ↔ Quoting.outside.after u = .outside := by
  constructor
  · rintro ⟨before, after, rfl, rfl, -⟩
    exact h.after_before
  · intro hafter
    obtain ⟨before, hu⟩ := exists_segmented u
    obtain ⟨after, hv⟩ := exists_segmented v
    have hcomma : Segmented (.scalar ',' :: v)
        (.plain (.scalar ',') :: after) := .plain (by decide) hv
    exact ⟨before, after, h.unique (hu.append hafter hcomma), hu.flatMap_text,
      hv.flatMap_text⟩

end Segmented

-- =============================================================== pieces

/-- The first piece goes on, or the text is cut at its first point. -/
theorem commaPiecesFrom_cons (q : Quoting) (c : CodePoint) (t : Text) :
    (q = .outside ∧ c = .scalar ','
        ∧ commaPiecesFrom q (c :: t) = [] :: commaPiecesFrom .outside t)
      ∨ ∃ piece pieces, commaPiecesFrom (q.step c) t = piece :: pieces
        ∧ commaPiecesFrom q (c :: t) = (c :: piece) :: pieces := by
  rw [commaPiecesFrom]
  by_cases hc : q = .outside ∧ c = .scalar ','
  · rw [if_pos hc]
    exact .inl ⟨hc.1, hc.2, rfl⟩
  · rw [if_neg hc]
    cases hpieces : commaPiecesFrom (q.step c) t with
    | nil => exact absurd hpieces (commaPiecesFrom_ne_nil _ _)
    | cons piece pieces => exact .inr ⟨piece, pieces, rfl, rfl⟩

theorem joinWith_cons_head (separator : Text) (c : CodePoint) (t : Text)
    (ts : List Text) :
    joinWith separator ((c :: t) :: ts)
      = c :: joinWith separator (t :: ts) := by
  cases ts with
  | nil => rfl
  | cons u ts =>
      rw [joinWith_cons_cons, joinWith_cons_cons]
      rfl

theorem joinWith_commaPiecesFrom (q : Quoting) (t : Text) :
    joinWith "," (commaPiecesFrom q t) = t := by
  induction t generalizing q with
  | nil => rfl
  | cons c t ih =>
      rcases commaPiecesFrom_cons q c t with
        ⟨rfl, rfl, heq⟩ | ⟨piece, pieces, hpieces, heq⟩
      · have hrest := ih .outside
        rw [heq]
        cases hpieces : commaPiecesFrom .outside t with
        | nil => exact absurd hpieces (commaPiecesFrom_ne_nil _ _)
        | cons piece pieces =>
            rw [hpieces] at hrest
            rw [joinWith_cons_cons, hrest]
            rfl
      · have hrest := ih (q.step c)
        rw [hpieces] at hrest
        rw [heq, joinWith_cons_head, hrest]

/-- No part of a text is lost when it is cut. -/
theorem joinWith_commaPieces (t : Text) : joinWith "," t.commaPieces = t :=
  joinWith_commaPiecesFrom .outside t

/-- Where a text is cut, a walk is outside. -/
theorem after_joinWith {q : Quoting} {t : Text} {first second : List Text}
    (h : commaPiecesFrom q t = first ++ second) (hfirst : first ≠ [])
    (hsecond : second ≠ []) : q.after (joinWith "," first) = .outside := by
  obtain ⟨head, first, rfl⟩ := List.exists_cons_of_ne_nil hfirst
  induction t generalizing q head first with
  | nil =>
      obtain ⟨-, hrest⟩ := List.cons.inj h
      exact absurd (List.append_eq_nil_iff.1 hrest.symm).2 hsecond
  | cons c t ih =>
      rcases commaPiecesFrom_cons q c t with
        ⟨rfl, rfl, heq⟩ | ⟨piece, pieces, hpieces, heq⟩
      · rw [heq] at h
        obtain ⟨rfl, hrest⟩ := List.cons.inj h
        cases first with
        | nil => rfl
        | cons next first =>
            rw [joinWith_cons_cons]
            exact ih next first hrest (List.cons_ne_nil _ _)
      · rw [heq] at h
        obtain ⟨rfl, hrest⟩ := List.cons.inj h
        rw [joinWith_cons_head, Quoting.after_cons]
        refine ih piece first ?_ (List.cons_ne_nil _ _)
        rw [hpieces, hrest]
        rfl

/-- A text is cut at a comma just when the comma lies outside every string. -/
theorem cutAt_iff {u v : Text} {segments : List Segment}
    (h : Segmented (u ++ .scalar ',' :: v) segments) :
    CutAt (commaPieces (u ++ .scalar ',' :: v)) u v
      ↔ CommaOutside segments u v := by
  rw [h.commaOutside_iff]
  constructor
  · rintro ⟨first, second, hfirst, hsecond, hpieces, rfl, -⟩
    exact after_joinWith hpieces hfirst hsecond
  · intro hafter
    refine ⟨u.commaPieces, v.commaPieces, commaPiecesFrom_ne_nil _ _,
      commaPiecesFrom_ne_nil _ _, commaPiecesFrom_append hafter v,
      joinWith_commaPieces u, joinWith_commaPieces v⟩

end Marginalia.Text
