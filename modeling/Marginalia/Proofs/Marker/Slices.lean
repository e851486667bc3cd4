/-
The slices of a marker line. An inline or begin marker, once it is trimmed,
is cut into ten slices in order: what it begins with, a value, a tag list, a
block and another tag list, with white space before each of these four, and
what is left of the line. Nothing stands between the slices and none overlaps
another, so no code point is used twice and none is lost; and every piece of
the marker is a slice, or the inside of one.

`Layout` says where each slice ends and when one is empty. It leaves no
choice: a marker has the pieces that its layout says and no others
(`pieces_are_slices`).
-/
import Marginalia.Proofs.Marker.Grammar
import Marginalia.Proofs.Text.Spans

namespace Marginalia.Marker

-- ========================================================= white space

/-- White space up to something that is none, or to the end. -/
structure Skips (s rest : Text) : Prop where
  blank : s.isBlank = true
  stops : ∀ c ∈ rest.head?, c.isBlank = false

theorem trimLeft_eq_iff {t rest : Text} :
    t.trimLeft = rest ↔ ∃ s, t = s ++ rest ∧ Skips s rest := by
  constructor
  · rintro rfl
    obtain ⟨s, hs, ht⟩ := Text.exists_trimLeft t
    refine ⟨s, ht, hs, fun c hc => ?_⟩
    have hstop := List.head?_dropWhile_not (fun c : CodePoint => c.isBlank) t
    unfold Text.trimLeft at hc
    rw [Option.mem_def.1 hc] at hstop
    exact hstop
  · rintro ⟨s, rfl, hs⟩
    exact Text.dropWhile_run (List.all_eq_true.1 hs.blank) hs.stops

-- =========================================================== tag lists

/-- What a tag list begins with, up to its bracket. -/
def ListOpening (t : Text) : Prop :=
  ∃ s s', Text.isBlank s = true ∧ Text.isBlank s' = true
    ∧ t = "tags" ++ (s ++ ("=" ++ (s' ++ "[")))

/-- A tag list begins here. -/
def AtList (t : Text) : Prop :=
  ∃ opening body, ListOpening opening ∧ t = opening ++ body

theorem after?_eq_some_iff {pattern t rest : Text} :
    after? pattern t = some rest ↔ t = pattern ++ rest := by
  unfold after? Text.startsWith
  constructor
  · intro h
    split at h
    · next hstart =>
      obtain ⟨u, rfl⟩ := List.isPrefixOf_iff_prefix.1 hstart
      cases h
      rw [List.drop_left]
    · cases h
  · rintro rfl
    rw [if_pos (List.isPrefixOf_iff_prefix.2 (List.prefix_append ..)),
      List.drop_left]

theorem tagList?_eq_some_iff {t body : Text} :
    tagList? t = some body
      ↔ ∃ opening, ListOpening opening ∧ t = opening ++ body := by
  unfold tagList?
  constructor
  · intro h
    obtain ⟨t₂, h₂, h₃⟩ := Option.bind_eq_some_iff.1 h
    obtain ⟨t₁, h₁, h₂⟩ := Option.bind_eq_some_iff.1 h₂
    rw [after?_eq_some_iff] at h₁ h₂ h₃
    obtain ⟨s, hs, hs₁⟩ := Text.exists_trimLeft t₁
    obtain ⟨s', hs', hs₂⟩ := Text.exists_trimLeft t₂
    rw [h₂] at hs₁
    rw [h₃] at hs₂
    refine ⟨_, ⟨s, s', hs, hs', rfl⟩, ?_⟩
    rw [h₁, hs₁, hs₂]
    simp only [List.append_assoc]
  · rintro ⟨opening, ⟨s, s', hs, hs', rfl⟩, rfl⟩
    have hequals : Text.StartsVisible "=" := ⟨_, [], rfl, by decide⟩
    have hbracket : Text.StartsVisible "[" := ⟨_, [], rfl, by decide⟩
    simp only [List.append_assoc]
    rw [after?_eq_some_iff.2 rfl, Option.bind_some,
      Text.trimLeft_blank_visible hs (hequals.append _),
      after?_eq_some_iff.2 rfl, Option.bind_some,
      Text.trimLeft_blank_visible hs' (hbracket.append _),
      after?_eq_some_iff.2 rfl]

theorem atList_iff {t : Text} : AtList t ↔ (tagList? t).isSome = true := by
  rw [Option.isSome_iff_exists]
  constructor
  · rintro ⟨opening, body, hopening, rfl⟩
    exact ⟨body, tagList?_eq_some_iff.2 ⟨opening, hopening, rfl⟩⟩
  · rintro ⟨body, hbody⟩
    obtain ⟨opening, hopening, rfl⟩ := tagList?_eq_some_iff.1 hbody
    exact ⟨opening, body, hopening, rfl⟩

theorem AtList.head? {t : Text} (h : AtList t) :
    t.head? = some (.scalar 't') := by
  obtain ⟨opening, body, ⟨s, s', -, -, rfl⟩, rfl⟩ := h
  rfl

/-- The slice of a tag list and its inside, before the rest of a line. A list
goes up to the first closing bracket outside strings, or to the end of the
line when there is none. -/
inductive ListSlice : Option Text → Text → Text → Prop
  | absent {rest : Text} (notHere : ¬ AtList rest) : ListSlice none [] rest
  | closed {opening inside rest : Text} (opens : ListOpening opening)
      (after : Quoting.outside.after inside = .outside)
      (bare : .scalar ']' ∉ Quoting.outside.bare inside) :
      ListSlice (some inside) (opening ++ (inside ++ "]")) rest
  | unclosed {opening inside : Text} (opens : ListOpening opening)
      (bare : .scalar ']' ∉ Quoting.outside.bare inside) :
      ListSlice (some inside) (opening ++ inside) []

theorem readTags_eq_iff {t rest : Text} {inside : Option Text} :
    readTags t = (inside, rest)
      ↔ ∃ slice, t = slice ++ rest ∧ ListSlice inside slice rest := by
  constructor
  · intro h
    unfold readTags at h
    split at h
    · next hnone =>
      cases h
      refine ⟨[], rfl, .absent fun hat => ?_⟩
      rw [atList_iff, hnone] at hat
      cases hat
    · next body hbody =>
      obtain ⟨opening, hopening, rfl⟩ := tagList?_eq_some_iff.1 hbody
      split at h
      · next hspan =>
        cases h
        exact ⟨_, (List.append_nil _).symm,
          .unclosed hopening (Text.bracketSpanFrom_eq_none_iff.1 hspan)⟩
      · next n hspan =>
        obtain ⟨u, rest', rfl, hafter, hbare, rfl⟩ :=
          Text.bracketSpanFrom_eq_some_iff.1 hspan
        rw [Nat.add_sub_cancel, List.take_left, ← List.drop_drop,
          List.drop_left] at h
        cases h
        refine ⟨_, ?_, .closed hopening hafter hbare⟩
        simp only [List.append_assoc]
        rfl
  · rintro ⟨slice, rfl, hslice⟩
    unfold readTags
    cases hslice with
    | absent hnot =>
        rw [atList_iff, Option.not_isSome_iff_eq_none] at hnot
        rw [List.nil_append, hnot]
    | @closed opening inside _ hopening hafter hbare =>
        have hlist : tagList? (opening ++ (inside ++ "]") ++ rest)
            = some (inside ++ .scalar ']' :: rest) := by
          refine tagList?_eq_some_iff.2 ⟨opening, hopening, ?_⟩
          simp only [List.append_assoc]
          rfl
        rw [hlist]
        dsimp only
        rw [Text.bracketSpanFrom_of_bare hafter hbare]
        dsimp only
        rw [Nat.add_sub_cancel, List.take_left, ← List.drop_drop,
          List.drop_left]
        rfl
    | @unclosed opening inside hopening hbare =>
        rw [List.append_nil,
          tagList?_eq_some_iff.2 ⟨opening, hopening, rfl⟩]
        dsimp only
        rw [Text.bracketSpanFrom_eq_none_iff.2 hbare]

-- ============================================================== values

/-- The slice of a value before the rest of a line: a string up to its
closing quote, or to the end of the line when it is never closed, or a run of
visible code points up to an opening brace. There is none at the end of the
line, before a block, and before a tag list. -/
inductive ValueSlice : Option Text → Text → Text → Prop
  | absent {rest : Text}
      (here : rest = [] ∨ rest.head? = some (.scalar '\x7b') ∨ AtList rest) :
      ValueSlice none [] rest
  | quoted {inside rest : Text} (inner : inside.Inner) :
      ValueSlice (some (.scalar '"' :: (inside ++ [.scalar '"'])))
        (.scalar '"' :: (inside ++ [.scalar '"'])) rest
  | unclosed {inside : Text}
      (never : ∀ u, u <+: inside → Quoting.inside.after u ≠ .outside) :
      ValueSlice (some (.scalar '"' :: inside)) (.scalar '"' :: inside) []
  | word {word rest : Text} (ne : word ≠ [])
      (points : ∀ c ∈ word, c.isBlank = false ∧ c ≠ .scalar '\x7b')
      (noQuote : word.head? ≠ some (.scalar '"'))
      (noList : ¬ AtList (word ++ rest))
      (stops : ∀ c ∈ rest.head?, c.isBlank = true ∨ c = .scalar '\x7b') :
      ValueSlice (some word) word rest

theorem continuesValue_iff {c : CodePoint} :
    continuesValue c = true ↔ c.isBlank = false ∧ c ≠ .scalar '\x7b' := by
  simp [continuesValue]

theorem readValue_absent {t : Text}
    (h : t = [] ∨ t.head? = some (.scalar '\x7b') ∨ AtList t) :
    readValue t = (none, t) := by
  cases t with
  | nil => rfl
  | cons c t =>
      rcases h with h | h | h
      · cases h
      · cases h
        rfl
      · rw [atList_iff] at h
        unfold readValue
        dsimp only
        rw [if_pos (by simp [h])]

/-- A text begins with a value unless a block or a tag list begins there. -/
theorem readValue_cons {c : CodePoint} {t : Text} (hbrace : c ≠ .scalar '\x7b')
    (hlist : ¬ AtList (c :: t)) :
    readValue (c :: t)
      = if c = .scalar '"' then
          match Text.stringSpan (c :: t) with
          | none => (some (c :: t), [])
          | some n => (some ((c :: t).take n), (c :: t).drop n)
        else (some ((c :: t).takeWhile continuesValue),
          (c :: t).dropWhile continuesValue) := by
  rw [atList_iff, Bool.not_eq_true] at hlist
  unfold readValue
  dsimp only
  exact if_neg (by simp [hbrace, hlist])

theorem not_atList_quote (t : Text) : ¬ AtList (.scalar '"' :: t) := by
  intro h
  have hhead := h.head?
  cases hhead

/-- A value between quotes is read up to its closing quote. -/
theorem readValue_quoted {inside : Text} (h : inside.Inner) (rest : Text) :
    readValue (.scalar '"' :: (inside ++ .scalar '"' :: rest))
      = (some (.scalar '"' :: (inside ++ [.scalar '"'])), rest) := by
  have hparts : .scalar '"' :: (inside ++ .scalar '"' :: rest)
      = (.scalar '"' :: (inside ++ [.scalar '"'])) ++ rest := by
    simp only [List.cons_append, List.append_assoc, List.nil_append]
  have hlength : inside.length + 2
      = (CodePoint.scalar '"' :: (inside ++ [.scalar '"'])).length := by
    simp
  rw [readValue_cons (by decide) (not_atList_quote _), if_pos rfl,
    h.stringSpan]
  dsimp only
  rw [hparts, hlength, List.take_left, List.drop_left]

/-- A string that is never closed takes all there is. -/
theorem readValue_unclosed {inside : Text}
    (h : ∀ u, u <+: inside → Quoting.inside.after u ≠ .outside) :
    readValue (.scalar '"' :: inside) = (some (.scalar '"' :: inside), []) := by
  rw [readValue_cons (by decide) (not_atList_quote _), if_pos rfl,
    Text.stringSpan, (Text.closingQuote_eq_none_iff (by decide)).2 h]
  rfl

/-- A value without quotes is read up to white space or a block. -/
theorem readValue_word {word rest : Text} (hne : word ≠ [])
    (hpoints : ∀ c ∈ word, c.isBlank = false ∧ c ≠ .scalar '\x7b')
    (hquote : word.head? ≠ some (.scalar '"'))
    (hlist : ¬ AtList (word ++ rest))
    (hstops : ∀ c ∈ rest.head?, c.isBlank = true ∨ c = .scalar '\x7b') :
    readValue (word ++ rest) = (some word, rest) := by
  have hrun : ∀ c ∈ word, continuesValue c = true := fun c hc =>
    continuesValue_iff.2 (hpoints c hc)
  have hstop : ∀ c ∈ rest.head?, continuesValue c = false := by
    intro c hc
    rcases hstops c hc with h | h <;> simp [continuesValue, h]
  have htaken := Text.takeWhile_run hrun hstop
  have hleft := Text.dropWhile_run hrun hstop
  cases word with
  | nil => exact absurd rfl hne
  | cons c t =>
      have hbrace := (hpoints c (List.mem_cons_self ..)).2
      rw [List.cons_append] at hlist htaken hleft ⊢
      rw [readValue_cons hbrace hlist,
        if_neg fun h => hquote (congrArg some h), htaken, hleft]

/-- What is read of a text that does not begin with white space. -/
theorem readValue_eq_iff {t rest : Text} {value : Option Text}
    (hstart : ∀ c ∈ t.head?, c.isBlank = false) :
    readValue t = (value, rest)
      ↔ ∃ slice, t = slice ++ rest ∧ ValueSlice value slice rest := by
  constructor
  · intro h
    by_cases habsent : t = [] ∨ t.head? = some (.scalar '\x7b') ∨ AtList t
    · rw [readValue_absent habsent] at h
      cases h
      exact ⟨[], rfl, .absent habsent⟩
    · simp only [not_or] at habsent
      obtain ⟨hne, hbrace, hlist⟩ := habsent
      obtain ⟨c, t, rfl⟩ := List.exists_cons_of_ne_nil hne
      by_cases hquote : c = .scalar '"'
      · subst hquote
        cases hclose : Text.closingQuote .inside t with
        | none =>
            have hnever := (Text.closingQuote_eq_none_iff (by decide)).1 hclose
            have hread := readValue_unclosed hnever
            cases h.symm.trans hread
            exact ⟨_, (List.append_nil _).symm, .unclosed hnever⟩
        | some n =>
            obtain ⟨u, after, rfl, hafter, hbare, -⟩ :=
              (Text.closingQuote_eq_some_iff (by decide)).1 hclose
            have hinner : u.Inner := ⟨hafter, hbare⟩
            cases h.symm.trans (readValue_quoted hinner after)
            refine ⟨_, ?_, .quoted hinner⟩
            simp only [List.cons_append, List.append_assoc, List.nil_append]
      · have hc : continuesValue c = true :=
          continuesValue_iff.2 ⟨hstart c rfl, fun h => hbrace (congrArg some h)⟩
        rw [readValue_cons (continuesValue_iff.1 hc).2 hlist, if_neg hquote] at h
        cases h
        refine ⟨_, List.takeWhile_append_dropWhile.symm,
          .word ?_ (fun x hx => ?_) ?_ ?_ fun x hx => ?_⟩
        · rw [List.takeWhile_cons_of_pos hc]
          exact List.cons_ne_nil _ _
        · exact continuesValue_iff.1
            (List.all_eq_true.1 List.all_takeWhile x hx)
        · rw [List.takeWhile_cons_of_pos hc]
          exact fun h => hquote (Option.some.inj h)
        · rwa [List.takeWhile_append_dropWhile]
        · have hstop := List.head?_dropWhile_not continuesValue (c :: t)
          rw [Option.mem_def.1 hx] at hstop
          by_cases hblank : x.isBlank = true
          · exact .inl hblank
          · right
            simpa [continuesValue, hblank] using hstop
  · rintro ⟨slice, rfl, hslice⟩
    cases hslice with
    | absent here => exact readValue_absent here
    | quoted inner =>
        rw [List.cons_append, List.append_assoc]
        exact readValue_quoted inner rest
    | unclosed never =>
        rw [List.append_nil]
        exact readValue_unclosed never
    | word ne points noQuote noList stops =>
        exact readValue_word ne points noQuote noList stops

-- ============================================================== blocks

/-- Text between the braces of a block: its strings are closed and its braces
match. -/
structure Matched (t : Text) : Prop where
  after : Quoting.outside.after t = .outside
  balance : Quoting.outside.braces t = 0
  opened : ∀ u, u <+: t → 0 ≤ Quoting.outside.braces u

/-- The slice of a block before the rest of a line. A block goes up to the
brace that matches its first one, or to the end of the line when there is
none. -/
inductive BlockSlice : Option Text → Text → Text → Prop
  | absent {rest : Text} (notHere : rest.head? ≠ some (.scalar '\x7b')) :
      BlockSlice none [] rest
  | balanced {inside rest : Text} (matched : Matched inside) :
      BlockSlice (some (.scalar '\x7b' :: (inside ++ [.scalar '\x7d'])))
        (.scalar '\x7b' :: (inside ++ [.scalar '\x7d'])) rest
  | unclosed {inside : Text}
      (never : ∀ u, u <+: inside → 0 ≤ Quoting.outside.braces u) :
      BlockSlice (some (.scalar '\x7b' :: inside)) (.scalar '\x7b' :: inside) []

theorem readBlock_absent {t : Text} (h : t.head? ≠ some (.scalar '\x7b')) :
    readBlock t = (none, t) := by
  unfold readBlock
  split
  · exact absurd rfl h
  · rfl

theorem readBlock_open (t : Text) :
    readBlock (.scalar '\x7b' :: t)
      = match Text.braceSpanFrom .outside 1 t with
        | none => (some (.scalar '\x7b' :: t), [])
        | some n => (some (.scalar '\x7b' :: t.take n), t.drop n) := by
  unfold readBlock
  rw [Text.braceSpan, Text.braceSpanFrom_open, Int.zero_add]
  cases Text.braceSpanFrom .outside 1 t <;> rfl

/-- A block is read up to the brace that matches its first one. -/
theorem readBlock_balanced {inside : Text} (h : Matched inside) (rest : Text) :
    readBlock (.scalar '\x7b' :: (inside ++ .scalar '\x7d' :: rest))
      = (some (.scalar '\x7b' :: (inside ++ [.scalar '\x7d'])), rest) := by
  have hspan : Text.braceSpanFrom .outside 1 (inside ++ .scalar '\x7d' :: rest)
      = some (inside.length + 1) := by
    refine (Text.braceSpanFrom_eq_some_iff (by decide)).2
      ⟨inside, rest, rfl, h.after, by rw [h.balance]; rfl, fun u hu => ?_, rfl⟩
    have hopened := h.opened u hu
    omega
  have hparts : inside ++ .scalar '\x7d' :: rest
      = (inside ++ [.scalar '\x7d']) ++ rest := by
    rw [List.append_assoc]
    rfl
  have hlength : inside.length + 1
      = (inside ++ [CodePoint.scalar '\x7d']).length := by
    simp
  rw [readBlock_open, hspan]
  dsimp only
  rw [hparts, hlength, List.take_left, List.drop_left]

/-- A block whose first brace nothing matches takes all there is. -/
theorem readBlock_unclosed {inside : Text}
    (h : ∀ u, u <+: inside → 0 ≤ Quoting.outside.braces u) :
    readBlock (.scalar '\x7b' :: inside)
      = (some (.scalar '\x7b' :: inside), []) := by
  have hspan : Text.braceSpanFrom .outside 1 inside = none := by
    refine (Text.braceSpanFrom_eq_none_iff (by decide)).2 fun u hu => ?_
    have hopened := h u hu
    omega
  rw [readBlock_open, hspan]

theorem readBlock_eq_iff {t rest : Text} {block : Option Text} :
    readBlock t = (block, rest)
      ↔ ∃ slice, t = slice ++ rest ∧ BlockSlice block slice rest := by
  constructor
  · intro h
    by_cases hopen : t.head? = some (.scalar '\x7b')
    · obtain ⟨t, rfl⟩ := List.head?_eq_some_iff.1 hopen
      cases hclose : Text.braceSpanFrom .outside 1 t with
      | none =>
          have hnever : ∀ u, u <+: t → 0 ≤ Quoting.outside.braces u := by
            intro u hu
            have hopened :=
              (Text.braceSpanFrom_eq_none_iff (by decide)).1 hclose u hu
            omega
          cases h.symm.trans (readBlock_unclosed hnever)
          exact ⟨_, (List.append_nil _).symm, .unclosed hnever⟩
      | some n =>
          obtain ⟨u, after, rfl, hafter, hbalance, hopened, -⟩ :=
            (Text.braceSpanFrom_eq_some_iff (by decide)).1 hclose
          have hmatched : Matched u := by
            refine ⟨hafter, by omega, fun w hw => ?_⟩
            have hw' := hopened w hw
            omega
          cases h.symm.trans (readBlock_balanced hmatched after)
          refine ⟨_, ?_, .balanced hmatched⟩
          simp only [List.cons_append, List.append_assoc, List.nil_append]
    · rw [readBlock_absent hopen] at h
      cases h
      exact ⟨[], rfl, .absent hopen⟩
  · rintro ⟨slice, rfl, hslice⟩
    cases hslice with
    | absent notHere => exact readBlock_absent notHere
    | balanced matched =>
        rw [List.cons_append, List.append_assoc]
        exact readBlock_balanced matched rest
    | unclosed never =>
        rw [List.append_nil]
        exact readBlock_unclosed never

-- =============================================================== layout

/-- A marker line in ten slices, in order. -/
structure Slices where
  head : Text
  beforeValue : Text
  value : Text
  beforeList : Text
  list : Text
  beforeBlock : Text
  block : Text
  beforeMore : Text
  more : Text
  tail : Text

namespace Slices

def afterBlock (s : Slices) : Text := s.beforeMore ++ (s.more ++ s.tail)

def afterList (s : Slices) : Text := s.beforeBlock ++ (s.block ++ s.afterBlock)

def afterValue (s : Slices) : Text := s.beforeList ++ (s.list ++ s.afterList)

/-- What stands behind the head. -/
def body (s : Slices) : Text := s.beforeValue ++ (s.value ++ s.afterValue)

/-- The line that the slices make up. -/
def whole (s : Slices) : Text := s.head ++ s.body

end Slices

/-- The insides of the tag lists of a marker as one: that of a single list as
it is, and of several those that are not blank, with commas between. -/
def joinInsides : List Text → Option Text
  | [] => none
  | [inside] => some inside
  | insides => some (Text.joinWith "," (insides.filter fun t => !t.isBlank))

/-- What a marker other than an end marker has in its slices. Each slice is
what it should be before those that follow it. -/
structure Layout (s : Slices) (p : Pieces) (first second : Option Text) :
    Prop where
  notEnd : p.kind ≠ .blockEnd
  head : Head p.kind p.key s.head
  endsKey : endsKey s.body = true
  beforeValue : Skips s.beforeValue (s.value ++ s.afterValue)
  value : ValueSlice p.value s.value s.afterValue
  beforeList : Skips s.beforeList (s.list ++ s.afterList)
  list : ListSlice first s.list s.afterList
  beforeBlock : Skips s.beforeBlock (s.block ++ s.afterBlock)
  block : BlockSlice p.properties s.block s.afterBlock
  beforeMore : Skips s.beforeMore (s.more ++ s.tail)
  more : ListSlice second s.more s.tail
  tags : p.tags = joinInsides (first.toList ++ second.toList)

theorem joinTags_eq (inside more : Option Text) :
    joinTags inside more = joinInsides (inside.toList ++ more.toList) := by
  cases inside <;> cases more <;> rfl

/-- A slice that is read behind white space. -/
theorem read_trimLeft_iff {read : Text → Option Text × Text}
    {Slice : Option Text → Text → Text → Prop}
    (hread : ∀ {t rest piece}, (∀ c ∈ t.head?, c.isBlank = false) →
      (read t = (piece, rest)
        ↔ ∃ slice, t = slice ++ rest ∧ Slice piece slice rest))
    {t rest : Text} {piece : Option Text} :
    read t.trimLeft = (piece, rest)
      ↔ ∃ gap slice, t = gap ++ (slice ++ rest) ∧ Skips gap (slice ++ rest)
        ∧ Slice piece slice rest := by
  constructor
  · intro h
    obtain ⟨gap, ht, hskips⟩ := trimLeft_eq_iff.1 (rfl : t.trimLeft = _)
    obtain ⟨slice, hslice, hpiece⟩ := (hread hskips.stops).1 h
    rw [hslice] at ht hskips
    exact ⟨gap, slice, ht, hskips, hpiece⟩
  · rintro ⟨gap, slice, ht, hskips, hpiece⟩
    rw [trimLeft_eq_iff.2 ⟨gap, ht, hskips⟩]
    exact (hread hskips.stops).2 ⟨slice, rfl, hpiece⟩

/-- The four readers of a body, one behind the other. -/
theorem readBody_eq {kind : Kind} {key body t₁ t₂ t₃ tail : Text}
    {value inside block more : Option Text}
    (hvalue : readValue body.trimLeft = (value, t₁))
    (hlist : readTags t₁.trimLeft = (inside, t₂))
    (hblock : readBlock t₂.trimLeft = (block, t₃))
    (hmore : readTags t₃.trimLeft = (more, tail)) :
    readBody kind key body
      = ⟨kind, key, value, block, joinTags inside more⟩ := by
  unfold readBody
  rw [hvalue]
  dsimp only
  rw [hlist]
  dsimp only
  rw [hblock]
  dsimp only
  rw [hmore]

/-- A marker that is no end marker has a layout: each of the four readers
starts where the one before it stopped. -/
theorem exists_layout {content : Text} {p : Pieces}
    (h : pieces? content = some p) (hkind : p.kind ≠ .blockEnd) :
    ∃ s first second, content.trim = s.whole ∧ Layout s p first second := by
  obtain ⟨head, body, htrim, hhead, hends, hp⟩ := pieces?_eq_some_iff.1 h
  rw [readBehind, if_neg hkind] at hp
  obtain ⟨⟨value, t₁⟩, hvalue⟩ : ∃ r, readValue body.trimLeft = r := ⟨_, rfl⟩
  obtain ⟨⟨first, t₂⟩, hlist⟩ : ∃ r, readTags t₁.trimLeft = r := ⟨_, rfl⟩
  obtain ⟨⟨block, t₃⟩, hblock⟩ : ∃ r, readBlock t₂.trimLeft = r := ⟨_, rfl⟩
  obtain ⟨⟨second, tail⟩, hmore⟩ : ∃ r, readTags t₃.trimLeft = r := ⟨_, rfl⟩
  rw [readBody_eq hvalue hlist hblock hmore, joinTags_eq] at hp
  obtain ⟨gap₁, slice₁, rfl, hgap₁, hslice₁⟩ :=
    (read_trimLeft_iff readValue_eq_iff).1 hvalue
  obtain ⟨gap₂, slice₂, rfl, hgap₂, hslice₂⟩ :=
    (read_trimLeft_iff fun _ => readTags_eq_iff).1 hlist
  obtain ⟨gap₃, slice₃, rfl, hgap₃, hslice₃⟩ :=
    (read_trimLeft_iff fun _ => readBlock_eq_iff).1 hblock
  obtain ⟨gap₄, slice₄, rfl, hgap₄, hslice₄⟩ :=
    (read_trimLeft_iff fun _ => readTags_eq_iff).1 hmore
  rw [hp] at hkind hhead ⊢
  exact ⟨⟨head, gap₁, slice₁, gap₂, slice₂, gap₃, slice₃, gap₄, slice₄, tail⟩,
    first, second, htrim, hkind, hhead, hends, hgap₁, hslice₁, hgap₂, hslice₂,
    hgap₃, hslice₃, hgap₄, hslice₄, rfl⟩

/-- A line in slices has the pieces that its layout says. -/
theorem pieces?_of_layout {content : Text} {p : Pieces} {s : Slices}
    {first second : Option Text} (htrim : content.trim = s.whole)
    (h : Layout s p first second) : pieces? content = some p := by
  refine pieces?_eq_some_iff.2 ⟨s.head, s.body, htrim, h.head, h.endsKey, ?_⟩
  have hvalue := (read_trimLeft_iff readValue_eq_iff).2
    ⟨_, _, rfl, h.beforeValue, h.value⟩
  have hlist := (read_trimLeft_iff fun _ => readTags_eq_iff).2
    ⟨_, _, rfl, h.beforeList, h.list⟩
  have hblock := (read_trimLeft_iff fun _ => readBlock_eq_iff).2
    ⟨_, _, rfl, h.beforeBlock, h.block⟩
  have hmore := (read_trimLeft_iff fun _ => readTags_eq_iff).2
    ⟨_, _, rfl, h.beforeMore, h.more⟩
  rw [readBehind, if_neg h.notEnd]
  refine Eq.trans ?_ (readBody_eq hvalue hlist hblock hmore).symm
  rw [joinTags_eq, ← h.tags]

/-- The pieces of a marker are its slices. Whatever the content, it is a
marker other than an end marker with these pieces if and only if, once it is
trimmed, it consists of ten slices of which each is what its layout says: the
head, the four gaps, the value, the two tag lists around the block, and a
rest. The value and the block are slices as they are, and the tags are the
insides of the lists, joined when there are two. -/
theorem pieces_are_slices (content : Text) (p : Pieces) :
    pieces? content = some p ∧ p.kind ≠ .blockEnd
      ↔ ∃ s first second, content.trim = s.whole ∧ Layout s p first second := by
  constructor
  · rintro ⟨h, hkind⟩
    exact exists_layout h hkind
  · rintro ⟨s, first, second, htrim, h⟩
    exact ⟨pieces?_of_layout htrim h, h.notEnd⟩

/-- A list whose bracket is never closed takes the block with it. -/
example : pieces? "@!begin key\x7b1\x7d  tags = [\"]\", a \x7b\x7d tags=[b "
    = some ⟨.blockBegin, "key", none, some "\x7b1\x7d",
      some "\"]\", a \x7b\x7d tags=[b"⟩ := by
  decide

end Marginalia.Marker
