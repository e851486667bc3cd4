/-
Halves of surrogate pairs in JSON texts. A text without surrogates can still
name them, by numeric escapes. Where a first unit is followed at once by a
second one, the two are one code point; any other unit that is half of a
pair stands alone, and becomes a surrogate in the string that is read.

`Text.spellsHalf` looks for such a unit in a text as it is written, without
reading it: a walk over its escapes that knows nothing of quotes. A text
that spells no half is read to a value without surrogates
(`made_encodable_of_read`), and for a text that stands for a scalar the
converse holds, too (`isEncodable_of_read`).
-/
import Marginalia.Proofs.Json.Parsed
import Marginalia.Proofs.Json.Encodable

namespace Marginalia

namespace Json

-- =============================================================== units

/-- The units that a text names by numeric escapes, with nothing in the
place of any other escape or code point. -/
def unitsOf : Text → List (Option Nat)
  | [] => []
  | c :: t =>
    if c = .scalar '\\' then
      match t with
      | [] => [none]
      | e :: rest =>
        if e = .scalar 'u' then
          match rest with
          | h1 :: h2 :: h3 :: h4 :: more =>
            match hexUnit? h1 h2 h3 h4 with
            | some n => some n :: unitsOf more
            | none => none :: unitsOf (h1 :: h2 :: h3 :: h4 :: more)
          | short => none :: unitsOf short
        else none :: unitsOf rest
    else none :: unitsOf t

/-- Is there a unit that is half of a pair and does not stand beside the
other half? -/
def hasHalf : List (Option Nat) → Bool
  | [] => false
  | none :: rest => hasHalf rest
  | some n :: rest =>
    if isHighUnit n then
      match rest with
      | some m :: more => if isLowUnit m then hasHalf more else true
      | _ => true
    else isLowUnit n || hasHalf rest

end Json

/-- Does the text name half of a surrogate pair without the other half? -/
def Text.spellsHalf (t : Text) : Bool := Json.hasHalf (Json.unitsOf t)

namespace Json

-- ================================================================ walks

/-- A walk takes anything but a backslash by itself. -/
theorem unitsOf_plain {c : CodePoint} (hc : c ≠ .scalar '\\') (t : Text) :
    unitsOf (c :: t) = none :: unitsOf t := by
  rw [unitsOf.eq_def]
  exact if_neg hc

/-- A walk takes a backslash with what it escapes. -/
theorem unitsOf_escape {e : CodePoint} (he : e ≠ .scalar 'u') (t : Text) :
    unitsOf (.scalar '\\' :: e :: t) = none :: unitsOf t := by
  rw [unitsOf.eq_def]
  exact if_neg he

/-- A walk takes a numeric escape with its digits. -/
theorem unitsOf_unit {a b c d : CodePoint} {n : Nat}
    (h : hexUnit? a b c d = some n) (t : Text) :
    unitsOf (.scalar '\\' :: .scalar 'u' :: a :: b :: c :: d :: t)
      = some n :: unitsOf t := by
  rw [unitsOf.eq_def]
  simp only [if_true, h]

/-- Without four digits, it takes the letter only. -/
theorem unitsOf_noUnit {t : Text}
    (h : ∀ a b c d more, t = a :: b :: c :: d :: more →
      hexUnit? a b c d = none) :
    unitsOf (.scalar '\\' :: .scalar 'u' :: t) = none :: unitsOf t := by
  rw [unitsOf.eq_def]
  simp only [if_true]
  split
  · next a b c d more =>
    rw [h a b c d more rfl]
  · rfl

/-- A unit that is no first half asks not for what follows it. -/
theorem hasHalf_single {n : Nat} (hn : ¬ isHighUnit n = true)
    (rest : List (Option Nat)) :
    hasHalf (some n :: rest) = (isLowUnit n || hasHalf rest) := by
  rw [hasHalf.eq_def]
  exact if_neg hn

/-- Units on both sides of something else do not join. -/
theorem hasHalf_append_none (first rest : List (Option Nat)) :
    hasHalf (first ++ none :: rest) = (hasHalf first || hasHalf rest) := by
  fun_induction hasHalf first with
  | case1 => rfl
  | case2 first ih => exact ih
  | case3 n hn m more hm ih =>
      rw [← ih]
      simp [hasHalf, hn, hm]
  | case4 n hn m more hm => simp [hasHalf, hn, hm]
  | case5 n more hn hne =>
      cases more with
      | nil => simp [hasHalf, hn]
      | cons x more =>
          cases x with
          | none => simp [hasHalf, hn]
          | some m => exact absurd rfl (hne m more)
  | case6 n more hn ih =>
      rw [List.cons_append, hasHalf_single hn, ih, Bool.or_assoc]

theorem spellsHalf_plain {c : CodePoint} (hc : c ≠ .scalar '\\') (t : Text) :
    Text.spellsHalf (c :: t) = t.spellsHalf := by
  unfold Text.spellsHalf
  rw [unitsOf_plain hc, hasHalf]

/-- Text without a backslash in front makes no difference. -/
theorem spellsHalf_append_plain {u : Text} (hu : ∀ c ∈ u, c ≠ .scalar '\\')
    (t : Text) : Text.spellsHalf (u ++ t) = t.spellsHalf := by
  induction u with
  | nil => rfl
  | cons c u ih =>
      obtain ⟨hc, hu⟩ := List.forall_mem_cons.1 hu
      rw [List.cons_append, spellsHalf_plain hc, ih hu]

/-- A code point that no numeric escape goes on with keeps a walk from
reading across it. -/
structure Parts (c : CodePoint) : Prop where
  slash : c ≠ .scalar '\\'
  letter : c ≠ .scalar 'u'
  digit : c.hexDigit? = none

theorem hexUnit?_eq_none {a b c d x : CodePoint} (hx : x.hexDigit? = none)
    (h : x ∈ [a, b, c, d]) : hexUnit? a b c d = none := by
  cases hunit : hexUnit? a b c d with
  | none => rfl
  | some n =>
      have hsome := isSome_of_hexUnit? hunit x h
      rw [hx] at hsome
      cases hsome

/-- What a walk finds in a text and behind it is found across it, too. At
its end the text may leave a backslash that escapes what comes next. -/
def Meets (first rest across : List (Option Nat)) : Prop :=
  across = first ++ none :: rest
    ∨ ∃ units, first = units ++ [none] ∧ across = units ++ none :: rest

theorem Meets.cons {first rest across : List (Option Nat)}
    (h : Meets first rest across) (x : Option Nat) :
    Meets (x :: first) rest (x :: across) := by
  rcases h with rfl | ⟨units, rfl, rfl⟩
  · exact Or.inl rfl
  · exact Or.inr ⟨x :: units, rfl, rfl⟩

theorem Meets.hasHalf_eq {first rest across : List (Option Nat)}
    (h : Meets first rest across) :
    hasHalf across = (hasHalf first || hasHalf rest) := by
  rcases h with rfl | ⟨units, rfl, rfl⟩
  · exact hasHalf_append_none first rest
  · rw [hasHalf_append_none, hasHalf_append_none]
    simp [hasHalf]

/-- A walk that comes to a code point that parts goes on behind it as from a
start. -/
theorem meets_unitsOf {x : CodePoint} (hx : Parts x) (first rest : Text) :
    Meets (unitsOf first) (unitsOf rest) (unitsOf (first ++ x :: rest)) := by
  fun_induction unitsOf first with
  | case1 => exact Or.inl (unitsOf_plain hx.slash rest)
  | case2 => exact Or.inr ⟨[], rfl, unitsOf_escape hx.letter rest⟩
  | case3 a b c d more n hn ih =>
      show Meets _ _ (unitsOf (_ :: _ :: a :: b :: c :: d :: (more ++ _)))
      rw [unitsOf_unit hn]
      exact ih.cons (some n)
  | case4 a b c d more hn ih =>
      show Meets _ _ (unitsOf (_ :: _ :: a :: b :: c :: d :: (more ++ _)))
      rw [unitsOf_noUnit]
      · exact ih.cons none
      · rintro _ _ _ _ _ ⟨⟩
        exact hn
  | case5 short hshort ih =>
      show Meets _ _ (unitsOf (_ :: _ :: (short ++ x :: rest)))
      rw [unitsOf_noUnit]
      · exact ih.cons none
      · -- the code point that parts would be one of the digits
        intro a b c d more heq
        apply hexUnit?_eq_none hx.digit
        match short, hshort with
        | [], _ => cases heq; simp
        | [_], _ => cases heq; simp
        | [_, _], _ => cases heq; simp
        | [_, _, _], _ => cases heq; simp
        | h1 :: h2 :: h3 :: h4 :: left, hshort =>
            exact (hshort h1 h2 h3 h4 left rfl).elim
  | case6 e t he ih =>
      show Meets _ _ (unitsOf (_ :: e :: (t ++ _)))
      rw [unitsOf_escape he]
      exact ih.cons none
  | case7 c t hc ih =>
      rw [List.cons_append, unitsOf_plain hc]
      exact ih.cons none

/-- Half of a pair is named on one side of what parts, or on the other. -/
theorem spellsHalf_parts {x : CodePoint} (hx : Parts x) (first rest : Text) :
    Text.spellsHalf (first ++ x :: rest)
      = (first.spellsHalf || rest.spellsHalf) :=
  (meets_unitsOf hx first rest).hasHalf_eq

theorem toNat_of_hexDigit? {c : CodePoint} (h : c.hexDigit?.isSome = true) :
    48 ≤ c.toNat ∧ c.toNat ≤ 57 ∨ 97 ≤ c.toNat ∧ c.toNat ≤ 102
      ∨ 65 ≤ c.toNat ∧ c.toNat ≤ 70 := by
  cases c with
  | surrogate half => cases h
  | scalar c =>
      unfold CodePoint.hexDigit? at h
      simp only [Bool.and_eq_true, decide_eq_true_eq, Char.le_def,
        UInt32.le_iff_toNat_le] at h
      show 48 ≤ c.val.toNat ∧ _ ∨ _
      split at h
      · next hc => exact Or.inl hc
      · split at h
        · next hc => exact Or.inr (Or.inl hc)
        · split at h
          · next hc => exact Or.inr (Or.inr hc)
          · cases h

/-- White space parts. -/
theorem parts_of_isBlank {c : CodePoint} (h : c.isBlank = true) : Parts c := by
  refine ⟨fun he => ?_, fun he => ?_, ?_⟩
  · rw [he] at h
    exact absurd h (by decide)
  · rw [he] at h
    exact absurd h (by decide)
  · cases hdigit : c.hexDigit? with
    | none => rfl
    | some n =>
        have hc := toNat_of_hexDigit? (c := c) (by rw [hdigit]; rfl)
        unfold CodePoint.isBlank CodePoint.isBlankNat at h
        simp only [Bool.or_eq_true, Bool.and_eq_true, decide_eq_true_eq,
          beq_iff_eq] at h
        omega

/-- White space at the ends of a text makes no difference. -/
theorem spellsHalf_append_blank {s : Text} (hs : ∀ c ∈ s, c.isBlank = true)
    (t : Text) : Text.spellsHalf (t ++ s) = t.spellsHalf := by
  cases s with
  | nil => rw [List.append_nil]
  | cons c s =>
      obtain ⟨hc, hs⟩ := List.forall_mem_cons.1 hs
      have hnone := spellsHalf_append_plain
        (fun x hx => (parts_of_isBlank (hs x hx)).slash) []
      rw [List.append_nil] at hnone
      rw [spellsHalf_parts (parts_of_isBlank hc), hnone]
      exact Bool.or_false _

theorem spellsHalf_trimLeft (t : Text) :
    t.trimLeft.spellsHalf = t.spellsHalf := by
  have hblank : ∀ c ∈ t.takeWhile (·.isBlank), c.isBlank = true :=
    fun c hc => List.all_eq_true.1 List.all_takeWhile c hc
  have hparts : t = t.takeWhile (·.isBlank) ++ t.trimLeft :=
    List.takeWhile_append_dropWhile.symm
  rw [hparts, spellsHalf_append_plain fun c hc =>
    (parts_of_isBlank (hblank c hc)).slash, ← hparts]

theorem spellsHalf_trim (t : Text) : t.trim.spellsHalf = t.spellsHalf := by
  rw [← spellsHalf_trimLeft t]
  show (Text.trimRight t.trimLeft).spellsHalf = _
  generalize t.trimLeft = u
  have hblank : ∀ c ∈ (u.reverse.takeWhile (·.isBlank)).reverse,
      c.isBlank = true := fun c hc =>
    List.all_eq_true.1 List.all_takeWhile c (List.mem_reverse.1 hc)
  have hparts : u
      = u.trimRight ++ (u.reverse.takeWhile (·.isBlank)).reverse := by
    unfold Text.trimRight Text.trimLeft
    rw [← List.reverse_append, List.takeWhile_append_dropWhile,
      List.reverse_reverse]
  rw [← spellsHalf_append_blank hblank, ← hparts]

-- ============================================================== strings

/-- The unit that a piece of a string names. -/
def Piece.unit? : Piece → Option Nat
  | .plain _ => none
  | .unit n => some n

/-- A walk finds the pieces of a string, its closing quote, and what is
behind it. -/
theorem unitsOf_readPieces (opening : Text) :
    ∀ t pieces rest, readPieces opening t = .ok (pieces, rest) →
      unitsOf t = pieces.map Piece.unit? ++ none :: unitsOf rest := by
  intro t
  fun_induction readPieces opening t with
  | case2 t =>
      -- the closing quote
      intro pieces rest h
      cases h
      exact unitsOf_plain (by decide) t
  | case4 h1 h2 h3 h4 next more n hunit _ ih =>
      -- a numeric escape
      intro pieces rest h
      obtain ⟨r, hr, heq⟩ := ok_of_map h
      cases heq
      rw [unitsOf_unit hunit, ih _ _ hr]
      rfl
  | case7 e more he x hx _ ih =>
      -- a short escape
      intro pieces rest h
      obtain ⟨r, hr, heq⟩ := ok_of_map h
      cases heq
      rw [unitsOf_escape he, ih _ _ hr]
      rfl
  | case10 c more _ hslash _ ih =>
      -- a code point as it stands
      intro pieces rest h
      obtain ⟨r, hr, heq⟩ := ok_of_map h
      cases heq
      rw [unitsOf_plain hslash, ih _ _ hr]
      rfl
  | case1 | case3 | case5 | case6 | case8 | case9 =>
      intro pieces rest h
      cases h

/-- The code point of a unit is a surrogate when the unit is half of a
pair. -/
theorem isSurrogate_ofNat (n : Nat) :
    (CodePoint.ofNat n).isSurrogate = (isHighUnit n || isLowUnit n) := by
  rw [Bool.eq_iff_iff, Bool.or_eq_true, isHighUnit_eq_true,
    isLowUnit_eq_true]
  unfold CodePoint.ofNat
  split
  · next h =>
    constructor
    · intro _
      omega
    · intro _
      rfl
  · next h =>
    constructor
    · intro hs
      cases hs
    · intro hn
      omega

/-- The text of some pieces has an encoding when no half of a pair stands
alone among their units. -/
theorem isEncodable_joinPieces {pieces : List Piece} (hbare : Bare pieces) :
    (joinPieces pieces).isEncodable = !hasHalf (pieces.map Piece.unit?) := by
  have hcons : ∀ c t, Text.isEncodable (c :: t)
      = (!c.isSurrogate && Text.isEncodable t) := fun _ _ => List.all_cons
  fun_induction joinPieces pieces with
  | case1 => rfl
  | case2 c rest ih =>
      obtain ⟨hc, hrest⟩ := bare_cons_plain.1 hbare
      rw [hcons, hc, ih hrest]
      rfl
  | case3 n hn m more hm ih =>
      have hmore := bare_cons_unit.1 (bare_cons_unit.1 hbare)
      have hpair := not_unit_pairValue n m
      rw [isHighUnit_ofNat, isLowUnit_ofNat] at hpair
      rw [hcons, isSurrogate_ofNat, ih hmore]
      simp [hasHalf, Piece.unit?, hn, hm, hpair]
  | case4 n hn m more hm ih =>
      rw [hcons, isSurrogate_ofNat, hn]
      simp [hasHalf, Piece.unit?, hn, hm]
  | case5 n hn more hne ih =>
      rw [hcons, isSurrogate_ofNat, hn]
      cases more with
      | nil => simp [hasHalf, Piece.unit?, hn]
      | cons x more =>
          cases x with
          | plain c => simp [hasHalf, Piece.unit?, hn]
          | unit m => exact absurd rfl (hne m more)
  | case6 n rest hn ih =>
      rw [hcons, isSurrogate_ofNat, ih (bare_cons_unit.1 hbare)]
      show _ = !hasHalf (some n :: rest.map Piece.unit?)
      rw [hasHalf_single hn, Bool.eq_false_iff.2 hn]
      simp

/-- A string that is read has surrogates when its text names a half of a
pair; what follows it is looked at apart. -/
theorem spellsHalf_readString {t s rest : Text}
    (h : readString (.scalar '"' :: t) = .ok (s, rest))
    (ht : Encodable (.scalar '"' :: t)) :
    Text.spellsHalf (.scalar '"' :: t)
      = (!s.isEncodable || rest.spellsHalf) := by
  obtain ⟨r, hr, heq⟩ := ok_of_map h
  cases heq
  have hbare := (yields_readPieces _ t _ _ hr (Text.isEncodable_cons.1 ht).2).1
  rw [spellsHalf_plain (by decide), isEncodable_joinPieces hbare,
    Bool.not_not]
  unfold Text.spellsHalf
  rw [unitsOf_readPieces _ t _ _ hr, hasHalf_append_none]

-- ============================================================== values

/-- No string is read as a word or a number. -/
theorem isEncodable_readWord {t rest : Text} {s : Scalar}
    (h : readWord t = .ok (s, rest)) : s.isEncodable = true := by
  unfold readWord at h
  split at h
  · next word outcome hfind =>
    obtain ⟨s', hs, heq⟩ := ok_of_map h
    cases heq
    have hmem := List.mem_of_find?_eq_some hfind
    simp only [words, List.mem_cons, List.not_mem_nil, or_false] at hmem
    rcases hmem with heq | heq | heq | heq | heq | heq <;> cases heq <;>
      cases hs <;> rfl
  · split at h
    · cases h
    · next n left hn =>
      obtain ⟨s', hs, heq⟩ := ok_of_map h
      cases heq
      unfold Numeral.value at hs
      split at hs
      · split at hs
        · cases hs
        · cases hs
          rfl
      · dsimp only at hs
        split at hs
        · cases hs
          rfl
        · cases hs

/-- What is taken off as a word or a number has no backslash in it. -/
theorem plain_readWord :
    Takes readWord fun u => ∀ c ∈ u, c ≠ .scalar '\\' := by
  intro t s rest h
  obtain ⟨u, rfl, htoken⟩ := takes_readWord t s rest h
  refine ⟨u, rfl, ?_⟩
  rcases htoken.cases_points with ⟨body, -, rfl⟩ | hpoints
  · -- nothing that starts with a quote is a word or a number
    cases h
  · rintro c hc rfl
    exact absurd (hpoints _ hc) (by decide)

/-- The text has an encoding and names no half of a pair alone. -/
def HalfFree (t : Text) : Prop :=
  t.isEncodable = true ∧ t.spellsHalf = false

theorem carried_halfFree : Carried HalfFree := by
  rintro c t hc ⟨hencodable, hhalf⟩
  rw [spellsHalf_plain hc] at hhalf
  exact ⟨(Text.isEncodable_cons.1 hencodable).2, hhalf⟩

theorem yieldsStrings_halfFree :
    YieldsStrings HalfFree (·.isEncodable = true) := by
  rintro t s rest h ⟨hencodable, hhalf⟩
  rw [spellsHalf_readString h hencodable, Bool.or_eq_false_iff,
    Bool.not_eq_false'] at hhalf
  exact ⟨hhalf.1, (yields_readString t s rest h hencodable).2, hhalf.2⟩

theorem yields_readWord_halfFree :
    Yields HalfFree readWord (·.isEncodable = true) := by
  rintro t s rest h ⟨hencodable, hhalf⟩
  obtain ⟨u, heq, hplain⟩ := plain_readWord t s rest h
  rw [heq, spellsHalf_append_plain hplain] at hhalf
  exact ⟨isEncodable_readWord h, (yields_readWord t s rest h hencodable).2,
    hhalf⟩

/-- A text that names no half of a pair alone is read to a value without
surrogates. -/
theorem made_encodable_of_read {t : Text} {v : Json} (h : read t = .ok v)
    (ht : HalfFree t) : Made Scalar.isEncodable maxDepth v :=
  made_of_carried carried_halfFree yieldsStrings_halfFree
    yields_readWord_halfFree h ht

/-- White space in front of a text makes no difference. -/
theorem spellsHalf_skipSpace (t : Text) :
    (skipSpace t).spellsHalf = t.spellsHalf := by
  obtain ⟨s, hs, heq⟩ := spaces_skipSpace t
  have hplain : ∀ c ∈ s, c ≠ .scalar '\\' := by
    rintro c hc rfl
    exact absurd (hs _ hc) (by decide)
  rw [heq, spellsHalf_append_plain hplain, ← heq]

/-- A scalar that is read is a string with surrogates when its text names a
half of a pair; what follows it is looked at apart. -/
theorem spellsHalf_readValue {fuel room : Nat} {t rest : Text} {s : Scalar}
    (h : readValue fuel room t = .ok (.scalar s, rest)) (ht : Encodable t) :
    t.spellsHalf = (!s.isEncodable || rest.spellsHalf) := by
  rw [readValue.eq_def] at h
  split at h
  · cases h
  · split at h
    · cases h
    · next c t =>
      split at h
      · -- a string
        next hc =>
        subst hc
        obtain ⟨r, hr, heq⟩ := ok_of_map h
        cases heq
        exact spellsHalf_readString hr ht
      · split at h
        · -- an array
          split at h
          · cases h
          · split at h
            · cases h
            · obtain ⟨r, -, heq⟩ := ok_of_map h
              cases heq
        · split at h
          · -- an object
            split at h
            · cases h
            · split at h
              · cases h
              · obtain ⟨r, -, heq⟩ := ok_of_map h
                cases heq
          · -- a word or a number
            obtain ⟨r, hr, heq⟩ := ok_of_map h
            cases heq
            obtain ⟨u, heq, hplain⟩ := plain_readWord _ _ _ hr
            rw [heq, spellsHalf_append_plain hplain, isEncodable_readWord hr]
            rfl

/-- The scalar that a text stands for is a string with surrogates exactly
when the text names a half of a pair alone. -/
theorem isEncodable_of_read {t : Text} {s : Scalar}
    (h : read t = .ok (.scalar s)) (ht : t.isEncodable = true) :
    s.isEncodable = !t.spellsHalf := by
  obtain ⟨-, -, rest, hvalue, hrest⟩ := read_eq_ok_iff.1 h
  have hread := spellsHalf_readValue hvalue (carried_encodable.skipSpace ht)
  -- behind the value there is white space only
  have hnone : rest.spellsHalf = false := by
    rw [← spellsHalf_skipSpace, hrest]
    rfl
  rw [spellsHalf_skipSpace, hnone, Bool.or_false] at hread
  rw [hread, Bool.not_not]

end Json

end Marginalia
