/-
What is read of a text that has an encoding. Its whole numbers are within
the limit of digits, the keys of each object are distinct, and it nests no
deeper than there was room for; and though an escape can name the half of a
surrogate pair, the two halves of one never stand apart in a string, because
the reader joins them where they meet.

So a value that is read and that holds no float is settled: it is read back
from the text that is written for it.

# One notion for all readers

`Yields` says of a reader that it turns fine text, such as text that has an
encoding, into results of some kind and leaves fine text; the steps for
values, elements and members are put together by one induction on the fuel
(`yields_read`), whatever is said of strings, words and numbers.
-/
import Marginalia.Proofs.Json.RoundTrip

namespace Marginalia.Json

-- ============================================================= readers

/-- What a reader makes of a fine text is of a kind, and what it leaves is a
fine text again. -/
def Yields {α : Type} (Fine : Text → Prop)
    (reader : Text → Except Failure (α × Text)) (Kind : α → Prop) : Prop :=
  ∀ t a rest, reader t = .ok (a, rest) → Fine t → Kind a ∧ Fine rest

/-- A fine text stays fine when anything but a backslash is taken off its
head. -/
def Carried (Fine : Text → Prop) : Prop :=
  ∀ c t, c ≠ .scalar '\\' → Fine (c :: t) → Fine t

/-- Text that has an encoding. -/
abbrev Encodable (t : Text) : Prop := t.isEncodable = true

/-- What comes out of a mapped result comes out of the result. -/
theorem ok_of_map {ε α β : Type} {x : Except ε α} {g : α → β} {b : β}
    (h : x.map g = .ok b) : ∃ a, x = .ok a ∧ g a = b := by
  cases x with
  | error e => cases h
  | ok a =>
      injection h with h
      exact ⟨a, rfl, h⟩

theorem carried_encodable : Carried Encodable :=
  fun _ _ _ h => (Text.isEncodable_cons.1 h).2

/-- White space is no backslash, so what follows it is fine. -/
theorem Carried.skipSpace {Fine : Text → Prop} (hfine : Carried Fine)
    {t : Text} (h : Fine t) : Fine (skipSpace t) := by
  unfold Json.skipSpace
  induction t with
  | nil => exact h
  | cons c t ih =>
      rw [List.dropWhile_cons]
      split
      · next hc =>
        refine ih (hfine c t (fun he => ?_) h)
        rw [he] at hc
        exact absurd hc (by decide)
      · exact h

-- ============================================================= strings

/-- No piece stands for a surrogate as it is. -/
def Bare (pieces : List Piece) : Prop :=
  ∀ c, .plain c ∈ pieces → c.isSurrogate = false

theorem bare_cons_unit {n : Nat} {pieces : List Piece} :
    Bare (.unit n :: pieces) ↔ Bare pieces := by
  unfold Bare
  simp

theorem bare_cons_plain {c : CodePoint} {pieces : List Piece} :
    Bare (.plain c :: pieces) ↔ c.isSurrogate = false ∧ Bare pieces := by
  unfold Bare
  simp

/-- A short escape stands for a scalar value. -/
theorem isSurrogate_of_shortEscape? {e x : CodePoint}
    (h : shortEscape? e = some x) : x.isSurrogate = false := by
  unfold shortEscape? at h
  split at h
  · next hmark =>
    injection h with h
    subst h
    cases e with
    | scalar c => rfl
    | surrogate half => simp at hmark
  · repeat' split at h
    all_goals cases h
    all_goals rfl

/-- The pieces of a string of an encodable text are bare. -/
theorem yields_readPieces (opening : Text) :
    Yields Encodable (readPieces opening) Bare := by
  intro t
  fun_induction readPieces opening t with
  | case2 t =>
      -- the closing quote
      intro pieces rest h ht
      cases h
      exact ⟨fun c hc => absurd hc List.not_mem_nil,
        (Text.isEncodable_cons.1 ht).2⟩
  | case4 h1 h2 h3 h4 next more n _ _ ih =>
      -- a numeric escape
      intro pieces rest h ht
      obtain ⟨r, hr, heq⟩ := ok_of_map h
      cases heq
      have hmore : Text.isEncodable (next :: more) = true :=
        Text.isEncodable_of_subset
          (List.drop_subset 6 (_ :: _ :: h1 :: h2 :: h3 :: h4 :: next :: more))
          ht
      obtain ⟨hbare, hrest⟩ := ih _ _ hr hmore
      exact ⟨bare_cons_unit.2 hbare, hrest⟩
  | case7 e more _ x hx _ ih =>
      -- a short escape
      intro pieces rest h ht
      obtain ⟨r, hr, heq⟩ := ok_of_map h
      cases heq
      have hmore := (Text.isEncodable_cons.1 (Text.isEncodable_cons.1 ht).2).2
      obtain ⟨hbare, hrest⟩ := ih _ _ hr hmore
      exact ⟨bare_cons_plain.2 ⟨isSurrogate_of_shortEscape? hx, hbare⟩, hrest⟩
  | case10 c more _ _ _ ih =>
      -- a code point as it stands
      intro pieces rest h ht
      obtain ⟨r, hr, heq⟩ := ok_of_map h
      cases heq
      obtain ⟨hc, hmore⟩ := Text.isEncodable_cons.1 ht
      obtain ⟨hbare, hrest⟩ := ih _ _ hr hmore
      exact ⟨bare_cons_plain.2 ⟨hc, hbare⟩, hrest⟩
  | case1 | case3 | case5 | case6 | case8 | case9 =>
      intro pieces rest h
      cases h

/-- The code point of a pair is no half of one. -/
theorem not_unit_pairValue (high low : Nat) :
    ¬ isHighUnit (CodePoint.ofNat (pairValue high low)).toNat = true
      ∧ ¬ isLowUnit (CodePoint.ofNat (pairValue high low)).toNat = true := by
  rw [isHighUnit_ofNat, isLowUnit_ofNat, isHighUnit_eq_true,
    isLowUnit_eq_true]
  unfold pairValue
  omega

/-- Only a second unit of a pair comes out as a second half. -/
theorem unit_of_startsLow {pieces : List Piece} (hbare : Bare pieces)
    (h : StartsLow (joinPieces pieces)) :
    ∃ m more, pieces = .unit m :: more ∧ isLowUnit m = true := by
  obtain ⟨d, hd, hlow⟩ := h
  revert hd
  fun_cases joinPieces pieces with
  | case1 =>
      intro hd
      cases hd
  | case2 c rest =>
      rintro ⟨⟩
      have hc := (bare_cons_plain.1 hbare).1
      exact absurd hlow (not_unit_of_not_isSurrogate hc).2
  | case3 n hn m more hm =>
      intro hd
      obtain rfl := Option.mem_some_iff.1 hd
      exact absurd hlow (not_unit_pairValue n m).2
  | case4 n hn m more hm =>
      intro hd
      obtain rfl := Option.mem_some_iff.1 hd
      exact ⟨n, _, rfl, isLowUnit_ofNat.1 hlow⟩
  | case5 n hn more hm =>
      intro hd
      obtain rfl := Option.mem_some_iff.1 hd
      exact ⟨n, _, rfl, isLowUnit_ofNat.1 hlow⟩
  | case6 n rest hn =>
      intro hd
      obtain rfl := Option.mem_some_iff.1 hd
      exact ⟨n, _, rfl, isLowUnit_ofNat.1 hlow⟩

/-- Joining leaves no halves of a pair apart. -/
theorem isJoined_joinPieces {pieces : List Piece} (hbare : Bare pieces) :
    (joinPieces pieces).isJoined = true := by
  fun_induction joinPieces pieces with
  | case1 => rfl
  | case2 c rest ih =>
      obtain ⟨hc, hrest⟩ := bare_cons_plain.1 hbare
      refine isJoined_cons.2 ⟨fun h => ?_, ih hrest⟩
      exact absurd h (not_unit_of_not_isSurrogate hc).1
  | case3 n hn m more hm ih =>
      have hmore := bare_cons_unit.1 (bare_cons_unit.1 hbare)
      refine isJoined_cons.2 ⟨fun h => ?_, ih hmore⟩
      exact absurd h (not_unit_pairValue n m).1
  | case4 n hn m more hm ih =>
      have hrest := bare_cons_unit.1 hbare
      refine isJoined_cons.2 ⟨fun _ hlow => ?_, ih hrest⟩
      obtain ⟨m', more', heq, hm'⟩ := unit_of_startsLow hrest hlow
      cases heq
      exact hm hm'
  | case5 n hn more hne ih =>
      have hrest := bare_cons_unit.1 hbare
      refine isJoined_cons.2 ⟨fun _ hlow => ?_, ih hrest⟩
      obtain ⟨m', more', heq, -⟩ := unit_of_startsLow hrest hlow
      exact hne m' more' heq
  | case6 n rest hn ih =>
      refine isJoined_cons.2 ⟨fun h => ?_, ih (bare_cons_unit.1 hbare)⟩
      exact absurd (isHighUnit_ofNat.1 h) hn

/-- The strings of fine texts are of a kind, and what follows them is
fine. -/
def YieldsStrings (Fine : Text → Prop) (Kind : Text → Prop) : Prop :=
  ∀ t s rest, readString (.scalar '"' :: t) = .ok (s, rest) →
    Fine (.scalar '"' :: t) → Kind s ∧ Fine rest

/-- A string of an encodable text has no halves of a pair apart. -/
theorem yields_readString :
    YieldsStrings Encodable (·.isJoined = true) := by
  intro t s rest h ht
  obtain ⟨r, hr, heq⟩ := ok_of_map h
  cases heq
  obtain ⟨hbare, hrest⟩ :=
    yields_readPieces _ t _ _ hr (Text.isEncodable_cons.1 ht).2
  exact ⟨isJoined_joinPieces hbare, hrest⟩

-- ============================================================= numbers

/-- A run of at most `k` digits spells a number below `10 ^ k`. -/
theorem digitsValue_lt {t : Text} {k : Nat}
    (h : ∀ c ∈ t, c.isDigit = true) (hk : t.length ≤ k) :
    Text.digitsValue t < Nat.pow 10 k := by
  have hfold : ∀ (t : Text) (n : Nat), (∀ c ∈ t, c.isDigit = true) →
      t.foldl (fun n c => 10 * n + (c.toNat - 48)) n
        < (n + 1) * 10 ^ t.length := by
    intro t
    induction t with
    | nil =>
        intro n _
        show n < (n + 1) * 10 ^ 0
        omega
    | cons c t ih =>
        intro n h
        obtain ⟨hlow, hhigh⟩ :=
          CodePoint.toNat_of_isDigit (h c (List.mem_cons_self ..))
        have hstep : 10 * n + (c.toNat - 48) + 1 ≤ 10 * (n + 1) := by omega
        calc t.foldl _ (10 * n + (c.toNat - 48))
            < (10 * n + (c.toNat - 48) + 1) * 10 ^ t.length :=
              ih _ fun x hx => h x (List.mem_cons_of_mem _ hx)
          _ ≤ 10 * (n + 1) * 10 ^ t.length := Nat.mul_le_mul_right _ hstep
          _ = (n + 1) * 10 ^ (c :: t).length := by
              rw [List.length_cons, Nat.pow_succ', Nat.mul_comm 10,
                Nat.mul_assoc]
  have h0 := hfold t 0 h
  rw [Nat.zero_add, Nat.one_mul] at h0
  exact Nat.lt_of_lt_of_le h0 (Nat.pow_le_pow_right (by decide) hk)

theorem digits_of_spanDigits (t : Text) :
    (∀ c ∈ (spanDigits t).1, c.isDigit = true) ∧ (spanDigits t).2 ⊆ t := by
  unfold spanDigits
  rw [List.span_eq_takeWhile_dropWhile]
  exact ⟨fun c hc => List.all_eq_true.1 List.all_takeWhile c hc,
    List.dropWhile_subset _⟩

theorem readMinus_subset (t : Text) : (readMinus t).2 ⊆ t := by
  unfold readMinus
  split
  · exact List.subset_cons_self ..
  · exact List.Subset.refl _

/-- The digits in front of the point are digits. -/
theorem digits_of_readWhole? {t whole rest : Text}
    (h : readWhole? t = some (whole, rest)) :
    (∀ c ∈ whole, c.isDigit = true) ∧ rest ⊆ t := by
  unfold readWhole? at h
  split at h
  · cases h
  · next c t =>
    split at h
    · next hc =>
      cases h
      refine ⟨fun x hx => ?_, List.subset_cons_self ..⟩
      rw [List.mem_singleton.1 hx, hc]
      rfl
    · split at h
      · have hspan := digits_of_spanDigits (c :: t)
        injection h with h
        rw [h] at hspan
        exact hspan
      · cases h

theorem readFraction_subset (t : Text) : (readFraction t).2 ⊆ t := by
  unfold readFraction
  split
  · next t =>
    have hspan := (digits_of_spanDigits t).2
    split
    · exact List.Subset.refl _
    · next digits rest _ heq =>
      rw [heq] at hspan
      exact List.subset_cons_of_subset _ hspan
  · exact List.Subset.refl _

theorem readSign_subset (t : Text) : (readSign t).2 ⊆ t := by
  unfold readSign
  split
  · exact List.subset_cons_self ..
  · exact List.subset_cons_self ..
  · exact List.Subset.refl _

theorem readExponent_subset (t : Text) : (readExponent t).2 ⊆ t := by
  unfold readExponent
  split
  · exact List.Subset.refl _
  · next c rest =>
    split
    · have hspan := (digits_of_spanDigits (readSign rest).2).2
      dsimp only
      split
      · exact List.Subset.refl _
      · next digits left _ heq =>
        rw [heq] at hspan
        exact List.subset_cons_of_subset _
          (List.Subset.trans hspan (readSign_subset rest))
    · exact List.Subset.refl _

/-- A numeral is read with its digits, and what is left is part of the
text. -/
theorem digits_of_readNumeral? {t rest : Text} {n : Numeral}
    (h : readNumeral? t = some (n, rest)) :
    (∀ c ∈ n.whole, c.isDigit = true) ∧ rest ⊆ t := by
  unfold readNumeral? at h
  dsimp only at h
  split at h
  · cases h
  · next whole left hwhole =>
    obtain ⟨hdigits, hleft⟩ := digits_of_readWhole? hwhole
    cases h
    refine ⟨hdigits, ?_⟩
    have hnumber := List.Subset.trans hleft (readMinus_subset t)
    have hfraction := List.Subset.trans (readFraction_subset left) hnumber
    exact List.Subset.trans (readExponent_subset _) hfraction

/-- The value of a numeral is within the limit of digits. -/
theorem isDecoded_of_value {n : Numeral} {whole left : Text} {s : Scalar}
    (hdigits : ∀ c ∈ n.whole, c.isDigit = true)
    (h : n.value whole left = .ok s) : s.isDecoded = true := by
  unfold Numeral.value at h
  split at h
  · split at h
    · cases h
    · next hlength =>
      cases h
      have habs : n.toInt.natAbs = Text.digitsValue n.whole := by
        unfold Numeral.toInt
        cases n.negative <;> simp
      show decide (n.toInt.natAbs < Nat.pow 10 DigitLimit.digits) = true
      rw [habs]
      exact decide_eq_true (digitsValue_lt hdigits (Nat.le_of_not_lt hlength))
  · dsimp only at h
    split at h
    · cases h
      rfl
    · cases h

/-- No word stands for a number or a text. -/
theorem isDecoded_of_mem_words {w : Text × Except Failure Scalar} {s : Scalar}
    (hw : w ∈ words) (h : w.2 = .ok s) : s.isDecoded = true := by
  simp only [words, List.mem_cons, List.not_mem_nil, or_false] at hw
  rcases hw with rfl | rfl | rfl | rfl | rfl | rfl <;> cases h <;> rfl

/-- A word or a number is a decoded scalar. -/
theorem yields_readWord :
    Yields Encodable readWord (·.isDecoded = true) := by
  intro t s rest h ht
  unfold readWord at h
  split at h
  · next word outcome hfind =>
    obtain ⟨s', hs, heq⟩ := ok_of_map h
    cases heq
    exact ⟨isDecoded_of_mem_words (List.mem_of_find?_eq_some hfind) hs,
      Text.isEncodable_of_subset (List.drop_subset ..) ht⟩
  · split at h
    · cases h
    · next n left hn =>
      obtain ⟨s', hs, heq⟩ := ok_of_map h
      cases heq
      obtain ⟨hdigits, hsub⟩ := digits_of_readNumeral? hn
      exact ⟨isDecoded_of_value hdigits hs, Text.isEncodable_of_subset hsub ht⟩

-- ============================================================== values

section Values

variable {p : Scalar → Bool}

/-- The elements of an array are made of scalars of a kind. -/
def MadeItems (p : Scalar → Bool) (room : Nat) (items : List Json) : Prop :=
  ∀ v ∈ items, Made p room v

/-- The members of an object are made of scalars of a kind, and their names
are of it, too. -/
def MadeMembers (p : Scalar → Bool) (room : Nat)
    (members : List (Text × Json)) : Prop :=
  ∀ m ∈ members, p (.str m.1) = true ∧ Made p room m.2

/-- Of members with one name the object keeps one. -/
theorem MadeMembers.object {room : Nat} {members : List (Text × Json)}
    (h : MadeMembers p room members) :
    Made p (room + 1) (.object (Assoc.ofPairs members)) := by
  obtain ⟨hnodup, hsub⟩ := Assoc.ofPairs_spec members
  exact .object hnodup (fun m hm => (h m (hsub hm)).1)
    fun m hm => (h m (hsub hm)).2

variable {Fine : Text → Prop} (hfine : Carried Fine)
  (hstring : YieldsStrings Fine fun s => p (.str s) = true)

section Steps

variable {fuel : Nat}

include hfine hstring

/-- A value is read in one step from elements or members. -/
theorem yields_readValue (hword : Yields Fine readWord (p · = true))
    (hitems : ∀ room, Yields Fine (readItems fuel room) (MadeItems p room))
    (hmembers : ∀ room,
      Yields Fine (readMembers fuel room) (MadeMembers p room))
    (room : Nat) : Yields Fine (readValue (fuel + 1) room) (Made p room) := by
  intro t v rest h ht
  rw [readValue.eq_def] at h
  dsimp only at h
  split at h
  · cases h
  · next c t =>
    split at h
    · -- a string
      next hc =>
      subst hc
      obtain ⟨r, hr, heq⟩ := ok_of_map h
      cases heq
      obtain ⟨hs, hrest⟩ := hstring _ _ _ hr ht
      exact ⟨.scalar hs, hrest⟩
    · split at h
      · -- an array: it takes one level of the room for itself
        next hc =>
        have hbody := hfine.skipSpace (hfine c t (by rw [hc]; decide) ht)
        split at h
        · cases h
        · next room =>
          split at h
          · next after heq =>
            cases h
            rw [heq] at hbody
            exact ⟨.array (List.forall_mem_nil _),
              hfine _ _ (by decide) hbody⟩
          · obtain ⟨r, hr, heq⟩ := ok_of_map h
            cases heq
            obtain ⟨hmade, hrest⟩ := hitems room _ _ _ hr hbody
            exact ⟨.array hmade, hrest⟩
      · split at h
        · -- an object
          next hc =>
          have hbody := hfine.skipSpace (hfine c t (by rw [hc]; decide) ht)
          split at h
          · cases h
          · next room =>
            split at h
            · next after heq =>
              cases h
              rw [heq] at hbody
              exact ⟨.object List.nodup_nil (List.forall_mem_nil _)
                (List.forall_mem_nil _), hfine _ _ (by decide) hbody⟩
            · obtain ⟨r, hr, heq⟩ := ok_of_map h
              cases heq
              obtain ⟨hmade, hrest⟩ := hmembers room _ _ _ hr hbody
              exact ⟨hmade.object, hrest⟩
        · -- a word or a number
          obtain ⟨r, hr, heq⟩ := ok_of_map h
          cases heq
          obtain ⟨hs, hrest⟩ := hword _ _ _ hr ht
          exact ⟨.scalar hs, hrest⟩

variable {room : Nat}
  (hvalue : Yields Fine (readValue fuel room) (Made p room))

include hvalue

omit hstring in
/-- The elements of an array are read in one step from the first of them and
the others. -/
theorem yields_readItems
    (hitems : Yields Fine (readItems fuel room) (MadeItems p room)) :
    Yields Fine (readItems (fuel + 1) room) (MadeItems p room) := by
  intro t vs rest h ht
  rw [readItems.eq_def] at h
  dsimp only at h
  split at h
  · cases h
  · next v left hv =>
    obtain ⟨hmade, hleft⟩ := hvalue _ _ _ hv ht
    have hspace := hfine.skipSpace hleft
    split at h
    · next after heq =>
      cases h
      rw [heq] at hspace
      exact ⟨List.forall_mem_singleton.2 hmade, hfine _ _ (by decide) hspace⟩
    · next after heq =>
      rw [heq] at hspace
      have hafter := hfine.skipSpace (hfine _ _ (by decide) hspace)
      obtain ⟨r, hr, heq⟩ := ok_of_map h
      cases heq
      obtain ⟨hmore, hrest⟩ := hitems _ _ _ hr hafter
      exact ⟨List.forall_mem_cons.2 ⟨hmade, hmore⟩, hrest⟩
    · cases h

/-- The members of an object are read in one step from the first of them and
the others. -/
theorem yields_readMembers
    (hmembers : Yields Fine (readMembers fuel room) (MadeMembers p room)) :
    Yields Fine (readMembers (fuel + 1) room) (MadeMembers p room) := by
  intro t ms rest h ht
  rw [readMembers.eq_def] at h
  dsimp only at h
  split at h
  · split at h
    · cases h
    · next name left hname =>
      obtain ⟨hs, hleft⟩ := hstring _ _ _ hname ht
      have hcolon := hfine.skipSpace hleft
      split at h
      · next body heq =>
        rw [heq] at hcolon
        have hbody := hfine.skipSpace (hfine _ _ (by decide) hcolon)
        split at h
        · cases h
        · next v left hv =>
          obtain ⟨hmade, hleft⟩ := hvalue _ _ _ hv hbody
          have hspace := hfine.skipSpace hleft
          split at h
          · next after heq =>
            cases h
            rw [heq] at hspace
            exact ⟨List.forall_mem_singleton.2 ⟨hs, hmade⟩,
              hfine _ _ (by decide) hspace⟩
          · next after heq =>
            rw [heq] at hspace
            have hafter := hfine.skipSpace (hfine _ _ (by decide) hspace)
            obtain ⟨r, hr, heq⟩ := ok_of_map h
            cases heq
            obtain ⟨hmore, hrest⟩ := hmembers _ _ _ hr hafter
            exact ⟨List.forall_mem_cons.2 ⟨⟨hs, hmade⟩, hmore⟩, hrest⟩
          · cases h
      · cases h
  · cases h

end Steps

variable (hword : Yields Fine readWord (p · = true))

include hfine hstring hword

/-- What is read of a fine text is made of scalars of the kind that its
strings, words and numbers are of, with room for its depth. -/
theorem yields_read (fuel : Nat) : ∀ room,
    Yields Fine (readValue fuel room) (Made p room)
      ∧ Yields Fine (readItems fuel room) (MadeItems p room)
      ∧ Yields Fine (readMembers fuel room) (MadeMembers p room) := by
  induction fuel with
  | zero =>
      intro room
      refine ⟨?_, ?_, ?_⟩
      · intro t v rest h
        rw [readValue.eq_def] at h
        cases h
      · intro t vs rest h
        rw [readItems.eq_def] at h
        cases h
      · intro t ms rest h
        rw [readMembers.eq_def] at h
        cases h
  | succ fuel ih =>
      intro room
      obtain ⟨hvalue, hitems, hmembers⟩ := ih room
      exact ⟨yields_readValue hfine hstring hword (fun room => (ih room).2.1)
          (fun room => (ih room).2.2) room,
        yields_readItems hfine hvalue hitems,
        yields_readMembers hfine hstring hvalue hmembers⟩

/-- The value of a fine text is made of such scalars, within the limit of
depth. -/
theorem made_of_carried {t : Text} {v : Json} (h : read t = .ok v)
    (ht : Fine t) : Made p maxDepth v := by
  obtain ⟨-, -, rest, hvalue, -⟩ := read_eq_ok_iff.1 h
  exact ((yields_read hfine hstring hword _ _).1 _ _ _ hvalue
    (hfine.skipSpace ht)).1

end Values

/-- The value of an encodable text is made of decoded scalars, within the
limit of depth. -/
theorem made_of_read {t : Text} {v : Json} (h : read t = .ok v)
    (ht : t.isEncodable = true) : Made Scalar.isDecoded maxDepth v :=
  made_of_carried carried_encodable yields_readString yields_readWord h ht

-- ============================================================== floats

mutual

/-- Is there a float anywhere in a value? -/
def hasFloat : Json → Bool
  | .scalar s => s.isFloat
  | .array items => itemsHaveFloat items
  | .object members => membersHaveFloat members

/-- Is there a float among the elements of an array? -/
def itemsHaveFloat : List Json → Bool
  | [] => false
  | v :: rest => hasFloat v || itemsHaveFloat rest

/-- Is there a float among the members of an object? -/
def membersHaveFloat : List (Text × Json) → Bool
  | [] => false
  | (_, v) :: rest => hasFloat v || membersHaveFloat rest

end

theorem itemsHaveFloat_eq (items : List Json) :
    itemsHaveFloat items = items.any hasFloat := by
  induction items with
  | nil => rfl
  | cons v rest ih => rw [itemsHaveFloat, ih, List.any_cons]

theorem membersHaveFloat_eq (members : List (Text × Json)) :
    membersHaveFloat members = members.any fun m => hasFloat m.2 := by
  induction members with
  | nil => rfl
  | cons m rest ih => rw [membersHaveFloat, ih, List.any_cons]

/-- A decoded value without floats is settled. -/
theorem Made.settled {n : Nat} {v : Json} (h : Made Scalar.isDecoded n v)
    (hfloat : hasFloat v = false) : Made Scalar.isSettled n v := by
  induction h with
  | scalar decoded =>
      refine .scalar ?_
      unfold Scalar.isSettled
      rw [decoded, show Scalar.isFloat _ = false from hfloat]
      rfl
  | array _ ih =>
      rw [hasFloat, itemsHaveFloat_eq, List.any_eq_false] at hfloat
      exact .array fun v hv => ih v hv (Bool.eq_false_iff.2 (hfloat v hv))
  | object distinct keys _ ih =>
      rw [hasFloat, membersHaveFloat_eq, List.any_eq_false] at hfloat
      refine .object distinct (fun m hm => ?_) fun m hm =>
        ih m hm (Bool.eq_false_iff.2 (hfloat m hm))
      unfold Scalar.isSettled
      rw [keys m hm]
      rfl

end Marginalia.Json
