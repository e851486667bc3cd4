/-
What the reader takes off a text is a phrase of the grammar. `Takes` says of
a reader that the text it was given is what it took, which is of a form, and
then what it left. Tokens come first; values, elements and members are put
together by one induction on the fuel, in which an array or an object uses
up one level of the room, so that a value is no deeper than there was room
for (`takes_read`).
-/
import Marginalia.Proofs.Json.Escapes

namespace Marginalia.Json

open Grammar

/-- A piece of the form is taken off the text, and the rest of the text is
left. -/
def Takes {α : Type} (reader : Text → Except Failure (α × Text))
    (Form : Text → Prop) : Prop :=
  ∀ t a rest, reader t = .ok (a, rest) → ∃ u, t = u ++ rest ∧ Form u

-- ============================================================== spaces

/-- The white space that is skipped stands in front of what is left. -/
theorem spaces_skipSpace (t : Text) : ∃ s, Spaces s ∧ t = s ++ skipSpace t :=
  ⟨t.takeWhile isSpace,
    fun _ hc => List.all_eq_true.1 List.all_takeWhile _ hc,
    (List.takeWhile_append_dropWhile ..).symm⟩

-- ============================================================= strings

/-- A string is taken with both its quotes. -/
theorem of_readString {quote : CodePoint} {t s rest : Text}
    (h : readString (quote :: t) = .ok (s, rest)) :
    ∃ body, StringBody body
      ∧ quote :: t = quote :: (body ++ [.scalar '"']) ++ rest := by
  obtain ⟨body, rfl, hstands⟩ := readString_eq_iff.1 h
  refine ⟨body, hstands.stringBody, ?_⟩
  rw [List.cons_append, List.append_assoc, List.singleton_append]

-- ============================================================= numbers

theorem spanDigits_eq (t : Text) :
    t = (spanDigits t).1 ++ (spanDigits t).2 := by
  unfold spanDigits
  rw [List.span_eq_takeWhile_dropWhile, List.takeWhile_append_dropWhile]

theorem sign_readMinus (t : Text) :
    ∃ sign, (sign = [] ∨ sign = [.scalar '-'])
      ∧ t = sign ++ (readMinus t).2 := by
  unfold readMinus
  split
  · exact ⟨_, .inr rfl, rfl⟩
  · exact ⟨_, .inl rfl, rfl⟩

theorem whole_readWhole? {t whole rest : Text}
    (h : readWhole? t = some (whole, rest)) :
    Whole whole ∧ t = whole ++ rest := by
  unfold readWhole? at h
  split at h
  · cases h
  · next c t =>
    split at h
    · next hc =>
      cases h
      exact ⟨hc ▸ .zero, rfl⟩
    · next hzero =>
      split at h
      · next hdigit =>
        injection h with h
        have heq := spanDigits_eq (c :: t)
        have hdigits := (digits_of_spanDigits (c :: t)).1
        rw [h] at heq hdigits
        refine ⟨?_, heq⟩
        -- the first digit is in the run, so the run starts with it
        cases whole with
        | nil =>
            have hrest : spanDigits (c :: t) = ([], rest) := h
            unfold spanDigits at hrest
            rw [List.span_eq_takeWhile_dropWhile,
              List.takeWhile_cons_of_pos hdigit] at hrest
            cases hrest
        | cons d whole =>
            injection heq with hd _
            exact .digits (hd ▸ hzero) ⟨List.cons_ne_nil _ _, hdigits⟩
      · cases h

theorem fraction_readFraction (t : Text) :
    ∃ u, Fraction u ∧ t = u ++ (readFraction t).2 := by
  unfold readFraction
  split
  · next t =>
    split
    · exact ⟨[], .none, rfl⟩
    · next digits rest hne heq =>
      have hspan := spanDigits_eq t
      have hdigits := (digits_of_spanDigits t).1
      rw [heq] at hspan hdigits
      exact ⟨_, .some ⟨hne, hdigits⟩, by rw [hspan]; rfl⟩
  · exact ⟨[], .none, rfl⟩

theorem sign_readSign (t : Text) :
    ∃ sign, (sign = [] ∨ sign = [.scalar '+'] ∨ sign = [.scalar '-'])
      ∧ t = sign ++ (readSign t).2 := by
  unfold readSign
  split
  · exact ⟨_, .inr (.inr rfl), rfl⟩
  · exact ⟨_, .inr (.inl rfl), rfl⟩
  · exact ⟨_, .inl rfl, rfl⟩

theorem exponent_readExponent (t : Text) :
    ∃ u, Exponent u ∧ t = u ++ (readExponent t).2 := by
  unfold readExponent
  split
  · exact ⟨[], .none, rfl⟩
  · next c rest =>
    split
    · next hmark =>
      simp only [Bool.or_eq_true, decide_eq_true_iff] at hmark
      obtain ⟨sign, hsign, hbody⟩ := sign_readSign rest
      have hspan := spanDigits_eq (readSign rest).2
      have hdigits := (digits_of_spanDigits (readSign rest).2).1
      dsimp only
      split
      · exact ⟨[], .none, rfl⟩
      · next digits left hne heq =>
        rw [heq] at hspan hdigits
        refine ⟨_, .some hmark hsign ⟨hne, hdigits⟩, ?_⟩
        rw [List.cons_append, List.append_assoc, ← hspan, ← hbody]
    · exact ⟨[], .none, rfl⟩

/-- A numeral is taken off the text as a number. -/
theorem number_readNumeral? {t rest : Text} {n : Numeral}
    (h : readNumeral? t = some (n, rest)) :
    ∃ u, t = u ++ rest ∧ Number u := by
  unfold readNumeral? at h
  dsimp only at h
  split at h
  · cases h
  · next whole left hwhole =>
    cases h
    obtain ⟨sign, hsign, ht⟩ := sign_readMinus t
    obtain ⟨hw, hleft⟩ := whole_readWhole? hwhole
    obtain ⟨u, hu, hfraction⟩ := fraction_readFraction left
    obtain ⟨v, hv, hexponent⟩ := exponent_readExponent (readFraction left).2
    refine ⟨_, ?_, .mk hsign hw hu hv⟩
    rw [List.append_assoc, List.append_assoc, List.append_assoc, ← hexponent,
      ← hfraction, ← hleft, ← ht]

-- =============================================================== words

/-- A word or a number is taken off as a token. -/
theorem takes_readWord : Takes readWord Token := by
  intro t s rest h
  unfold readWord at h
  split at h
  · next word outcome hfind =>
    obtain ⟨s', hs, heq⟩ := ok_of_map h
    cases heq
    have hstarts := List.find?_some hfind
    have hprefix : word <+: t := List.isPrefixOf_iff_prefix.1 hstarts
    refine ⟨word, (List.prefix_iff_eq_append.1 hprefix).symm, .word ?_⟩
    have hmem := List.mem_map_of_mem (f := (·.1))
      (List.mem_of_find?_eq_some hfind)
    exact hmem
  · split at h
    · cases h
    · next n left hn =>
      obtain ⟨s', hs, heq⟩ := ok_of_map h
      cases heq
      obtain ⟨u, hu, hnumber⟩ := number_readNumeral? hn
      exact ⟨u, hu, .number hnumber⟩

-- ============================================================ failures

/-- What a string, a word or a number may be refused with: what is repeated
of the text is written like a word or a number, and room is not spoken of. -/
def Failure.OfToken : Failure → Prop
  | .malformed _ _ | .tooManyDigits _ => True
  | .constant word | .outOfRange word => ∀ c ∈ word, isTokenPoint c = true
  | .noRoom => False

section Failures

variable {e : Failure}

theorem error_of_map {α β : Type} {x : Except Failure α} {g : α → β}
    (h : x.map g = .error e) : x = .error e := by
  cases x with
  | error e' =>
      injection h with h
      rw [h]
  | ok a => cases h

theorem ofToken_readPieces {opening t : Text}
    (h : readPieces opening t = .error e) : e.OfToken := by
  fun_induction readPieces opening t with
  | case4 _ _ _ _ _ _ _ _ _ ih | case7 _ _ _ _ _ _ ih | case10 _ _ _ _ _ ih =>
      exact ih (error_of_map h)
  | case2 => cases h
  | case1 | case3 | case5 | case6 | case8 | case9 =>
      cases h
      trivial

theorem ofToken_readString {t : Text} (h : readString t = .error e) :
    e.OfToken := by
  cases t with
  | nil =>
      cases h
      trivial
  | cons quote t => exact ofToken_readPieces (error_of_map h)

/-- A numeral that is out of range is repeated as it was written. -/
theorem ofToken_value {t rest : Text} {n : Numeral}
    (hn : readNumeral? t = some (n, rest)) (h : n.value t rest = .error e) :
    e.OfToken := by
  obtain ⟨u, rfl, hnumber⟩ := number_readNumeral? hn
  have hconsumed : consumed (u ++ rest) rest = u := by
    unfold consumed
    rw [List.length_append, Nat.add_sub_cancel, List.take_left]
  unfold Numeral.value at h
  split at h
  · split at h
    · cases h
      trivial
    · cases h
  · dsimp only at h
    split at h
    · cases h
    · cases h
      show ∀ c ∈ consumed (u ++ rest) rest, _
      rw [hconsumed]
      exact hnumber.points

theorem ofToken_readWord {t : Text} (h : readWord t = .error e) :
    e.OfToken := by
  unfold readWord at h
  split at h
  · next word outcome hfind =>
    have hmem := List.mem_of_find?_eq_some hfind
    have herror := error_of_map h
    simp only [words, List.mem_cons, List.not_mem_nil, or_false,
      Prod.mk.injEq] at hmem
    rcases hmem with hw | hw | hw | hw | hw | hw <;> rw [hw.2] at herror <;>
      cases herror
    all_goals
      show ∀ c ∈ _, _
      decide
  · split at h
    · cases h
      trivial
    · next hn => exact ofToken_value hn (error_of_map h)

end Failures

-- ============================================================== values

/-- A value with at most so many levels. -/
def IsValue (room : Nat) (u : Text) : Prop := ∃ d ≤ room, Phrase .value d u

/-- The entries of a container with at most so many levels, up to its
closing bracket. -/
def IsBody (k : Container) (room : Nat) (u : Text) : Prop :=
  ∃ d ≤ room, ∃ e, Phrase (.entries k) d e ∧ u = e ++ [k.closer]

/-- A container is its brackets with white space or its entries between. -/
theorem IsBody.enclosed {k : Container} {room : Nat} {t u rest : Text}
    (h : IsBody k room u) (ht : skipSpace t = u ++ rest) :
    ∃ v, k.opener :: t = v ++ rest ∧ IsValue (room + 1) v := by
  obtain ⟨s, hs, heq⟩ := spaces_skipSpace t
  obtain ⟨d, hd, e, he, rfl⟩ := h
  refine ⟨_, ?_, d + 1, Nat.succ_le_succ hd, .full hs he⟩
  rw [heq, ht, List.cons_append, List.append_assoc, List.append_assoc,
    List.append_assoc]

theorem isValue_empty (k : Container) {room : Nat} {t rest : Text}
    (ht : skipSpace t = k.closer :: rest) :
    ∃ v, k.opener :: t = v ++ rest ∧ IsValue (room + 1) v := by
  obtain ⟨s, hs, heq⟩ := spaces_skipSpace t
  refine ⟨_, ?_, 1, Nat.succ_le_succ (Nat.zero_le _), .empty k hs⟩
  rw [heq, ht, List.cons_append, List.append_assoc, List.singleton_append]

section Entries

variable {k : Container} {room : Nat} {t u rest after : Text}
  (hentry : ∃ d ≤ room, ∀ s, Spaces s → Phrase (.entry k) d (u ++ s))
  (ht : t = u ++ rest)

include hentry ht

/-- The last entry ends where the container is closed. -/
theorem isBody_last (hrest : skipSpace rest = k.closer :: after) :
    ∃ v, t = v ++ after ∧ IsBody k room v := by
  obtain ⟨d, hd, hphrase⟩ := hentry
  obtain ⟨s, hs, heq⟩ := spaces_skipSpace rest
  refine ⟨u ++ s ++ [k.closer], ?_, d, hd, _, .last (hphrase s hs), rfl⟩
  rw [ht, heq, hrest, List.append_assoc, List.append_assoc,
    List.singleton_append]

/-- Behind a comma there are more entries. -/
theorem isBody_more {v left : Text}
    (hrest : skipSpace rest = .scalar ',' :: after)
    (hmore : skipSpace after = v ++ left) (hv : IsBody k room v) :
    ∃ w, t = w ++ left ∧ IsBody k room w := by
  obtain ⟨d, hd, hphrase⟩ := hentry
  obtain ⟨s, hs, heq⟩ := spaces_skipSpace rest
  obtain ⟨s', hs', heq'⟩ := spaces_skipSpace after
  obtain ⟨d', hd', e, he, rfl⟩ := hv
  refine ⟨_, ?_, max d d', Nat.max_le.2 ⟨hd, hd'⟩, _,
    .more (hphrase s hs) hs' he, rfl⟩
  rw [ht, heq, hrest, heq', hmore]
  simp only [List.append_assoc, List.cons_append]

end Entries

section Steps

variable {fuel : Nat}

/-- A value is taken in one step from elements or members. -/
theorem takes_readValue
    (hitems : ∀ room, Takes (readItems fuel room) (IsBody .array room))
    (hmembers : ∀ room, Takes (readMembers fuel room) (IsBody .object room))
    (room : Nat) : Takes (readValue (fuel + 1) room) (IsValue room) := by
  intro t v rest h
  rw [readValue.eq_def] at h
  dsimp only at h
  split at h
  · cases h
  · next c t =>
    split at h
    · -- a string
      next hquote =>
      obtain ⟨r, hr, heq⟩ := ok_of_map h
      cases heq
      subst hquote
      obtain ⟨body, hbody, heq⟩ := of_readString hr
      exact ⟨_, heq, 0, Nat.zero_le _, .token (.string hbody)⟩
    · split at h
      · -- an array
        next hopen =>
        subst hopen
        split at h
        · cases h
        · next room =>
          split at h
          · next after heq =>
            cases h
            exact isValue_empty .array heq
          · obtain ⟨r, hr, heq⟩ := ok_of_map h
            cases heq
            obtain ⟨u, hu, hbody⟩ := hitems room _ _ _ hr
            exact hbody.enclosed hu
      · split at h
        · -- an object
          next hopen =>
          subst hopen
          split at h
          · cases h
          · next room =>
            split at h
            · next after heq =>
              cases h
              exact isValue_empty .object heq
            · obtain ⟨r, hr, heq⟩ := ok_of_map h
              cases heq
              obtain ⟨u, hu, hbody⟩ := hmembers room _ _ _ hr
              exact hbody.enclosed hu
        · -- a word or a number
          obtain ⟨r, hr, heq⟩ := ok_of_map h
          cases heq
          obtain ⟨u, hu, htoken⟩ := takes_readWord _ _ _ hr
          exact ⟨u, hu, 0, Nat.zero_le _, .token htoken⟩

variable {room : Nat} (hvalue : Takes (readValue fuel room) (IsValue room))

include hvalue

/-- The elements of an array are taken in one step from the first of them
and the others. -/
theorem takes_readItems
    (hitems : Takes (readItems fuel room) (IsBody .array room)) :
    Takes (readItems (fuel + 1) room) (IsBody .array room) := by
  intro t vs rest h
  rw [readItems.eq_def] at h
  dsimp only at h
  split at h
  · cases h
  · next v left hv =>
    obtain ⟨u, hu, d, hd, hphrase⟩ := hvalue _ _ _ hv
    have hentry : ∃ d ≤ room, ∀ s, Spaces s →
        Phrase (.entry .array) d (u ++ s) :=
      ⟨d, hd, fun s hs => .item hphrase hs⟩
    split at h
    · next after heq =>
      cases h
      exact isBody_last hentry hu heq
    · next after heq =>
      obtain ⟨r, hr, heq'⟩ := ok_of_map h
      cases heq'
      obtain ⟨w, hw, hbody⟩ := hitems _ _ _ hr
      exact isBody_more hentry hu heq hw hbody
    · cases h

/-- The members of an object are taken in one step from the first of them
and the others. -/
theorem takes_readMembers
    (hmembers : Takes (readMembers fuel room) (IsBody .object room)) :
    Takes (readMembers (fuel + 1) room) (IsBody .object room) := by
  intro t ms rest h
  rw [readMembers.eq_def] at h
  dsimp only at h
  split at h
  · next t =>
    split at h
    · cases h
    · next name left hname =>
      obtain ⟨body, hbody, ht⟩ := of_readString hname
      obtain ⟨s, hs, hleft⟩ := spaces_skipSpace left
      split at h
      · next after heq =>
        obtain ⟨s', hs', hafter⟩ := spaces_skipSpace after
        split at h
        · cases h
        · next v left' hv =>
          obtain ⟨u, hu, d, hd, hphrase⟩ := hvalue _ _ _ hv
          have hentry : ∃ d ≤ room, ∀ s'', Spaces s'' →
              Phrase (.entry .object) d
                ((.scalar '"' :: (body ++ [.scalar '"']) ++ s ++ [.scalar ':']
                  ++ s') ++ u ++ s'') :=
            ⟨d, hd, fun s'' hs'' => .member hbody hs hs' hphrase hs''⟩
          have htext : .scalar '"' :: t
              = ((.scalar '"' :: (body ++ [.scalar '"']) ++ s ++ [.scalar ':']
                  ++ s') ++ u) ++ left' := by
            rw [ht, hleft, heq, hafter, hu]
            simp only [List.append_assoc, List.cons_append, List.nil_append]
          split at h
          · next last heq' =>
            cases h
            exact isBody_last hentry htext heq'
          · next more heq' =>
            obtain ⟨r, hr, heq''⟩ := ok_of_map h
            cases heq''
            obtain ⟨w, hw, hbody'⟩ := hmembers _ _ _ hr
            exact isBody_more hentry htext heq' hw hbody'
          · cases h
      · cases h
  · cases h

end Steps

/-- What is read is a phrase of the grammar, no deeper than there was room
for. -/
theorem takes_read (fuel : Nat) : ∀ room,
    Takes (readValue fuel room) (IsValue room)
      ∧ Takes (readItems fuel room) (IsBody .array room)
      ∧ Takes (readMembers fuel room) (IsBody .object room) := by
  induction fuel with
  | zero =>
      intro room
      refine ⟨?_, ?_, ?_⟩
      · intro t v rest h
        rw [readValue.eq_def] at h
        cases h
      · intro t vs rest h
        rw [readItems.eq_def] at h
        cases h
      · intro t ms rest h
        rw [readMembers.eq_def] at h
        cases h
  | succ fuel ih =>
      intro room
      obtain ⟨hvalue, hitems, hmembers⟩ := ih room
      exact ⟨takes_readValue (fun room => (ih room).2.1)
          (fun room => (ih room).2.2) room,
        takes_readItems hvalue hitems, takes_readMembers hvalue hmembers⟩

/-- A text that is read is a JSON text within the limit of depth. -/
theorem document_of_read {t : Text} {v : Json} (h : read t = .ok v) :
    ∃ d ≤ maxDepth, Document d t := by
  obtain ⟨-, -, rest, hvalue, hnil⟩ := read_eq_ok_iff.1 h
  obtain ⟨s, hs, ht⟩ := spaces_skipSpace t
  obtain ⟨u, hu, d, hd, hphrase⟩ := (takes_read _ _).1 _ _ _ hvalue
  obtain ⟨s', hs', hrest⟩ := spaces_skipSpace rest
  rw [hnil, List.append_nil] at hrest
  rw [ht, hu, hrest, ← List.append_assoc]
  exact ⟨d, hd, .mk hs hphrase hs'⟩

end Marginalia.Json
